import SlotServer.Shell.Format
import SlotServer.Shell.Utility.Basic

/-!
# Translating bytes

A program that replaces, deletes and squeezes the bytes of its input. The sets of bytes that it
works on are written with ranges, classes, repetitions and escapes.
-/

namespace SlotServer.Shell.Utility

open Pattern (code)
open Work

namespace Translation

/-- A part of a set. -/
inductive Item where
  | bytes (list : Bytes)
  | named (name : String)
  /-- A byte so many times, or as often as it takes to fill the set up. -/
  | repeated (b : UInt8) (count : Option Nat)
  deriving DecidableEq, Repr

/-- A byte of a set, of which `isLiteral` says that it does not mean anything else. -/
structure Symbol where
  byte : UInt8
  isLiteral : Bool
  deriving DecidableEq, Repr

def Symbol.isPlain (s : Symbol) (c : Char) : Bool := !s.isLiteral && s.byte = code c

/-- The symbols of a set, and whether it ends in a backslash that stands alone. -/
def symbols : Nat → Bytes → List Symbol × Bool
  | 0, _ => ([], false)
  | _ + 1, [] => ([], false)
  | steps + 1, b :: rest =>
    if b = code '\\' then
      if rest.isEmpty then ([⟨b, true⟩], true)
      else
        let isKnown := rest.head?.any fun c =>
          "\\abfnrtv01234567".toList.any fun k => code k = c
        let (values, after) :=
          if isKnown then Format.escape false rest else (rest.take 1, rest.drop 1)
        let (more, isOpen) := symbols steps after
        (values.map (Symbol.mk · true) ++ more, isOpen)
    else
      let (more, isOpen) := symbols steps rest
      (⟨b, false⟩ :: more, isOpen)

/-- What stands in brackets with marks inside them, and what follows: `[:name:]` or `[=b=]`. -/
def marked? (mark : Char) : List Symbol → Option (List Symbol × List Symbol)
  | first :: rest =>
    if !first.isPlain mark then none
    else
      let rec go : List Symbol → List Symbol → Option (List Symbol × List Symbol)
        | a :: b :: rest, found =>
          if a.isPlain mark && b.isPlain ']' then some (found.reverse, rest)
          else go (b :: rest) (a :: found)
        | _, _ => none
      match go rest [] with
      | some ([], _) => none
      | found => found
  | [] => none

/-- A repetition in brackets and what follows: the byte and the text of the count. -/
def repeated? : List Symbol → Option (UInt8 × List Symbol × List Symbol)
  | b :: star :: rest =>
    if !star.isPlain '*' then none
    else
      let count := rest.takeWhile fun s => !s.isPlain ']'
      match rest.drop count.length with
      | _ :: after => some (b.byte, count, after)
      | [] => none
  | _ => none

def textOfSymbols (list : List Symbol) : String := textOf (list.map Symbol.byte)

def shownByte (b : UInt8) : String :=
  if Quoting.isPrintable b then String.singleton (Quoting.shown b)
  else String.ofList (Quoting.octal b)

/-- The count of a repetition. A count that begins with a zero is octal. -/
def count? (text : String) : Option (Option Nat) :=
  let radix := if text.startsWith "0" then 8 else 10
  match Text.digits radix text.toList with
  | (ds, []) =>
    let n := Text.ofDigits radix ds
    some (if n = 0 then none else some n)
  | _ => none

def items : Nat → List Symbol → Except String (List Item)
  | 0, _ => .ok []
  | _ + 1, [] => .ok []
  | steps + 1, s :: rest => do
    let isOpen := s.isPlain '['
    match if isOpen then marked? ':' rest else none with
    | some (name, after) =>
      let name := textOfSymbols name
      if Pattern.classes.any fun (n, _) => n = name then
        return .named name :: (← items steps after)
      else throw s!"invalid character class {Quoting.literal name}"
    | none =>
      match if isOpen then marked? '=' rest else none with
      | some ([one], after) => return .bytes [one.byte] :: (← items steps after)
      | some (name, _) =>
        throw (s!"{textOfSymbols name}: equivalence class operand " ++
          "must be a single character")
      | none =>
        match if isOpen then repeated? rest else none with
        | some (b, count, after) =>
          match count? (textOfSymbols count) with
          | some n => return .repeated b n :: (← items steps after)
          | none =>
            let shown := Quoting.literal (textOfSymbols count)
            throw s!"invalid repeat count {shown} in [c*n] construct"
        | none =>
          match rest with
          | dash :: last :: after =>
            if dash.isPlain '-' then
              if last.byte < s.byte then
                throw (s!"range-endpoints of '{shownByte s.byte}-{shownByte last.byte}' " ++
                  "are in reverse collating sequence order")
              else
                let list := (List.range (last.byte.toNat + 1 - s.byte.toNat)).map fun i =>
                  s.byte + i.toUInt8
                return .bytes list :: (← items steps after)
            else return .bytes [s.byte] :: (← items steps rest)
          | _ => return .bytes [s.byte] :: (← items steps rest)

def classBytes (name : String) : Bytes :=
  let test := (Pattern.classes.lookup name).getD fun _ => false
  ((List.range 256).map Nat.toUInt8).filter test

/-- The bytes of an item, where a repetition without a count takes up `room`. -/
def Item.expand (room : Nat) : Item → Bytes
  | bytes list => list
  | named name => classBytes name
  | repeated b count => List.replicate (count.getD room) b

/-- The bytes of a set; a repetition without a count fills it up to `size`. -/
def expanded (size : Nat) (set : List Item) : Bytes :=
  let fixed := (set.map fun i => i.expand 0).flatten
  (set.map fun i => i.expand (size - fixed.length)).flatten

/-- Whether an item is the class of small or of capital letters. -/
def Item.isCase (i : Item) : Bool := i = .named "lower" || i = .named "upper"

/-- Where the classes of small and of capital letters stand in a set. -/
def casePlaces (set : List Item) : Nat → List Nat
  | start =>
    (set.foldl (fun (places, at_) item =>
      (if item.isCase then at_ :: places else places, at_ + (item.expand 0).length))
      (([] : List Nat), start)).1.reverse

/-- Leaves out a byte of a set that repeats the one before. -/
def squeeze (isIn : UInt8 → Bool) : Bytes → Bytes
  | a :: b :: rest =>
    if a = b && isIn a then squeeze isIn (b :: rest) else a :: squeeze isIn (b :: rest)
  | short => short

/-- The small letters beside capital ones that two sets give, where both name classes. -/
def caseMap (first second : List Item) (b : UInt8) : Option UInt8 :=
  let pairs := (first.filter Item.isCase).zip (second.filter Item.isCase)
  let lower := 0x61 ≤ b && b ≤ 0x7A
  let upper := 0x41 ≤ b && b ≤ 0x5A
  if lower && pairs.contains (.named "lower", .named "upper") then some (b - 0x20)
  else if upper && pairs.contains (.named "upper", .named "lower") then some (b + 0x20)
  else none

end Translation

open Translation in
/-- Replaces, deletes and squeezes bytes. -/
def tr : Program := fun args => do
  let table : OptionTable :=
    { letters := "cCdst"
      names := [("complement", "c"), ("delete", "d"), ("squeeze-repeats", "s"),
        ("truncate-set1", "t")]
      endsAtOperand := true }
  let o ← options table args
  let complemented := o.hasAny ["c", "C"]
  let deletes := o.has "d"
  let squeezes := o.has "s"
  let translates := !deletes && !(squeezes && o.operands.length = 1)
  let least := if deletes == squeezes then 2 else 1
  let most := if deletes && !squeezes then 1 else 2
  match o.operands with
  | [] => misuse "missing operand"
  | first :: others =>
    if o.operands.length < least then
      complain s!"missing operand after {Quoting.literal first}"
      let name := (← get).name
      warn (if squeezes then "Two strings must be given when both deleting and squeezing repeats."
        else "Two strings must be given when translating.")
      warn s!"Try '{name} --help' for more information."
      stop
    match others.drop (most - 1) with
    | extra :: more =>
      complain s!"extra operand {Quoting.literal extra}"
      if most = 1 && more.isEmpty then
        warn "Only one string may be given when deleting without squeezing repeats."
      let name := (← get).name
      warn s!"Try '{name} --help' for more information."
      stop
    | [] => pure ()
    let parse (text : String) : Work (List Translation.Item) := do
      let bytes := Utf8.encodeString text
      let (list, isOpen) := symbols (bytes.length + 1) bytes
      if isOpen then
        let name := (← get).name
        warn s!"{name}: warning: an unescaped backslash at end of string is not portable"
      match items (list.length + 1) list with
      | .ok set => return set
      | .error message => fail message
    let set1 ← parse first
    let set2 ←
      match others with
      | text :: _ => parse text
      | [] => pure []
    let isIn (b : UInt8) : Bool := (expanded 0 set1).contains b != complemented
    if set1.any fun i => i matches .repeated _ none then
      fail "the [c*] repeat construct may not appear in string1"
    let members :=
      if complemented then ((List.range 256).map Nat.toUInt8).filter isIn else expanded 0 set1
    if translates then
      if 1 < (set2.filter fun i => i matches .repeated _ none).length then
        fail "only one [c*] repeat construct may appear in string2"
      if set2.any fun i => (i matches .named _) && !i.isCase then
        fail ("when translating, the only character classes that may appear in\n" ++
          "string2 are 'upper' and 'lower'")
      if set2.any Translation.Item.isCase && !complemented then
        let places := casePlaces set1 0
        if (casePlaces set2 0).any fun place => !places.contains place then
          fail "misaligned [:upper:] and/or [:lower:] construct"
    let target := expanded members.length set2
    if translates && !o.has "t" then
      if target.isEmpty && !members.isEmpty then
        fail "when not truncating set1, string2 must be non-empty"
      if target.length < members.length && set2.getLast?.any fun i => i matches .named _ then
        fail ("when translating with string1 longer than string2,\n" ++
          "the latter string must not end with a character class")
    let bytes ←
      match ← input with
      | .ok bytes => pure bytes
      | .error error => fail s!"read error: {error.description}"
    let last := target.getLastD 0
    let sources := if o.has "t" then members.take target.length else members
    let pairs := sources.zipIdx.map fun (b, i) => (b, target.getD i last)
    let replaced (b : UInt8) : UInt8 :=
      match if complemented then none else caseMap set1 set2 b with
      | some c => c
      | none => ((pairs.reverse.lookup b).getD b)
    let inTarget (b : UInt8) : Bool := target.contains b
    if deletes then
      let kept := bytes.filter fun b => !isIn b
      put (if squeezes then squeeze (fun b => (expanded 0 set2).contains b) kept else kept)
    else if translates then
      let changed := bytes.map replaced
      put (if squeezes then squeeze inTarget changed else changed)
    else put (squeeze isIn bytes)

end SlotServer.Shell.Utility
