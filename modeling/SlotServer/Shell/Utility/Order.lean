import SlotServer.Shell.Format.Real
import SlotServer.Shell.Utility.Pages

/-!
# Order

Programs that write lines in order, and that compare lines which follow each other or stand in two
files.
-/

namespace SlotServer.Shell.Utility

open Pattern (code)
open Work

namespace Order

def isBlank (b : UInt8) : Bool := b = 0x20 || b = 0x09 || b = 0x0A

/-- Where a part of a line begins or ends: after so many fields and so many bytes more. -/
structure Position where
  fields : Nat
  bytes : Nat
  deriving Repr

/-- A key to order lines by. -/
structure Key where
  start : Position
  finish : Option Position
  letters : List Char
  /-- Whether blanks are left out before its start, and before its end. -/
  skips : Bool × Bool
  deriving Repr

def afterField (separator : Option UInt8) (line : Bytes) : Bytes :=
  match separator with
  | some s => line.dropWhile (· ≠ s)
  | none => (line.dropWhile isBlank).dropWhile fun b => !isBlank b

def fromStart (separator : Option UInt8) (k : Key) (line : Bytes) : Bytes :=
  let next (line : Bytes) : Bytes :=
    let rest := afterField separator line
    if separator.isSome then rest.drop 1 else rest
  let rest := (List.range k.start.fields).foldl (fun rest _ => next rest) line
  let rest := if k.skips.1 then rest.dropWhile isBlank else rest
  rest.drop k.start.bytes

def afterFinish (separator : Option UInt8) (k : Key) (finish : Position) (line : Bytes) : Bytes :=
  let count := if finish.bytes = 0 then finish.fields + 1 else finish.fields
  let rest := (List.range count).foldl (fun rest i =>
    let rest := afterField separator rest
    if separator.isSome && (i + 1 < count || finish.bytes ≠ 0) then rest.drop 1 else rest) line
  if finish.bytes = 0 then rest
  else (if k.skips.2 then rest.dropWhile isBlank else rest).drop finish.bytes

def Key.part (separator : Option UInt8) (k : Key) (line : Bytes) : Bytes :=
  let rest := fromStart separator k line
  match k.finish with
  | none => rest
  | some finish => rest.take (rest.length - (afterFinish separator k finish line).length)

/-- A byte as a capital letter. -/
def upper (b : UInt8) : UInt8 := if 0x61 ≤ b && b ≤ 0x7A then b - 0x20 else b

def counted (letters : List Char) (text : Bytes) : Bytes :=
  let isWord (b : UInt8) : Bool :=
    b = 0x20 || b = 0x09 || (Quoting.isPrintable b && (Quoting.shown b).isAlphanum)
  let text := if letters.contains 'd' then text.filter isWord else text
  let text := if letters.contains 'i' then text.filter Quoting.isPrintable else text
  if letters.contains 'f' then text.map upper else text

def compareBytes : Bytes → Bytes → Ordering
  | [], [] => .eq
  | [], _ => .lt
  | _, [] => .gt
  | a :: x, b :: y => if a < b then .lt else if b < a then .gt else compareBytes x y

/-- A decimal number at the start of a text: its sign, the digits before the point and those after
it; and the text after it. -/
def decimal (text : Bytes) : Bool × List Nat × List Nat × Bytes :=
  let isDigit (b : UInt8) : Bool := 0x30 ≤ b && b ≤ 0x39
  let value (b : UInt8) : Nat := (b - 0x30).toNat
  let text := text.dropWhile isBlank
  let negative := text.head? = some (code '-')
  let text := if negative then text.drop 1 else text
  let whole := text.takeWhile isDigit
  let rest := text.drop whole.length
  let part := if rest.head? = some (code '.') then (rest.drop 1).takeWhile isDigit else []
  let rest := if part.isEmpty then rest else rest.drop (part.length + 1)
  (negative, whole.map value, part.map value, rest)

def compareDecimals (x y : Bytes) : Ordering :=
  let (negativeX, wholeX, partX, _) := decimal x
  let (negativeY, wholeY, partY, _) := decimal y
  let places := max partX.length partY.length
  let scaled (negative : Bool) (whole part : List Nat) : Int :=
    let digits := whole ++ part ++ List.replicate (places - part.length) 0
    let n : Int := Text.ofDigits 10 digits
    if negative then -n else n
  compare (scaled negativeX wholeX partX) (scaled negativeY wholeY partY)

/-- The letters of the powers of a thousand. -/
def magnitudes : List Char := "KMGTPEZYRQ".toList

/-- Compares numbers by the letter after them first. -/
def compareSizes (x y : Bytes) : Ordering :=
  let rank (text : Bytes) : Int :=
    let (negative, whole, part, rest) := decimal text
    let isZero := (whole ++ part).all (· = 0)
    let letter := (rest.head?.map Quoting.shown).getD ' '
    let letter := if letter = 'k' then 'K' else letter
    let place : Nat := ((magnitudes.findIdx? (· = letter)).map fun i => i + 1).getD 0
    let power : Int := if isZero then 0 else place
    if negative && !isZero then -power else power
  (compare (rank x) (rank y)).then (compareDecimals x y)

/-- The months, by their first letters. -/
def months : List String :=
  ["JAN", "FEB", "MAR", "APR", "MAY", "JUN", "JUL", "AUG", "SEP", "OCT", "NOV", "DEC"]

/-- The number of the month that a text begins with, and zero for none. -/
def month (text : Bytes) : Nat :=
  let start := textOf (((text.dropWhile isBlank).take 3).map upper)
  ((months.findIdx? (· = start)).map (· + 1)).getD 0

/-- A floating point number at the start of a text, with its place among what is none. -/
def general (text : Bytes) : Nat × Float :=
  let (x, _, isMissing, _) := Format.Real.start (textOf (text.dropWhile isBlank)).toList
  if isMissing then (0, 0)
  else
    match x with
    | .noNumber _ => (1, 0)
    | .infinite negative => (2, if negative then -1 / 0 else 1 / 0)
    | .finite _ _ =>
      match Format.Real.unsigned? (((textOf (text.dropWhile isBlank)).toList).dropWhile
          fun c => c = '-' || c = '+') with
      | some (value, _, _) =>
        let negative := (text.dropWhile isBlank).head? = some (code '-')
        (2, if negative then -value else value)
      | none => (0, 0)

/-- Compares floating point numbers; what is no number comes first. -/
def compareGeneral (x y : Bytes) : Ordering :=
  let (kindX, valueX) := general x
  let (kindY, valueY) := general y
  (compare kindX kindY).then
    (if valueX < valueY then .lt else if valueY < valueX then .gt else .eq)

/-- The place of a byte in the order of versions: a tilde, then the end of the text or a digit,
then letters, then everything else. -/
def versionRank (b : Option UInt8) : Int :=
  match b with
  | none => -1
  | some b =>
    let c := Quoting.shown b
    if c = '~' then -2
    else if c.isDigit then 0
    else if c.isAlpha then b.toNat
    else b.toNat + 256

def compareVersions : Nat → Bytes → Bytes → Ordering
  | 0, _, _ => .eq
  | steps + 1, x, y =>
    if x.isEmpty && y.isEmpty then .eq
    else
      let isDigit (b : UInt8) : Bool := 0x30 ≤ b && b ≤ 0x39
      let isText (b : Option UInt8) : Bool := b.any fun b => !isDigit b
      if isText x.head? || isText y.head? then
        let a := versionRank x.head?
        let b := versionRank y.head?
        let a := if x.head?.any isDigit then 0 else a
        let b := if y.head?.any isDigit then 0 else b
        if a ≠ b then compare a b else compareVersions steps (x.drop 1) (y.drop 1)
      else
        let number (text : Bytes) : Bytes :=
          (text.takeWhile isDigit).dropWhile (· = 0x30)
        let a := number x
        let b := number y
        match (compare a.length b.length).then (compareBytes a b) with
        | .eq => compareVersions steps (x.dropWhile isDigit) (y.dropWhile isDigit)
        | other => other

/-- Compares the parts of lines that a key is about. -/
def compareParts (letters : List Char) (x y : Bytes) : Ordering :=
  let result :=
    if letters.contains 'n' then compareDecimals x y
    else if letters.contains 'g' then compareGeneral x y
    else if letters.contains 'h' then compareSizes x y
    else if letters.contains 'M' then compare (month x) (month y)
    else if letters.contains 'V' then
      (compareVersions (x.length + y.length + 1) x y)
    else compareBytes (counted letters x) (counted letters y)
  if letters.contains 'r' then result.swap else result

/-! ## Keys as arguments -/

def keyLetters : List Char := "bdfghiMnRrV".toList

/-- A number at the start of a text, and what follows it. -/
def count (text : List Char) : Option (Nat × List Char) :=
  match Text.digits 10 text with
  | ([], _) => none
  | (ds, rest) => some (Text.ofDigits 10 ds, rest)

def key (text : String) : Except String Key := do
  let shown := Quoting.literal text
  let invalid (what : String) : Except String Key :=
    throw s!"{what}: invalid field specification {shown}"
  let badCount (what : String) (rest : List Char) : Except String (Nat × List Char) :=
    throw s!"{what}: invalid count at start of {Quoting.literal (String.ofList rest)}"
  let number (what : String) (rest : List Char) : Except String (Nat × List Char) :=
    match count rest with
    | some found => .ok found
    | none => badCount what rest
  let (field, rest) ← number "invalid number at field start" text.toList
  if field = 0 then invalid "field number is zero"
  else
    let (byte, rest) ←
      match rest with
      | '.' :: rest => number "invalid number after '.'" rest
      | _ => pure (1, rest)
    if byte = 0 then invalid "character offset is zero"
    else
      let letters := rest.takeWhile keyLetters.contains
      let rest := rest.drop letters.length
      let start : Position := ⟨field - 1, byte - 1⟩
      match rest with
      | [] => return ⟨start, none, letters, (letters.contains 'b', false)⟩
      | ',' :: rest =>
        let (last, rest) ← number "invalid number after ','" rest
        if last = 0 then invalid "field number is zero"
        else
          let (byte, rest) ←
            match rest with
            | '.' :: rest => number "invalid number after '.'" rest
            | _ => pure (0, rest)
          let more := rest.takeWhile keyLetters.contains
          if rest.length ≠ more.length then invalid "stray character in field spec"
          else
            return ⟨start, some ⟨last - 1, byte⟩, letters ++ more,
              (letters.contains 'b', more.contains 'b')⟩
      | _ => invalid "stray character in field spec"

/-- A key with the letters of the options, if it has none of its own. -/
def Key.completed (k : Key) (letters : List Char) : Key :=
  if k.letters.isEmpty then
    { k with letters, skips := (letters.contains 'b', letters.contains 'b') }
  else k

/-- The letters of a comparison that do not go together, in order. -/
def incompatible? (letters : List Char) : Option String :=
  let has (c : Char) : Nat := if letters.contains c then 1 else 0
  let others := max (max (has 'V') (has 'R')) (max (has 'd') (has 'i'))
  if 1 < has 'n' + has 'g' + has 'h' + has 'M' + others then
    some (String.ofList ("dfghiMnRV".toList.filter letters.contains))
  else none

def mergeAll {α : Type} (before : α → α → Bool) (lists : List (List α)) : List α :=
  lists.foldl (fun merged list => merged.merge list before) []

/-- The first line that is out of order, with its number. -/
def disorder? {α : Type} (inOrder : α → α → Bool) : Nat → List α → Option (Nat × α)
  | n, a :: b :: rest =>
    if inOrder a b then disorder? inOrder (n + 1) (b :: rest) else some (n + 1, b)
  | _, _ => none

def kinds : List (String × Char) :=
  [("general-numeric", 'g'), ("human-numeric", 'h'), ("month", 'M'), ("numeric", 'n'),
    ("random", 'R'), ("version", 'V')]

end Order

open SlotServer.Shell.Utility.Order in
def sort : Program := fun args => do
  let table : OptionTable :=
    { letters := "bcCdfghik:mMno:rRsS:t:T:uVy:z"
      names := [("ignore-leading-blanks", "b"), ("dictionary-order", "d"), ("ignore-case", "f"),
        ("general-numeric-sort", "g"), ("ignore-nonprinting", "i"), ("month-sort", "M"),
        ("human-numeric-sort", "h"), ("numeric-sort", "n"), ("random-sort", "R"),
        ("reverse", "r"), ("version-sort", "V"), ("sort=", "sort"), ("check=?", "c"),
        ("key=", "k"), ("merge", "m"), ("output=", "o"), ("stable", "s"),
        ("buffer-size=", "S"), ("field-separator=", "t"), ("temporary-directory=", "T"),
        ("unique", "u"), ("zero-terminated", "z"), ("parallel=", "parallel"),
        ("batch-size=", "batch"), ("files0-from=", "files"), ("debug", "debug")] }
  let args := args.filter fun a =>
    !(a.startsWith "+" && (a.drop 1).copy.toNat?.isSome)
  let o ← options table args 2
  let kindLetters ← (o.values "sort").mapM fun word =>
    match (kinds.filter fun (name, _) => name.startsWith word).map Prod.snd with
    | [c] => pure c
    | _ => do
      let list := "\n".intercalate (kinds.map fun (name, _) => s!"  - {Quoting.literal name}")
      misuse (s!"invalid argument {Quoting.literal word} for '--sort'\n" ++
        s!"Valid arguments are:\n{list}") 1
  let letters := keyLetters.filter fun c => o.has (String.singleton c) || kindLetters.contains c
  let separator ←
    match o.value? "t" with
    | none => pure none
    | some "" => fail "empty tab" 2
    | some "\\0" => pure (some 0)
    | some text =>
      match Utf8.encodeString text with
      | [b] => pure (some b)
      | _ => fail s!"multi-character tab {Quoting.literal text}" 2
  let keys ← (o.values "k").mapM fun text =>
    match key text with
    | .ok k => pure (k.completed letters)
    | .error message => fail message 2
  let keys := if keys.isEmpty then
      [({ start := ⟨0, 0⟩, finish := none, letters, skips := (letters.contains 'b', false) } : Key)]
    else keys
  match keys.findSome? fun k => incompatible? k.letters with
  | some letters => fail s!"options '-{letters}' are incompatible" 2
  | none => pure ()
  let checks := o.hasAny ["c", "C"]
  match o.operands with
  | _ :: extra :: _ =>
    if checks then
      let option := (o.last? ["c", "C"]).getD ""
      fail s!"extra operand {Quoting.literal extra} not allowed with -{option}" 2
  | _ => pure ()
  let load (file : String) : Work (List Bytes) := do
    match ← read file with
    | .ok bytes =>
      return (linesOr (o.has "z") bytes).map fun l =>
        if l.getLast? = some (if o.has "z" then 0 else 0x0A) then l.dropLast else l
    | .error (.opening error) =>
      fail s!"cannot read: {Quoting.ifNeeded file}: {error.description}" 2
    | .error (.reading error) =>
      fail s!"read failed: {Quoting.ifNeeded file}: {error.description}" 2
  let lists ← (filesOrInput o.operands).mapM load
  let decorate (line : Bytes) : List Bytes × Bytes :=
    (keys.map fun k => k.part separator line, line)
  let byKeys (a b : List Bytes × Bytes) : Ordering :=
    (keys.zip (a.1.zip b.1)).foldl (fun result (k, x, y) =>
      result.then (compareParts k.letters x y)) .eq
  let isStable := o.hasAny ["s", "u"]
  let order (a b : List Bytes × Bytes) : Ordering :=
    (byKeys a b).then
      (if isStable then .eq
        else if letters.contains 'r' then compareBytes b.2 a.2 else compareBytes a.2 b.2)
  if checks then
    let list := (lists.flatten).map decorate
    let inOrder (a b : List Bytes × Bytes) : Bool :=
      if o.has "u" then byKeys a b == .lt else order a b != .gt
    match disorder? inOrder 1 list with
    | none => pure ()
    | some (n, line) =>
      let file := o.operands.headD "-"
      if o.has "C" then raise 1
      else complain s!"{file}:{n}: disorder: {textOf line.2}"
  else
    let before (a b : List Bytes × Bytes) : Bool := order a b != .gt
    let sorted := if o.has "m" then mergeAll before (lists.map (List.map decorate))
      else (lists.flatten.map decorate).mergeSort before
    let kept := if o.has "u" then
        (sorted.splitBy fun a b => byKeys a b == .eq).filterMap List.head?
      else sorted
    let ending : UInt8 := if o.has "z" then 0 else 0x0A
    let output := kept.flatMap fun line => line.2 ++ [ending]
    match o.value? "o" with
    | none => put output
    | some file =>
      match ← write file output with
      | .ok () => pure ()
      | .error error =>
        fail s!"open failed: {Quoting.ifNeeded file}: {error.description}" 2

/-! ## Lines that are the same -/

def comparedPart (fields bytes : Nat) (width : Option Nat) (line : Bytes) : Bytes :=
  let isBlank (b : UInt8) : Bool := b = 0x20 || b = 0x09
  let rest := (List.range fields).foldl (fun rest _ =>
    (rest.dropWhile isBlank).dropWhile fun b => !isBlank b) line
  let rest := rest.drop bytes
  (width.map rest.take).getD rest

/-- Writes lines that follow each other and are the same only once. -/
def uniq : Program := fun args => do
  let table : OptionTable :=
    { letters := "cdDf:is:uw:z0123456789"
      names := [("count", "c"), ("repeated", "d"), ("all-repeated=?", "D"), ("group=?", "group"),
        ("ignore-case", "i"), ("unique", "u"), ("skip-fields=", "f"), ("skip-chars=", "s"),
        ("check-chars=", "w"), ("zero-terminated", "z")] }
  let o ← options table args
  let digits := (o.given.filter fun (n, _) => n.toList.all Char.isDigit).map Prod.fst
  let amount (option what : String) : Work (Option Nat) := do
    match o.value? option with
    | none => return none
    | some text =>
      match Amount.ofText text with
      | .ok n => return some n
      | .error _ => fail s!"{text}: invalid number of {what}"
  let fields := (← amount "f" "fields to skip").getD ("".intercalate digits |>.toNat?.getD 0)
  let bytes := (← amount "s" "bytes to skip").getD 0
  let width ← amount "w" "bytes to compare"
  if o.has "c" && o.has "D" then
    misuse "printing all duplicated lines and repeat counts is meaningless"
  if o.has "group" && o.hasAny ["c", "d", "D", "u"] then
    misuse "--group is mutually exclusive with -c/-d/-D/-u"
  match o.operands.drop 2 with
  | extra :: _ => misuse s!"extra operand {Quoting.literal extra}"
  | [] => pure ()
  let file := o.operands.headD "-"
  let ending : UInt8 := if o.has "z" then 0 else 0x0A
  let input ←
    match ← read file with
    | .ok bytes =>
      pure ((linesOr (o.has "z") bytes).map fun l =>
        if l.getLast? = some ending then l.dropLast else l)
    | .error (.opening error) => fail s!"{Quoting.ifNeeded file}: {error.description}"
    | .error (.reading error) =>
      fail s!"error reading {Quoting.always file}: {error.description}"
  let part (line : Bytes) : Bytes :=
    let found := comparedPart fields bytes width line
    if o.has "i" then found.map Order.upper else found
  let groups := input.splitBy fun a b => part a == part b
  let kept := groups.filter fun g =>
    (!o.hasAny ["d", "D"] || 1 < g.length) && (!o.has "u" || g.length = 1)
  let ended (line : Bytes) : Bytes := line ++ [ending]
  let output :=
    if o.has "group" || o.has "D" then
      let method := ((o.value? "group").orElse fun _ => o.value? "D").getD ""
      let usual := if o.has "group" then "separate" else "none"
      let method := if method.isEmpty then usual else method
      let body := kept.map fun g => (g.map ended).flatten
      let gap : Bytes := [ending]
      match method with
      | "none" => body.flatten
      | "prepend" => body.flatMap fun b => gap ++ b
      | "append" => body.flatMap fun b => b ++ gap
      | "both" => body.flatMap (fun b => gap ++ b) ++ (if body.isEmpty then [] else gap)
      | _ => gap.intercalate body
    else
      kept.flatMap fun g =>
        let count := Utf8.encodeString (padLeft 7 (toString g.length) ++ " ")
        (if o.has "c" then count else []) ++ ended (g.headD [])
  match o.operands with
  | [_, target] =>
    if target = "-" then put output
    else
      match ← write target output with
      | .ok () => pure ()
      | .error error => fail s!"{Quoting.ifNeeded target}: {error.description}"
  | _ => put output

/-! ## Lines of two files -/

/-- Which of two files a line stands in. -/
inductive Side where
  | left | right | both
  deriving DecidableEq, Repr

/-- The lines of two files in order, each with where it stands. -/
def sides : Nat → List Bytes → List Bytes → List (Side × Bytes)
  | 0, _, _ => []
  | _ + 1, [], right => right.map fun l => (.right, l)
  | _ + 1, left, [] => left.map fun l => (.left, l)
  | steps + 1, a :: left, b :: right =>
    match Order.compareBytes a b with
    | .lt => (.left, a) :: sides steps left (b :: right)
    | .gt => (.right, b) :: sides steps (a :: left) right
    | .eq => (.both, a) :: sides steps left right

/-- Writes lines in columns: those of one file, those of another, and those of both. -/
def comm : Program := fun args => do
  let table : OptionTable :=
    { letters := "123z"
      names := [("check-order", "check"), ("nocheck-order", "nocheck"),
        ("output-delimiter=", "output"), ("total", "total"), ("zero-terminated", "z")] }
  let o ← options table args
  match o.operands with
  | [] => misuse "missing operand"
  | [one] => misuse s!"missing operand after {Quoting.literal one}"
  | _ :: _ :: third :: _ => misuse s!"extra operand {Quoting.literal third}"
  | [left, right] =>
    let load (file : String) : Work (List Bytes) := do
      match ← read file with
      | .ok bytes => return (lines bytes).map bare
      | .error fault => fail s!"{Quoting.ifNeeded file}: {fault.error.description}"
    let first ← load left
    let second ← load right
    let separator := Utf8.encodeString (((o.value? "output").filter (!·.isEmpty)).getD "\t")
    let all := sides (first.length + second.length + 1) first second
    let isShown (side : Side) : Bool :=
      match side with
      | .left => !o.has "1"
      | .right => !o.has "2"
      | .both => !o.has "3"
    let indent (side : Side) : Bytes :=
      match side with
      | .left => []
      | .right => if o.has "1" then [] else separator
      | .both =>
        (if o.has "1" then [] else separator) ++ (if o.has "2" then [] else separator)
    let inOrder (a b : Bytes) : Bool := Order.compareBytes a b != .gt
    let unsorted (list : List Bytes) : Bool := (Order.disorder? inOrder 1 list).isSome
    let isUnpaired := all.any fun (side, _) => side != .both
    for (side, line) in all do
      if isShown side then put (indent side ++ line ++ [0x0A])
    if isUnpaired && !o.has "nocheck" then
      if unsorted first then complain "file 1 is not in sorted order"
      if unsorted second then complain "file 2 is not in sorted order"
      if unsorted first || unsorted second then complain "input is not in sorted order"
    if o.has "total" then
      let count (side : Side) : String := toString (all.countP fun (s, _) => s == side)
      let gap := textOf separator
      putLine (gap.intercalate [count .left, count .right, count .both, "total"])

end SlotServer.Shell.Utility
