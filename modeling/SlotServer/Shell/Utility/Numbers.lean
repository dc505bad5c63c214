import SlotServer.Shell.Format
import SlotServer.Shell.Regular.Search
import SlotServer.Shell.Utility.Order

/-!
# Utilities that compute

Programs that write sequences of numbers, the prime factors of numbers, and the values of
expressions whose parts are arguments.
-/

namespace SlotServer.Shell.Utility

open Pattern (code)
open Work

/-! ## Sequences -/

namespace Sequence

/-- A decimal number: so many units of the last of its places. -/
structure Number where
  units : Int
  places : Nat
  /-- The characters that it is written with. -/
  width : Nat

/-- What an argument says: a number, or a bound that is never reached. -/
inductive Term where
  | number (n : Number)
  | endless (negative : Bool)
  | noNumber

def term? (text : String) : Option Term := do
  let shown := text.toList.dropWhile fun c => c = ' ' || c = '\t'
  let (negative, unsigned) : Bool × List Char :=
    match shown with
    | '-' :: rest => (true, rest)
    | '+' :: rest => (false, rest)
    | rest => (false, rest)
  let lower := unsigned.map Char.toLower
  let sign (n : Int) : Int := if negative then -n else n
  if lower = "inf".toList || lower = "infinity".toList then some (.endless negative)
  else if lower = "nan".toList then some .noNumber
  else
    match lower with
    | '0' :: 'x' :: digits =>
      match Text.digits 16 digits with
      | (d :: ds, []) =>
        let n := Text.ofDigits 16 (d :: ds)
        some (.number ⟨sign n, 0, (toString n).length⟩)
      | _ => none
    | _ =>
      let (digits, places, rest) ← Format.Real.pointed? 10 unsigned
      let (power, rest) := Format.Real.power? ['e', 'E'] rest
      if !rest.isEmpty || 400 < power.natAbs then none
      else
        let width := shown.length - (if shown.head? = some '+' then 1 else 0) +
          (if unsigned.head? = some '.' then 1 else 0)
        let fewer := min places power.toNat
        let places := if power < 0 then places + power.natAbs else places - fewer
        let units := digits * Amount.power 10 (power.toNat - fewer)
        let width := if power = 0 then width else (toString units).length
        some (.number ⟨sign units, places, width⟩)

def Number.scaled (n : Number) (places : Nat) : Int :=
  n.units * (Amount.power 10 (places - n.places) : Nat)

def shown (places : Nat) (units : Int) : String :=
  let digits := (toString units.natAbs).toList
  let digits := List.replicate (places + 1 - digits.length) '0' ++ digits
  let whole := digits.take (digits.length - places)
  let part := digits.drop (digits.length - places)
  let text := String.ofList whole ++ (if places = 0 then "" else "." ++ String.ofList part)
  if units < 0 then "-" ++ text else text

def zeroPadded (width : Nat) (text : String) : String :=
  let zeros := String.ofList (List.replicate (width - text.length) '0')
  if text.startsWith "-" then "-" ++ zeros ++ (text.drop 1).copy else zeros ++ text

def directive (format : String) : Except String (Bytes × Format.Directive × Bytes) := do
  let bytes := Utf8.encodeString format
  let parts := Format.parts false (bytes.length + 1) bytes
  let isDirective (p : Format.Part) : Bool := !(p matches .text _)
  let plain (list : List Format.Part) : Bytes := list.flatMap fun p =>
    match p with
    | .text b => b
    | _ => []
  let shown := Quoting.literal format
  let before := parts.takeWhile fun p => !isDirective p
  match parts.drop before.length with
  | [] => throw s!"format {shown} has no % directive"
  | .directive d :: after =>
    if !"efgaEFGA".toList.contains d.letter then
      throw s!"format {shown} has unknown %{d.letter} directive"
    else if after.any isDirective then throw s!"format {shown} has too many % directives"
    else return (plain before, d, plain after)
  | _ => throw s!"format {shown} ends in %"

def formatted (d : Format.Directive) (text : String) : Bytes :=
  let amount (a : Format.Amount) : Option Int :=
    match a with
    | .given n => some n
    | _ => none
  let (x, _, _, _) := Format.Real.start text.toList
  (Format.Field.ofDirective d (amount d.width) (amount d.precision)).real d.letter x

end Sequence

open Sequence in
def seq : Program := fun args => do
  let table : OptionTable :=
    { letters := "f:s:w"
      names := [("format=", "f"), ("separator=", "s"), ("equal-width", "w")]
      endsAtOperand := true }
  let isNumber (a : String) : Bool :=
    match a.toList with
    | '-' :: c :: _ => c.isDigit || c = '.'
    | _ => false
  let before := args.takeWhile fun a => !isNumber a
  let args := if before.length < args.length && !before.contains "--" then
      before ++ "--" :: args.drop before.length
    else args
  let o ← options table args
  match o.operands.drop 3 with
  | extra :: _ => misuse s!"extra operand {Quoting.literal extra}"
  | [] => pure ()
  if o.operands.isEmpty then misuse "missing operand"
  let format ←
    match o.value? "f" with
    | none => pure none
    | some text =>
      match directive text with
      | .ok found => pure (some found)
      | .error message => fail message
  let read (text : String) : Work Term := do
    match term? text with
    | some .noNumber => misuse s!"invalid 'not-a-number' argument: {Quoting.literal text}"
    | some found => return found
    | none => misuse s!"invalid floating point argument: {Quoting.literal text}"
  let terms ← o.operands.mapM read
  let one : Term := .number ⟨1, 0, 1⟩
  let (first, step, last) : Term × Term × Term :=
    match terms with
    | [last] => (one, one, last)
    | [first, last] => (first, one, last)
    | [first, step, last] => (first, step, last)
    | _ => (one, one, one)
  match first, step with
  | .number first, .number step =>
    if step.units = 0 then
      let shown := Quoting.literal (o.operands.getD 1 "")
      misuse s!"invalid Zero increment value: {shown}"
    let places := max first.places step.places
    let (all, lastPlaces, lastWidth) : Nat × Nat × Nat :=
      match last with
      | .number last => (max places last.places, last.places, last.width)
      | _ => (places, places, 0)
    let a := first.scaled all
    let d := step.scaled all
    let count : Nat :=
      match last with
      | .number last => ((last.scaled all - a).fdiv d + 1).toNat
      | .endless negative => if negative == (d < 0) then 60000 else 0
      | .noNumber => 0
    let scale : Nat := Amount.power 10 (all - places)
    let texts := (List.range count).map fun (i : Nat) =>
      shown places ((a + d * (i : Int)) / (scale : Int))
    let dot (p : Nat) : Nat := if p = 0 && 0 < places then 1 else 0
    let firstWidth := first.width + (places - first.places) + dot first.places
    let lastWidth := lastWidth + places - lastPlaces + dot lastPlaces -
      (if 0 < lastPlaces && places = 0 then 1 else 0)
    let width := max firstWidth lastWidth
    let shown (text : String) : Bytes :=
      match format with
      | some (front, d, back) => front ++ formatted d text ++ back
      | none => Utf8.encodeString (if o.has "w" then zeroPadded width text else text)
    let separator := Utf8.encodeString ((o.value? "s").getD "\n")
    if 0 < count then put (separator.intercalate (texts.map shown) ++ [0x0A])
  | _, _ => pure ()

def primeFactors : Nat → Nat → Nat → List Nat
  | 0, _, n => if 1 < n then [n] else []
  | steps + 1, divisor, n =>
    if n < divisor * divisor then if 1 < n then [n] else []
    else if n % divisor = 0 then divisor :: primeFactors steps divisor (n / divisor)
    else primeFactors steps (divisor + 1) n

def factor : Program := fun args => do
  let o ← options { letters := "h", names := [("exponents", "h")] } args
  let words ←
    if o.operands.isEmpty then do
      let text := textOf ((← input).toOption.getD [])
      pure ((text.split Char.isWhitespace).toList.map fun s => s.copy)
    else pure o.operands
  for word in words.filter (!·.isEmpty) do
    let digits := if word.startsWith "+" then (word.drop 1).copy else word
    match Text.digits 10 digits.toList with
    | (d :: ds, []) =>
      let n := Text.ofDigits 10 (d :: ds)
      let factors := primeFactors 2000000 2 n
      putLine (s!"{n}:" ++ String.join (factors.map fun f => s!" {f}"))
    | _ => complain s!"{Quoting.literal word} is not a valid positive integer"

/-! ## Expressions -/

namespace Evaluation

inductive Value where
  | text (t : String)
  | number (n : Int)
  deriving DecidableEq, Repr

def Value.shown : Value → String
  | text t => t
  | number n => toString n

def Value.integer? : Value → Option Int
  | number n => some n
  | text t =>
    let (negative, digits) : Bool × List Char :=
      match t.toList with
      | '-' :: digits => (true, digits)
      | digits => (false, digits)
    match Text.digits 10 digits with
    | (d :: ds, []) =>
      let n : Int := Text.ofDigits 10 (d :: ds)
      some (if negative then -n else n)
    | _ => none

def Value.isNull (v : Value) : Bool := v.shown.isEmpty || v.integer? = some 0

/-- How the regular expressions of this program are written. -/
def dialect : Regular.Dialect where
  extended := false
  sparesClosing := false
  sparesOperators := true
  sparesBraces := false
  hasEscapes := false

/-- What matching the start of a text gives: the text that is remembered, or how long it is. -/
def colon (value pattern : Value) : Except String Value := do
  let bytes := Utf8.encodeString value.shown
  match Regular.read dialect (Utf8.encodeString pattern.shown) with
  | .error problem => throw problem.message
  | .ok (regular, groups, _) =>
    let subject := regular.subject false false bytes
    match subject.reach regular ⟨0, []⟩ with
    | [] => return if groups = 0 then .number 0 else .text ""
    | best :: _ =>
      if groups = 0 then return .number best.place
      else
        match best.groups.lookup 1 with
        | some (first, last) => return .text (textOf (subject.slice first last))
        | none => return .text ""

/-- Compares two values: as integers if both are, as texts otherwise. -/
def order (a b : Value) : Ordering :=
  match a.integer?, b.integer? with
  | some x, some y => compare x y
  | _, _ => Order.compareBytes (Utf8.encodeString a.shown) (Utf8.encodeString b.shown)

def truth (b : Bool) : Value := .number (if b then 1 else 0)

/-- The operators by how tightly they bind, the loosest first. -/
def levels : List (List String) :=
  [["|"], ["&"], ["<", "<=", "=", "==", "!=", ">=", ">"], ["+", "-"], ["*", "/", "%"], [":"]]

def apply (isNeeded : Bool) (operator : String) (a b : Value) : Except String Value := do
  let numbers (f : Int → Int → Except String Int) : Except String Value := do
    if !isNeeded then return a
    else
      match a.integer?, b.integer? with
      | some x, some y => return .number (← f x y)
      | _, _ => throw "non-integer argument"
  let divided (f : Int → Int → Int) (x y : Int) : Except String Int :=
    if y = 0 then .error "division by zero" else .ok (f x y)
  match operator with
  | "|" => return if !a.isNull then a else if b.isNull then .number 0 else b
  | "&" => return if a.isNull || b.isNull then .number 0 else a
  | "<" => return truth (order a b == .lt)
  | "<=" => return truth (order a b != .gt)
  | "=" => return truth (order a b == .eq)
  | "==" => return truth (order a b == .eq)
  | "!=" => return truth (order a b != .eq)
  | ">=" => return truth (order a b != .lt)
  | ">" => return truth (order a b == .gt)
  | "+" => numbers fun x y => .ok (x + y)
  | "-" => numbers fun x y => .ok (x - y)
  | "*" => numbers fun x y => .ok (x * y)
  | "/" => numbers (divided Int.tdiv)
  | "%" => numbers (divided Int.tmod)
  | _ => if isNeeded then colon a b else return a

def missingAfter (last : String) : String :=
  s!"syntax error: missing argument after {Quoting.literal last}"

/-- What is left to read after a value, with the argument before it. -/
structure Rest where
  last : String
  args : List String

def Rest.take (r : Rest) : Except String (String × Rest) :=
  match r.args with
  | [] => .error (missingAfter r.last)
  | a :: args => .ok (a, ⟨a, args⟩)

mutual

/-- The value of an expression whose operators bind at least as tightly as these. -/
def value : Nat → Bool → List (List String) → Rest → Except String (Value × Rest)
  | 0, _, _, r => .error (missingAfter r.last)
  | steps + 1, isNeeded, [], r => simple steps isNeeded r
  | steps + 1, isNeeded, operators :: tighter, r => do
    let (a, r) ← value steps isNeeded tighter r
    more steps isNeeded operators tighter a r

/-- Applies the operators that follow a value. -/
def more : Nat → Bool → List String → List (List String) → Value → Rest →
    Except String (Value × Rest)
  | 0, _, _, _, _, r => .error (missingAfter r.last)
  | steps + 1, isNeeded, operators, tighter, a, r => do
    match r.args with
    | operator :: args =>
      if operators.contains operator then
        let isNeeded' := isNeeded &&
          (if operator = "|" then a.isNull else if operator = "&" then !a.isNull else true)
        let (b, r) ← value steps isNeeded' tighter ⟨operator, args⟩
        more steps isNeeded operators tighter (← apply isNeeded operator a b) r
      else return (a, r)
    | [] => return (a, r)

/-- The value of a word, of a function, or of an expression in parentheses. -/
def simple : Nat → Bool → Rest → Except String (Value × Rest)
  | 0, _, r => .error (missingAfter r.last)
  | steps + 1, isNeeded, r => do
    let (word, r) ← r.take
    match word with
    | "+" => do
      let (word, r) ← r.take
      return (.text word, r)
    | "length" =>
      let (a, r) ← simple steps isNeeded r
      return (.number (Utf8.encodeString a.shown).length, r)
    | "match" =>
      let (a, r) ← simple steps isNeeded r
      let (b, r) ← simple steps isNeeded r
      return (← apply isNeeded ":" a b, r)
    | "index" =>
      let (a, r) ← simple steps isNeeded r
      let (b, r) ← simple steps isNeeded r
      let wanted := Utf8.encodeString b.shown
      let place := (Utf8.encodeString a.shown).findIdx? wanted.contains
      return (.number ((place.map fun i => i + 1).getD 0 : Nat), r)
    | "substr" =>
      let (a, r) ← simple steps isNeeded r
      let (first, r) ← simple steps isNeeded r
      let (count, r) ← simple steps isNeeded r
      match first.integer?, count.integer? with
      | some i, some n =>
        if i ≤ 0 || n ≤ 0 then return (.text "", r)
        else
          let bytes := (Utf8.encodeString a.shown).drop (i.toNat - 1)
          return (.text (textOf (bytes.take n.toNat)), r)
      | _, _ => return (.text "", r)
    | "(" =>
      let (a, r) ← value steps isNeeded levels r
      match r.args with
      | ")" :: args => return (a, ⟨")", args⟩)
      | [] => throw s!"syntax error: expecting ')' after {Quoting.literal r.last}"
      | found :: _ => throw s!"syntax error: expecting ')' instead of {Quoting.literal found}"
    | ")" => throw "syntax error: unexpected ')'"
    | _ => return (.text word, r)

end

end Evaluation

open Evaluation in
def expr : Program := fun args => do
  let args := if args.head? = some "--" then args.drop 1 else args
  if args.isEmpty then misuse "missing operand" 2
  match value (20 * args.length + 20) true levels ⟨"", args⟩ with
  | .error message => fail message 2
  | .ok (found, r) =>
    match r.args with
    | extra :: _ => fail s!"syntax error: unexpected argument {Quoting.literal extra}" 2
    | [] =>
      putLine found.shown
      if found.isNull then raise 1

end SlotServer.Shell.Utility
