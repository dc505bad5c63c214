/-!
# Reading text from the left

The small readers that address syntax is built from. A reader takes a text and gives a value with
the rest of the text, or nothing; where it gives nothing, the text counts as not read.
-/

namespace SlotServer.Text

/-- A reader of values of type `α` at the start of a text. -/
abbrev Reader (α : Type) := List Char → Option (α × List Char)

namespace Reader

/-- Reads exactly the character `c`. -/
def char (c : Char) : Reader Unit
  | [] => none
  | d :: rest => if c = d then some ((), rest) else none

/-- Reads with `reader`, after a separator unless this is the first item of its list. -/
def separated {α : Type} (separator : Char) (first : Bool) (reader : Reader α) : Reader α :=
  fun text =>
    if first then reader text else
      match char separator text with
      | none => none
      | some (_, rest) => reader rest

def whole? {α : Type} (reader : Reader α) (text : List Char) : Option α :=
  match reader text with
  | some (value, []) => some value
  | _ => none

end Reader

/-- The value of a digit in the base `radix`, which is at most 16. -/
def digit? (radix : Nat) (c : Char) : Option Nat :=
  let n := c.toNat
  let value :=
    if 0x30 ≤ n ∧ n ≤ 0x39 then some (n - 0x30)
    else if 0x41 ≤ n ∧ n ≤ 0x46 then some (n - 0x41 + 10)
    else if 0x61 ≤ n ∧ n ≤ 0x66 then some (n - 0x61 + 10)
    else none
  value.filter (· < radix)

/-- The values of the digits at the start of a text, and the text after them. -/
def digits (radix : Nat) : List Char → List Nat × List Char
  | [] => ([], [])
  | c :: rest =>
    match digit? radix c with
    | none => ([], c :: rest)
    | some d =>
      let (ds, rest) := digits radix rest
      (d :: ds, rest)

/-- The number with these digits, the leading digit first. -/
def ofDigits (radix : Nat) (ds : List Nat) : Nat :=
  ds.foldl (fun n d => n * radix + d) 0

/-- Reads a number of at least one digit. At most `maxDigits` digits may stand there, if that is
given, the number is below `bound`, and a zero in front of other digits is an option. -/
def Reader.number (radix : Nat) (maxDigits : Option Nat) (leadingZero : Bool) (bound : Nat) :
    Reader Nat :=
  fun text =>
    let (ds, rest) := digits radix text
    let value := ofDigits radix ds
    if ds.isEmpty then none
    else if maxDigits.any (· < ds.length) then none
    else if !leadingZero && ds.head? == some 0 && 1 < ds.length then none
    else if value < bound then some (value, rest) else none

end SlotServer.Text
