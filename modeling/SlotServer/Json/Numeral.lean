import SlotServer.Decimal.Shortest
import SlotServer.Json.Error
import SlotServer.Text.Reader

/-!
# Numerals of JSON

A numeral has a sign, digits, digits after a point and a power of ten. Reading one gives an integer
if it has digits only and they fit into 64 bits. Otherwise it gives a floating point number: the
leading digits that fit into 64 bits, times or divided by a power of ten.
-/

namespace SlotServer.JsonText

open Text

/-- The parts of a numeral. -/
structure Numeral where
  negative : Bool
  whole : List Nat
  /-- The digits after the point. -/
  fraction : List Nat
  power : Option Int
  deriving DecidableEq, Repr

/-- The value of a numeral. -/
inductive Number where
  /-- An integer from `-2 ^ 63` to `2 ^ 64 - 1`. -/
  | integer (value : Int)
  | decimal (value : Float)
  deriving Repr

/-- The description of a number where something else was expected. -/
def Number.found : Number → Found
  | integer value => .integer value
  | decimal value => .decimal (Decimal.floatText value)

namespace Numeral

/-! ## Parts -/

/-- Reads at least one digit. A text that ends before it has the error `ending`. -/
def someDigits (ending : Error) : Reader (List Nat) :=
  fun text =>
    match digits 10 text with
    | ([], []) => .error ending
    | ([], _ :: _) => .error .invalidNumber
    | (ds, rest) => .ok (ds, rest)

/-- Reads digits that do not start with a superfluous zero. -/
def wholeReader (ending : Error) : Reader (List Nat) :=
  fun text => do
    let (ds, rest) ← someDigits ending text
    if ds.head? = some 0 ∧ 1 < ds.length then throw .invalidNumber
    return (ds, rest)

/-- Reads a point and digits, or nothing. -/
def fractionReader (ending : Error) : Reader (List Nat)
  | '.' :: rest => someDigits ending rest
  | text => .ok ([], text)

/-- Reads a power of ten, or nothing. -/
def powerReader (ending : Error) : Reader (Option Int)
  | [] => .ok (none, [])
  | c :: rest =>
    if c = 'e' ∨ c = 'E' then
      match rest with
      | '-' :: rest =>
        (someDigits ending rest).map fun (ds, rest) => (some (-(ofDigits 10 ds : Int)), rest)
      | '+' :: rest =>
        (someDigits ending rest).map fun (ds, rest) => (some (ofDigits 10 ds : Int), rest)
      | rest =>
        (someDigits ending rest).map fun (ds, rest) => (some (ofDigits 10 ds : Int), rest)
    else .ok (none, c :: rest)

/-- Reads a numeral. A text that ends within it has the error `ending`. -/
def reader (ending : Error) : Reader Numeral :=
  fun text => do
    let negative := text.head? = some '-'
    let (whole, rest) ← wholeReader ending (if negative then text.drop 1 else text)
    let (fraction, rest) ← fractionReader ending rest
    let (power, rest) ← powerReader ending rest
    return ({ negative, whole, fraction, power }, rest)

/-! ## Value -/

/-- Appends digits to a number as long as it stays below `2 ^ 64`: the number, and how many digits
it took. -/
def absorb (value : Nat) : List Nat → Nat × Nat
  | [] => (value, 0)
  | d :: ds =>
    let longer := value * 10 + d
    if longer < UInt64.size then
      let (value, taken) := absorb longer ds
      (value, taken + 1)
    else (value, 0)

def tenTo (power : Nat) : Float :=
  Float.ofScientific 1 false power

/-- A number times a power of ten. Powers below `-308` are divided by in two steps, and where two
steps do not suffice nothing is left of any number of 64 bits. -/
def scaled (value : Nat) (power : Int) : Except Error Float :=
  let start := Float.ofNat value
  let size := power.natAbs
  if 0 ≤ power then
    if 308 < size then
      if value = 0 then .ok start else .error .numberOutOfRange
    else
      let product := start * tenTo size
      if product.isInf then .error .numberOutOfRange else .ok product
  else if size ≤ 308 then .ok (start / tenTo size)
  else if size ≤ 616 then .ok (start / tenTo 308 / tenTo (size - 308))
  else .ok (Float.ofNat 0)

/-- The number that a numeral stands for. A negative zero, and a negative number below `-2 ^ 63`,
is a floating point number. -/
def value (numeral : Numeral) : Except Error Number := do
  let (value, taken) := absorb 0 numeral.whole
  if numeral.fraction.isEmpty ∧ numeral.power.isNone ∧ taken = numeral.whole.length
      ∧ (numeral.negative → 0 < value ∧ value ≤ 0x8000000000000000) then
    return .integer (if numeral.negative then -(value : Int) else value)
  else
    let (value, fraction) := absorb value numeral.fraction
    let power := ((numeral.whole.length - taken : Nat) : Int) - fraction + numeral.power.getD 0
    let size ← scaled value power
    return .decimal (if numeral.negative then -size else size)

end Numeral

def number : Reader Number :=
  fun text => do
    let (numeral, rest) ← Numeral.reader .endOfValue text
    return (← numeral.value, rest)

/-- Skips a number. Every fault of a numeral that is skipped is the same one. -/
def skipNumber (text : List Char) : Except Error (List Char) :=
  (Numeral.reader .invalidNumber text).map Prod.snd

end SlotServer.JsonText
