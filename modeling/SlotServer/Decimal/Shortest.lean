/-!
# Shortest decimals

The text of a floating point number: the fewest decimal digits that read back as the number, and
of those the nearest to it. Numbers of moderate size are written with a point, others with a power
of ten.
-/

namespace SlotServer.Decimal

/-- A positive floating point number as `mantissa * 2 ^ exponent`. The numbers that round to it lie
between its quarter steps `4 * mantissa - below` and `4 * mantissa + 2`. -/
structure Binary where
  mantissa : Nat
  exponent : Int
  /-- How many quarter steps reach down: one where the numbers below lie closer, else two. -/
  below : Nat
  deriving DecidableEq, Repr

/-- The parts of a finite number, its sign left aside. -/
def Binary.ofFloat (x : Float) : Binary :=
  let bits := x.toBits.toNat
  let fraction := bits % 0x10000000000000
  let scale : Nat := bits / 0x10000000000000 % 0x800
  if scale = 0 then ⟨fraction, -1074, 2⟩
  else
    let below := if fraction = 0 ∧ 1 < scale then 1 else 2
    ⟨0x10000000000000 + fraction, (scale : Int) - 1075, below⟩

/-- Decimal digits with the power of ten that the last of them counts. -/
structure Digits where
  value : Nat
  power : Int
  deriving DecidableEq, Repr

/-- The decimal of the form `c * 10 ^ power` that rounds to a number and is nearest to it, if one
does. -/
def Binary.onGrid? (x : Binary) (power : Int) : Option Digits :=
  let top := Nat.pow 2 x.exponent.toNat * Nat.pow 10 (-power).toNat
  let unit := 4 * (Nat.pow 2 (-x.exponent).toNat * Nat.pow 10 power.toNat)
  let inside (c : Nat) : Bool :=
    let low := (4 * x.mantissa - x.below) * top
    let high := (4 * x.mantissa + 2) * top
    if x.mantissa % 2 = 0 then low ≤ c * unit && c * unit ≤ high
    else low < c * unit && c * unit < high
  let exact := 4 * x.mantissa * top
  let down := exact / unit
  let up := down + 1
  let upFirst :=
    let left := exact - down * unit
    let right := up * unit - exact
    right < left || (right == left && down % 2 == 1)
  let (first, second) := if upFirst then (up, down) else (down, up)
  if inside first then some ⟨first, power⟩
  else if inside second then some ⟨second, power⟩
  else none

/-- The digits of a number on the coarsest grid that has some, from the grid of `power` on to the
finer ones. -/
def Binary.digitsFrom (x : Binary) (power : Int) : Nat → Digits
  | 0 => ⟨0, 0⟩
  | tries + 1 =>
    match x.onGrid? power with
    | some digits => if digits.value = 0 then x.digitsFrom (power - 1) tries else digits
    | none => x.digitsFrom (power - 1) tries

/-- The shortest digits of a number. No number needs a grid coarser than its greatest power of ten
or finer than its seventeenth digit. -/
def Binary.digits (x : Binary) : Digits :=
  x.digitsFrom 308 700

def powerText (power : Int) : String :=
  (if power < 0 then "-" else "+") ++ toString power.natAbs

/-- Writes digits with a point where their leading digit counts a power of ten from -5 to 15, and
with the power of ten otherwise. -/
def Digits.text (digits : Digits) : String :=
  let ds := (Nat.toDigits 10 digits.value).reverse.dropWhile (· = '0') |>.reverse
  let leading := digits.power + (Nat.toDigits 10 digits.value).length - 1
  if digits.value = 0 then "0.0"
  else if leading < -5 ∨ 15 < leading then
    let fraction := if ds.length ≤ 1 then [] else '.' :: ds.drop 1
    String.ofList (ds.take 1 ++ fraction) ++ "e" ++ powerText leading
  else if leading < 0 then
    String.ofList ('0' :: '.' :: List.replicate (-leading - 1).toNat '0' ++ ds)
  else
    let whole := leading.toNat + 1
    let front := ds.take whole ++ List.replicate (whole - ds.length) '0'
    let back := if (ds.drop whole).isEmpty then ['0'] else ds.drop whole
    String.ofList (front ++ '.' :: back)

def floatText (x : Float) : String :=
  let negative := x.toBits ≥ 0x8000000000000000
  (if negative then "-" else "") ++ (Binary.ofFloat x).digits.text

end SlotServer.Decimal
