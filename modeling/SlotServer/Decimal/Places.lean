import SlotServer.Decimal.Shortest

/-!
# Decimals with a given number of places

A finite floating point number rounded to a number of decimal places, or to a number of digits. A
number half way between two decimals goes to the even one.
-/

namespace SlotServer.Decimal

/-- The nearest integer to a quotient; of two that are equally near, the even one. -/
def roundDiv (top bottom : Nat) : Nat :=
  let down := top / bottom
  let left := 2 * (top % bottom)
  if left < bottom || (left == bottom && down % 2 == 0) then down else down + 1

def Binary.quotient (x : Binary) : Nat × Nat :=
  (x.mantissa * Nat.pow 2 x.exponent.toNat, Nat.pow 2 (-x.exponent).toNat)

/-- A number in units of a power of ten, rounded. -/
def Binary.inUnits (x : Binary) (power : Int) : Nat :=
  let (top, bottom) := x.quotient
  roundDiv (top * Nat.pow 10 (-power).toNat) (bottom * Nat.pow 10 power.toNat)

/-- The digits of a number, at least so many. -/
def padded (count n : Nat) : List Char :=
  let ds := Nat.toDigits 10 n
  List.replicate (count - ds.length) '0' ++ ds

def Binary.fixed (x : Binary) (places : Nat) : List Char × List Char :=
  let ds := padded (places + 1) (x.inUnits (-(places : Int)))
  (ds.take (ds.length - places), ds.drop (ds.length - places))

/-- The power of ten that the leading digit of a positive quotient counts. -/
def leadingPower (top bottom : Nat) : Int :=
  let guess : Int := (Nat.toDigits 10 top).length - (Nat.toDigits 10 bottom).length
  if top * Nat.pow 10 (-guess).toNat < bottom * Nat.pow 10 guess.toNat then guess - 1 else guess

/-- A number with one digit in front of the point and so many after it, and the power of ten that
it is to be multiplied with. -/
def Binary.powered (x : Binary) (places : Nat) : List Char × Int :=
  if x.mantissa = 0 then (padded (places + 1) 0, 0)
  else
    let (top, bottom) := x.quotient
    let power := leadingPower top bottom
    let ds := padded (places + 1) (x.inUnits (power - places))
    if places + 1 < ds.length then (ds.take (places + 1), power + 1) else (ds, power)

end SlotServer.Decimal
