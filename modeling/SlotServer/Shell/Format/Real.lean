import SlotServer.Decimal.Places
import SlotServer.Shell.Number
import SlotServer.Text.Reader

/-!
# Real numbers in formats

How a text is read as a floating point number, and how one is written: with places, with a power of
ten, with the shorter of the two, or in base sixteen.
-/

namespace SlotServer.Shell.Format

open Decimal

/-- A floating point number. -/
inductive Real where
  | finite (negative : Bool) (x : Binary)
  | infinite (negative : Bool)
  | noNumber (negative : Bool)
  deriving Repr

namespace Real

/-- The float that digits with a power of ten stand for; powers that are far out of range are not
computed. -/
def ofDigits (digits : Nat) (power : Int) : Float :=
  let size := (Nat.toDigits 10 digits).length
  if digits = 0 then 0
  else if 400 < power + size then 1 / 0
  else if power + size < -400 then 0
  else Float.ofScientific digits (power < 0) power.natAbs

/-- A power with a sign that may follow a letter, and the text after it. -/
def power? (letters : List Char) (text : List Char) : Int × List Char :=
  match text with
  | c :: rest =>
    if !letters.contains c then (0, text)
    else
      let (negative, digits) : Bool × List Char :=
        match rest with
        | '-' :: digits => (true, digits)
        | '+' :: digits => (false, digits)
        | digits => (false, digits)
      match Text.digits 10 digits with
      | ([], _) => (0, text)
      | (ds, after) =>
        let n : Int := Text.ofDigits 10 ds
        (if negative then -n else n, after)
  | [] => (0, [])

/-- Digits with an optional point, as a number without the point and the number of digits after it;
and the text after them. Nothing if there are no digits. -/
def pointed? (radix : Nat) (text : List Char) : Option (Nat × Nat × List Char) :=
  let (front, rest) := Text.digits radix text
  let (back, after) : List Nat × List Char :=
    match rest with
    | '.' :: more => Text.digits radix more
    | _ => ([], rest)
  if front.isEmpty && back.isEmpty then none
  else some (Text.ofDigits radix (front ++ back), back.length, after)

/-- Reads a number without a sign. The flag says that it does not fit. -/
def unsigned? (text : List Char) : Option (Float × Bool × List Char) :=
  let lower := text.map Char.toLower
  let hex :=
    if "0x".toList.isPrefixOf lower then pointed? 16 (text.drop 2) else none
  if "infinity".toList.isPrefixOf lower then some (1 / 0, false, text.drop 8)
  else if "inf".toList.isPrefixOf lower then some (1 / 0, false, text.drop 3)
  else if "nan".toList.isPrefixOf lower then some (0 / 0, false, text.drop 3)
  else
    match hex with
    | some (digits, places, rest) =>
      let (power, rest) := power? ['p', 'P'] rest
      some (Float.scaleB (Float.ofNat digits) (power - 4 * (places : Int)), false, rest)
    | none =>
      (pointed? 10 text).map fun (digits, places, rest) =>
        let (power, rest) := power? ['e', 'E'] rest
        let x := ofDigits digits (power - (places : Int))
        (x, digits ≠ 0 && (x.isInf || x = 0), rest)

/-- Reads a number at the start of a text: the number, whether it does not fit, whether there is
none, and the text after it. -/
def start (text : List Char) : Real × Bool × Bool × List Char :=
  let shown := text.dropWhile Number.isBlank
  let (negative, shown) : Bool × List Char :=
    match shown with
    | '-' :: rest => (true, rest)
    | '+' :: rest => (false, rest)
    | _ => (false, shown)
  match unsigned? shown with
  | none => (.finite false (Binary.ofFloat 0), false, true, text)
  | some (x, isExcessive, rest) =>
    let real : Real :=
      if x.isNaN then .noNumber negative
      else if x.isInf then .infinite negative
      else .finite negative (Binary.ofFloat x)
    (real, isExcessive, false, rest)

/-- A power with its sign, with at least so many digits. -/
def powerText (digits : Nat) (power : Int) : List Char :=
  (if power < 0 then '-' else '+') :: padded digits power.natAbs

/-- A front part and a back part with a point between them, which may stand alone. -/
def withPoint (always : Bool) (front back : List Char) : List Char :=
  if back.isEmpty && !always then front else front ++ '.' :: back

def withoutZeros (ds : List Char) : List Char :=
  (ds.reverse.dropWhile (· = '0')).reverse

def hexText (precision : Option Nat) (always : Bool) (x : Binary) : List Char :=
  if x.mantissa = 0 then
    "0x".toList ++ withPoint always ['0'] (List.replicate (precision.getD 0) '0') ++
      'p' :: powerText 1 0
  else
    let isNormal := 0x10000000000000 ≤ x.mantissa
    let power := if isNormal then x.exponent + 52 else -1022
    let places := min (precision.getD 13) 13
    let rounded := roundDiv x.mantissa (Nat.pow 16 (13 - places))
    let ds := Nat.toDigits 16 rounded
    let ds := List.replicate (places + 1 - ds.length) '0' ++ ds
    let back := ds.drop 1 ++ List.replicate (precision.getD 0 - 13) '0'
    let back := if precision.isNone then withoutZeros back else back
    "0x".toList ++ withPoint always (ds.take 1) back ++ 'p' :: powerText 1 power

/-- A finite number without its sign, as a letter of a format asks for it. -/
def digitsText (letter : Char) (precision : Option Nat) (always : Bool) (x : Binary) :
    List Char :=
  let places := precision.getD 6
  let withPower (places : Nat) (trim : Bool) : List Char :=
    let (ds, power) := x.powered places
    let back := if trim then withoutZeros (ds.drop 1) else ds.drop 1
    withPoint always (ds.take 1) back ++ 'e' :: powerText 2 power
  let withPlaces (places : Nat) (trim : Bool) : List Char :=
    let (front, back) := x.fixed places
    withPoint always front (if trim then withoutZeros back else back)
  match letter.toLower with
  | 'f' => withPlaces places false
  | 'e' => withPower places false
  | 'a' => hexText precision always x
  | _ =>
    let digits := if places = 0 then 1 else places
    let power := (x.powered (digits - 1)).2
    if -4 ≤ power && power < digits then withPlaces ((digits : Int) - 1 - power).toNat !always
    else withPower (digits - 1) !always

/-- A number as a letter of a format asks for it: its sign, and the text without it. -/
def text (letter : Char) (precision : Option Nat) (always : Bool) : Real → Bool × List Char
  | finite negative x => (negative, digitsText letter precision always x)
  | infinite negative => (negative, "inf".toList)
  | noNumber negative => (negative, "nan".toList)

def isFinite : Real → Bool
  | finite _ _ => true
  | _ => false

end Real

end SlotServer.Shell.Format
