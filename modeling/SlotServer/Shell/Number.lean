import SlotServer.Text.Reader

/-!
# Numbers in scripts

How a text is read as an integer of 64 bits: blanks, a sign, and digits in base ten, or in the base
that the text begins with. What does not fit becomes the nearest integer that does.
-/

namespace SlotServer.Shell.Number

def greatest : Int := 9223372036854775807

def least : Int := -9223372036854775808

def fitted (n : Int) : Int × Bool :=
  if n < least then (least, true) else if greatest < n then (greatest, true) else (n, false)

/-- The characters that count as blanks in front of an integer and behind it. -/
def isBlank (c : Char) : Bool :=
  c = ' ' || (9 ≤ c.toNat && c.toNat ≤ 13)

/-- Reads digits without a sign, whose base may be given by how the text begins; nothing if there
are none. -/
def readDigits? (anyBase : Bool) (text : List Char) : Option (Nat × List Char) :=
  let (radix, shown) : Nat × List Char :=
    if !anyBase then (10, text)
    else
      match text with
      | '0' :: x :: rest =>
        let isHex := (x = 'x' || x = 'X') && (rest.head?.bind fun c => Text.digit? 16 c).isSome
        if isHex then (16, rest) else (8, text)
      | _ => (10, text)
  match Text.digits radix shown with
  | ([], _) => none
  | (digits, rest) => some (Text.ofDigits radix digits, rest)

/-- What an integer at the start of a text comes to. -/
structure Start where
  value : Int
  /-- Whether the integer that is written does not fit. -/
  isExcessive : Bool
  isMissing : Bool
  rest : List Char

def start (anyBase : Bool) (text : List Char) : Start :=
  let unsigned := text.dropWhile isBlank
  let (negative, unsigned) : Bool × List Char :=
    match unsigned with
    | '-' :: rest => (true, rest)
    | '+' :: rest => (false, rest)
    | _ => (false, unsigned)
  match readDigits? anyBase unsigned with
  | none => ⟨0, false, true, text⟩
  | some (n, rest) =>
    let (value, isExcessive) := fitted (if negative then -(n : Int) else n)
    ⟨value, isExcessive, false, rest⟩

/-- The integer that a text is. In base ten there have to be digits. -/
def integer? (anyBase : Bool) (text : String) : Option Int :=
  let found := start anyBase text.toList
  let isWhole := (found.rest.dropWhile isBlank).isEmpty
  if found.isExcessive || !isWhole || (found.isMissing && !anyBase) then none else some found.value

/-- The number that is no less than zero and that fits in 31 bits. -/
def natural? (text : String) : Option Nat :=
  match integer? false text with
  | some n => if 0 ≤ n && n < 2147483648 then some n.toNat else none
  | none => none

end SlotServer.Shell.Number
