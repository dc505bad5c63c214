import SlotServer.Text.Reader

/-!
# Integers

Reading decimal integers of bounded size. Digits are taken from the left; the first character that
is no digit, or the first digit that makes the number too large, decides what is wrong.
-/

namespace SlotServer.Text

/-- What is wrong with the text of an integer. -/
inductive IntegerError where
  | empty
  /-- A character is not a digit, or there is nothing but a sign. -/
  | invalidDigit
  /-- The number is above the greatest one allowed. -/
  | tooLarge
  /-- The number is below the least one allowed. -/
  | tooSmall
  deriving DecidableEq, Repr

def IntegerError.message : IntegerError → String
  | empty => "cannot parse integer from empty string"
  | invalidDigit => "invalid digit found in string"
  | tooLarge => "number too large to fit in target type"
  | tooSmall => "number too small to fit in target type"

/-- Reads digits after the number `value`, up to a number of `bound`; `excess` says what is wrong
with a greater one. -/
def readDigits (bound : Nat) (excess : IntegerError) (value : Nat) :
    List Char → Except IntegerError Nat
  | [] => .ok value
  | c :: rest =>
    match digit? 10 c with
    | none => .error .invalidDigit
    | some d =>
      let value := value * 10 + d
      if bound < value then .error excess else readDigits bound excess value rest

def readNumber (bound : Nat) (excess : IntegerError) (text : List Char) :
    Except IntegerError Nat :=
  if text.isEmpty then .error .invalidDigit else readDigits bound excess 0 text

/-- Reads an integer that is not negative, with an optional plus sign. -/
def readUnsigned (bound : Nat) : List Char → Except IntegerError Nat
  | [] => .error .empty
  | '+' :: rest => readNumber bound .tooLarge rest
  | text => readNumber bound .tooLarge text

/-- Reads an integer from `-bound - 1` to `bound`, with an optional sign. -/
def readSigned (bound : Nat) : List Char → Except IntegerError Int
  | [] => .error .empty
  | '+' :: rest => (readNumber bound .tooLarge rest).map Int.ofNat
  | '-' :: rest => (readNumber (bound + 1) .tooSmall rest).map fun n => -Int.ofNat n
  | text => (readNumber bound .tooLarge text).map Int.ofNat

end SlotServer.Text
