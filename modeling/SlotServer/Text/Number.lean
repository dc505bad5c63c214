/-!
# Numbers

The texts that stand for a number: decimal digits with an optional point, power of ten and sign, and
the names of the numbers that have no digits.
-/

namespace SlotServer.Text

def isSignedInteger : List Char → Bool
  | '+' :: digits => !digits.isEmpty && digits.all Char.isDigit
  | '-' :: digits => !digits.isEmpty && digits.all Char.isDigit
  | digits => !digits.isEmpty && digits.all Char.isDigit

/-- Whether a text is a number without a sign that is written with digits. -/
def isPlainNumber (text : List Char) : Bool :=
  let isPower (c : Char) : Bool := c = 'e' || c = 'E'
  let mantissa := text.takeWhile fun c => !isPower c
  let whole := mantissa.takeWhile Char.isDigit
  let fraction := mantissa.drop whole.length
  let digits := whole ++ fraction.drop 1
  let power := text.drop mantissa.length
  (fraction.isEmpty || fraction.head? = some '.') && !digits.isEmpty && digits.all Char.isDigit &&
    (power.isEmpty || isSignedInteger power.tail)

def isNumber (text : List Char) : Bool :=
  let body :=
    match text with
    | '+' :: body => body
    | '-' :: body => body
    | body => body
  ["inf", "infinity", "nan"].contains (String.ofList (body.map Char.toLower)) || isPlainNumber body

end SlotServer.Text
