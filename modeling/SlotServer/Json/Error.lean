import SlotServer.Text.Quoted

/-!
# Errors of JSON text

What can be wrong with a text that should hold a value of a certain shape in JSON: the text may end
too early, break the rules of JSON, or hold a value of another shape.
-/

namespace SlotServer.JsonText

/-- What was found where something else was expected. -/
inductive Found where
  | null
  | boolean (value : Bool)
  | integer (value : Int)
  /-- A number with a fraction, a power of ten or too many digits, by its text. -/
  | decimal (text : String)
  | string (value : String)
  | array
  | object
  deriving DecidableEq, Repr

def Found.text : Found → String
  | null => "null"
  | boolean value => s!"boolean `{value}`"
  | integer value => s!"integer `{value}`"
  | decimal text => s!"floating point `{text}`"
  | string value => s!"string {Text.quoted value}"
  | array => "sequence"
  | object => "map"

/-- What is wrong with a JSON text. -/
inductive Error where
  | endOfValue
  | endOfList
  | endOfObject
  | endOfString
  | expectedColon
  | expectedListEnd
  | expectedObjectEnd
  | expectedIdent
  | expectedValue
  | invalidEscape
  | invalidNumber
  | numberOutOfRange
  | controlCharacter
  | keyNotString
  | loneSurrogate
  | unexpectedEscapeEnd
  | trailingComma
  | trailingCharacters
  | invalidType (found : Found) (expected : String)
  /-- An integer out of bounds. -/
  | invalidValue (found : Found) (expected : String)
  /-- A list that is too short. -/
  | invalidLength (length : Nat) (expected : String)
  | missingField (name : String)
  /-- A member that is there twice. -/
  | duplicateField (name : String)
  | unknownVariant (name : String) (allowed : String)
  deriving DecidableEq, Repr

/-- The three kinds of errors. -/
inductive Category where
  /-- The text breaks the rules of JSON. -/
  | rules
  /-- The text ends too early. -/
  | ending
  | shape
  deriving DecidableEq, Repr

namespace Error

def category : Error → Category
  | endOfValue | endOfList | endOfObject | endOfString => .ending
  | invalidType .. | invalidValue .. | invalidLength .. | missingField _ | duplicateField _
  | unknownVariant .. => .shape
  | _ => .rules

def message : Error → String
  | endOfValue => "EOF while parsing a value"
  | endOfList => "EOF while parsing a list"
  | endOfObject => "EOF while parsing an object"
  | endOfString => "EOF while parsing a string"
  | expectedColon => "expected `:`"
  | expectedListEnd => "expected `,` or `]`"
  | expectedObjectEnd => "expected `,` or `\x7d`"
  | expectedIdent => "expected ident"
  | expectedValue => "expected value"
  | invalidEscape => "invalid escape"
  | invalidNumber => "invalid number"
  | numberOutOfRange => "number out of range"
  | controlCharacter => "control character (\\u0000-\\u001F) found while parsing a string"
  | keyNotString => "key must be a string"
  | loneSurrogate => "lone leading surrogate in hex escape"
  | unexpectedEscapeEnd => "unexpected end of hex escape"
  | trailingComma => "trailing comma"
  | trailingCharacters => "trailing characters"
  | invalidType found expected => s!"invalid type: {found.text}, expected {expected}"
  | invalidValue found expected => s!"invalid value: {found.text}, expected {expected}"
  | invalidLength length expected => s!"invalid length {length}, expected {expected}"
  | missingField name => s!"missing field `{name}`"
  | duplicateField name => s!"duplicate field `{name}`"
  | unknownVariant name allowed => s!"unknown variant `{name}`, expected {allowed}"

end Error

/-- A reader of values of type `α` at the start of a text: the value and the rest of the text, or
what is wrong. -/
abbrev Reader (α : Type) := List Char → Except Error (α × List Char)

end SlotServer.JsonText
