import SlotServer.Json.Lexeme
import SlotServer.Json.Numeral

/-!
# Skipping values of JSON

A value whose content is of no interest is skipped: its text has to be a value, but nothing is made
of it. Lists and objects that are open are kept on a stack, so that values of any depth can be
skipped.
-/

namespace SlotServer.JsonText

/-- What can be open around a value. -/
inductive Frame where
  | list
  | object
  deriving DecidableEq, Repr

namespace Frame

def close : Frame → Char
  | list => ']'
  | object => '\x7d'

def ending : Frame → Error
  | list => .endOfList
  | object => .endOfObject

/-- The error of another character where a frame has to be closed or continued. -/
def expectedEnd : Frame → Error
  | list => .expectedListEnd
  | object => .expectedObjectEnd

end Frame

/-- Reads the colon between a key and its value. -/
def colon (text : List Char) : Except Error (List Char) :=
  match dropSpace text with
  | [] => .error .endOfObject
  | c :: rest => if c = ':' then .ok rest else .error .expectedColon

def skipKey (text : List Char) : Except Error (List Char) :=
  match dropSpace text with
  | [] => .error .endOfObject
  | c :: rest =>
    if c = '"' then do colon (← skipStringBody rest) else .error .keyNotString

/-- Skips what stands in front of a value within a frame: in an object, its key. -/
def Frame.skipFront : Frame → List Char → Except Error (List Char)
  | list, text => .ok text
  | object, text => skipKey text

/-- Skips from the end of a value to the start of the next one: closes frames as long as they end
here, and passes a comma if a value stands before it. Gives the frames that are open then; if there
are none, the outermost value is complete. -/
def skipBetween (afterValue : Bool) :
    List Frame → List Char → Except Error (List Frame × List Char)
  | [], text => .ok ([], text)
  | frame :: outer, text =>
    match dropSpace text with
    | [] => .error frame.ending
    | c :: rest =>
      if afterValue && c = ',' then
        (frame.skipFront rest).map fun rest => (frame :: outer, rest)
      else if c = frame.close then skipBetween true outer rest
      else if afterValue then .error frame.expectedEnd
      else (frame.skipFront (c :: rest)).map fun rest => (frame :: outer, rest)

/-- Skips the opening of a list or an object, or a whole value that is neither. -/
def skipPiece (frames : List Frame) (text : List Char) :
    Except Error (List Frame × List Char) :=
  match dropSpace text with
  | [] => .error .endOfValue
  | c :: rest =>
    let complete (rest : Except Error (List Char)) := do skipBetween true frames (← rest)
    if c = '[' then skipBetween false (.list :: frames) rest
    else if c = '\x7b' then skipBetween false (.object :: frames) rest
    else if c = '"' then complete (skipStringBody rest)
    else if c = 'n' then complete ((word "ull".toList rest).map Prod.snd)
    else if c = 't' then complete ((word "rue".toList rest).map Prod.snd)
    else if c = 'f' then complete ((word "alse".toList rest).map Prod.snd)
    else if c = '-' || c.isDigit then complete (skipNumber (c :: rest))
    else .error .expectedValue

/-- Skips pieces until the outermost value is complete. Each takes at least one character, so a
number of steps above the length of the text is enough. -/
def skipPieces : Nat → List Frame → List Char → Except Error (List Char)
  | 0, _, _ => .error .endOfValue
  | steps + 1, frames, text => do
    let (frames, rest) ← skipPiece frames text
    if frames.isEmpty then return rest else skipPieces steps frames rest

def skipValue (text : List Char) : Except Error (List Char) :=
  skipPieces (text.length + 1) [] text

end SlotServer.JsonText
