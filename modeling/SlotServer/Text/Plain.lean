import SlotServer.Text.Utf8

/-!
# Plain text

Text for a reader without a terminal: control characters other than white space are left out, and
so are the sequences with which a terminal is told what to do. A part of a text that a terminal
would show in a style stands between two such sequences, so a sequence that a text leaves
unfinished ends at the next part with a style.
-/

namespace SlotServer.Text

/-- A text shown in a style: between the sequence that switches the style on and the one that
switches all styles off. -/
def styled (text : String) : String :=
  "\x1b[1m" ++ text ++ "\x1b[0m"

/-- Where in a control sequence a text is. -/
inductive ControlState where
  | outside
  | escaped
  /-- After the escape character and a character that more follow. -/
  | continued
  /-- Among the parameters of a sequence. -/
  | parameters
  /-- At the first character of a device string. -/
  | deviceStart
  /-- Among the parameters of a device string. -/
  | deviceParameters
  /-- Among the characters between the parameters of a device string and its name. -/
  | deviceContinued
  /-- In a string that a byte of its own ends. -/
  | string
  | bellString
  deriving DecidableEq, Repr

namespace ControlState

/-- Whether a control character counts as white space. -/
def isBlankControl (c : Char) : Bool :=
  c = '\t' || c = '\n' || c = '\x0c' || c = '\r'

/-- The state after a character that begins a sequence or is between its beginning and its end. -/
def afterPrinted (state : ControlState) (n : Nat) : ControlState :=
  match state with
  | outside => outside
  | escaped =>
    if n < 0x30 then continued
    else if n = 0x5B then parameters
    else if n = 0x5D then bellString
    else if n = 0x50 then deviceStart
    else if n = 0x58 || n = 0x5E || n = 0x5F then string
    else outside
  | continued => if n < 0x30 then continued else outside
  | parameters => if n < 0x40 then parameters else outside
  | deviceStart =>
    if n < 0x30 then deviceContinued else if n < 0x40 then deviceParameters else string
  | deviceParameters =>
    if n < 0x30 then deviceContinued else if n < 0x3C then deviceParameters else string
  | deviceContinued => if n < 0x30 then deviceContinued else string
  | string => string
  | bellString => bellString

/-- The state after a control character that means nothing by itself, and whether the character is
shown. White space is shown and ends the sequence it stands in, but not a string. -/
def afterControl (state : ControlState) (c : Char) : ControlState × Bool :=
  match state with
  | outside | escaped | continued | parameters =>
    if isBlankControl c then (outside, true) else (state, false)
  | bellString => (if c = '\x07' then outside else bellString, false)
  | _ => (state, false)

/-- The state after a character beyond ASCII, and whether the character is shown. -/
def afterWide (state : ControlState) (c : Char) : ControlState × Bool :=
  match state with
  | outside => (outside, true)
  | string => (if 0x9C ∈ String.utf8EncodeChar c then outside else string, false)
  | _ => (state, false)

def step (state : ControlState) (c : Char) : ControlState × Bool :=
  let n := c.toNat
  if n = 0x1B then (escaped, false)
  else if n = 0x18 || n = 0x1A then (outside, false)
  else if n < 0x20 then state.afterControl c
  else if n < 0x7F then (state.afterPrinted n, state = outside)
  else if n = 0x7F then (state, false)
  else state.afterWide c

end ControlState

def plain (state : ControlState) : List Char → List Char
  | [] => []
  | c :: rest =>
    let (state, shown) := state.step c
    if shown then c :: plain state rest else plain state rest

end SlotServer.Text
