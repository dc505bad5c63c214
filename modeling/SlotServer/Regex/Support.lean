import SlotServer.Regex.Syntax

/-!
# Expressions that can be matched

Expressions are matched byte by byte, without tables of Unicode. What would need such a table cannot
be matched: classes with a letter, properties, and letters of any case, wherever characters are
characters of Unicode; and where they are bytes, whatever matches a byte that is no character of
its own.
-/

namespace SlotServer.Regex

/-- The flags that decide what can be matched. -/
structure Mode where
  unicode : Bool
  ignoreCase : Bool
  deriving DecidableEq, Repr

namespace Mode

def start : Mode := ⟨true, false⟩

def switch (mode : Mode) (change : Flag × Bool) : Mode :=
  match change with
  | (.unicode, on) => { mode with unicode := on }
  | (.ignoreCase, on) => { mode with ignoreCase := on }
  | _ => mode

def switchAll (mode : Mode) (changes : FlagChanges) : Mode :=
  changes.foldl switch mode

/-- Whether a mode has no use for letters of a fixed case. -/
def needsCaseTable (mode : Mode) : Bool :=
  mode.unicode && mode.ignoreCase

end Mode

/-- Whether a character is a single byte. -/
def Literal.isAscii (literal : Literal) : Bool :=
  literal.char.toNat < 0x80

def Literal.isSupported (mode : Mode) (literal : Literal) : Bool :=
  if mode.unicode then !mode.ignoreCase else !literal.isByte || literal.isAscii

def Literal.isSupportedInClass (mode : Mode) (literal : Literal) : Bool :=
  if mode.unicode then !mode.ignoreCase else literal.isAscii

/-- Whether a class can be matched. A class of bytes never holds a byte beyond ASCII, so it cannot
be negated. -/
def ClassSet.isSupported (mode : Mode) : ClassSet → Bool
  | empty => true
  | literal l => l.isSupportedInClass mode
  | range first last => first.isSupportedInClass mode && last.isSupportedInClass mode
  | named negated => if mode.unicode then !mode.ignoreCase else !negated
  | shorthand negated => !mode.unicode && !negated
  | property => false
  | bracketed negated set => (mode.unicode || !negated) && set.isSupported mode
  | union items => items.attach.all fun ⟨item, _⟩ => item.isSupported mode
  | operation left right => left.isSupported mode && right.isSupported mode

/-- How far an expression has been looked through. -/
structure Scan where
  mode : Mode
  /-- Whether the edges of words of Unicode have been asked for. -/
  unicodeWordEdge : Bool
  deriving DecidableEq, Repr

/-- Looks through an expression from left to right; nothing if a part of it cannot be matched. -/
def Expression.scan (state : Scan) : Expression → Option Scan
  | empty => some state
  | literal l => if l.isSupported state.mode then some state else none
  | anyCharacter => if state.mode.unicode then some state else none
  | edge => some state
  | wordEdge =>
    some { state with unicodeWordEdge := state.unicodeWordEdge || state.mode.unicode }
  | shorthand negated => if !state.mode.unicode && !negated then some state else none
  | property => none
  | characters negated set =>
    if (state.mode.unicode || !negated) && set.isSupported state.mode then some state else none
  | repetition body => body.scan state
  | group changes body =>
    let inside := { state with mode := state.mode.switchAll changes }
    (body.scan inside).map fun after => { after with mode := state.mode }
  | switch changes => some { state with mode := state.mode.switchAll changes }
  | sequence parts => parts.attach.foldlM (fun state ⟨part, _⟩ => part.scan state) state
  | alternation branches =>
    branches.attach.foldlM (fun state ⟨branch, _⟩ => branch.scan state) state

end SlotServer.Regex
