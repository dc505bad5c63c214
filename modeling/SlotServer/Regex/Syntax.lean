/-!
# Regular expressions

The parts that a regular expression is put together from, and how deep they are nested.
-/

namespace SlotServer.Regex

/-- What can be switched on or off in the middle of an expression. -/
inductive Flag where
  | ignoreCase
  | multiLine
  | dotMatchesNewline
  | swapGreed
  | unicode
  | carriageReturn
  | verbose
  deriving DecidableEq, Repr

/-- Flags that are switched, and whether each is switched on. -/
abbrev FlagChanges := List (Flag × Bool)

/-- A character that stands for itself, or for the byte of its number where two hexadecimal digits
name it. -/
structure Literal where
  char : Char
  isByte : Bool
  deriving DecidableEq, Repr

/-- What stands between the brackets of a class. -/
inductive ClassSet where
  | empty
  | literal (literal : Literal)
  | range (first last : Literal)
  /-- One of the classes with a name, such as `[:alpha:]`. -/
  | named (negated : Bool)
  /-- One of the classes with a letter, such as `\d`. -/
  | shorthand (negated : Bool)
  | property
  | bracketed (negated : Bool) (set : ClassSet)
  | union (items : List ClassSet)
  /-- An intersection or a difference. -/
  | operation (left right : ClassSet)
  deriving Repr

/-- A regular expression. -/
inductive Expression where
  | empty
  | literal (literal : Literal)
  | anyCharacter
  /-- The start or the end of a line or of the text. -/
  | edge
  /-- A place with a character of a word on one side, or on no side or on both. -/
  | wordEdge
  | shorthand (negated : Bool)
  | property
  | characters (negated : Bool) (set : ClassSet)
  | repetition (body : Expression)
  /-- A part in parentheses, with the flags that are switched inside it. -/
  | group (changes : FlagChanges) (body : Expression)
  /-- Flags that are switched from here to the end of the part in parentheses. -/
  | switch (changes : FlagChanges)
  | sequence (parts : List Expression)
  | alternation (branches : List Expression)
  deriving Repr

/-! ## Putting parts together -/

/-- The union of items, which is no union where there is only one. -/
def ClassSet.ofItems : List ClassSet → ClassSet
  | [] => .empty
  | [item] => item
  | items => .union items

def Expression.ofParts : List Expression → Expression
  | [] => .empty
  | [part] => part
  | parts => .sequence parts

def Expression.ofBranches : List Expression → Expression
  | [] => .empty
  | [branch] => branch
  | branches => .alternation branches

/-! ## Nesting -/

/-- How many parts of a class that have parts of their own stand inside one another. -/
def ClassSet.nesting : ClassSet → Nat
  | bracketed _ set => set.nesting + 1
  | union items => (items.attach.map fun ⟨item, _⟩ => item.nesting).foldl max 0 + 1
  | operation left right => max left.nesting right.nesting + 1
  | _ => 0

/-- How many parts of an expression that have parts of their own stand inside one another. -/
def Expression.nesting : Expression → Nat
  | characters _ set => set.nesting + 1
  | repetition body => body.nesting + 1
  | group _ body => body.nesting + 1
  | sequence parts => (parts.attach.map fun ⟨part, _⟩ => part.nesting).foldl max 0 + 1
  | alternation branches =>
    (branches.attach.map fun ⟨branch, _⟩ => branch.nesting).foldl max 0 + 1
  | _ => 0

end SlotServer.Regex
