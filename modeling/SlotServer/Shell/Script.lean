/-!
# Scripts

The commands of a script, and the words that they are made of before anything in these is replaced
by a value.
-/

namespace SlotServer.Shell

/-- What is done with the value of a parameter. Where it matters whether the parameter is set,
`emptyToo` says that an empty value counts as none. -/
inductive Change where
  | keep
  | length
  | orElse (emptyToo : Bool)
  | orAssign (emptyToo : Bool)
  | orFail (emptyToo : Bool)
  | ifSet (emptyToo : Bool)
  | dropSuffix (longest : Bool)
  | dropPrefix (longest : Bool)
  /-- Something that cannot be done. -/
  | wrong
  deriving DecidableEq, Repr

mutual

/-- A piece of a word. What stands in quotes is neither split into several words nor taken for a
pattern. -/
inductive Piece where
  | plain (c : Char)
  | quoted (text : String)
  /-- The value of a parameter, changed with the help of an argument. -/
  | parameter (quoted : Bool) (name : String) (change : Change) (argument : List Piece)
  | output (quoted : Bool) (script : Option Script)
  | arithmetic (quoted : Bool) (expression : List Piece)

/-- A redirection of a descriptor by an operator. -/
inductive Redirect where
  | mk (descriptor : Nat) (operator : String) (target : List Piece)

/-- A command. Those that can fail by themselves know their line. -/
inductive Script where
  /-- A command with its arguments, or assignments alone. -/
  | simple (line : Nat) (assignments : List (String × List Piece)) (words : List (List Piece))
      (redirects : List Redirect)
  | pipeline (stages : List Script)
  | negation (command : Script)
  /-- The second command is run if the first one succeeds. -/
  | both (first second : Script)
  /-- The second command is run if the first one fails. -/
  | either (first second : Script)
  | sequence (first second : Script)
  | background (command : Script)
  /-- Commands that cannot change the shell around them. -/
  | subshell (line : Nat) (body : Script) (redirects : List Redirect)
  | redirected (line : Nat) (body : Script) (redirects : List Redirect)
  | branch (condition thenBody : Script) (elseBody : Option Script)
  /-- A body that is repeated as long as a condition has this outcome. -/
  | loop (outcome : Bool) (condition body : Script)
  /-- A body that is repeated for every word, or for every argument of the shell. -/
  | each (line : Nat) (name : String) (words : Option (List (List Piece))) (body : Script)
  /-- The body of the first branch that has a pattern for the word. -/
  | choice (line : Nat) (word : List Piece)
      (branches : List (List (List Piece) × Option Script))
  | define (name : String) (body : Script)

end

abbrev Word := List Piece

namespace Word

/-- The text of a word that is written without quotes and has no values in it. -/
def literal? : Word → Option String
  | [] => some ""
  | .plain c :: rest => (literal? rest).map fun text => String.ofList [c] ++ text
  | _ => none

def isNameStart (c : Char) : Bool :=
  c.isAlpha || c = '_'

def isNamePart (c : Char) : Bool :=
  c.isAlphanum || c = '_'

def isName (text : List Char) : Bool :=
  match text with
  | [] => false
  | c :: rest => isNameStart c && rest.all isNamePart

/-- The name that a word is, if it is written without quotes. -/
def name? (word : Word) : Option String :=
  (literal? word).filter fun text => isName text.toList

def splitAtEquals? : Word → Option (List Char × Word)
  | .plain c :: rest =>
    if c = '=' then some ([], rest)
    else (splitAtEquals? rest).map fun (name, value) => (c :: name, value)
  | _ => none

/-- The name and the value of a word that assigns to a variable. -/
def assignment? (word : Word) : Option (String × Word) :=
  match splitAtEquals? word with
  | some (name, value) => if isName name then some (String.ofList name, value) else none
  | none => none

end Word

/-- What is wrong with a script, and in which line. -/
structure SyntaxFault where
  line : Nat
  message : String
  deriving DecidableEq, Repr

end SlotServer.Shell
