import SlotServer.Shell.Script

/-!
# Sources of scripts

The text of a script that is being read, token by token. A name that stands for another text is
replaced by that text in front of what is left; the character `Source.mark` shows where that text
ends.
-/

namespace SlotServer.Shell

inductive Token where
  | ending
  /-- An operator, or the end of a line. -/
  | operator (text : String)
  /-- A word that structures a script. -/
  | keyword (text : String)
  | word (word : Word) (isQuoted : Bool)
  /-- A redirection, with the number in front of it. -/
  | redirection (number : Option Nat) (operator : String)

namespace Token

/-- The words that structure a script. -/
def keywords : List String :=
  ["!", "\x7b", "\x7d", "case", "do", "done", "elif", "else", "esac", "fi", "for", "if", "in",
    "then", "until", "while"]

def shown : Token → String
  | ending => "end of file"
  | operator op => if op = "\n" then "newline" else s!"\"{op}\""
  | keyword text => s!"\"{text}\""
  | word _ _ => "word"
  | redirection _ _ => "redirection"

def isOperator (op : String) : Token → Bool
  | operator text => text = op
  | _ => false

def isKeyword (text : String) : Token → Bool
  | keyword t => t = text
  | _ => false

/-- Whether a list of commands within a command ends in front of a token. -/
def closesList : Token → Bool
  | ending => true
  | operator op => op = ")" || op = ";;"
  | keyword text =>
    ["\x7d", "do", "done", "elif", "else", "esac", "fi", "then"].contains text
  | _ => false

end Token

/-- How the next token is looked at. -/
structure Look where
  /-- Ends of lines are passed over. -/
  overLines : Bool
  /-- Words that structure a script are told from others. -/
  forKeywords : Bool
  /-- Names that stand for other texts are replaced. -/
  forAliases : Bool

/-- A text that is being read. -/
structure Source where
  text : List Char
  line : Nat
  /-- The lines that have been taken out below this one. -/
  taken : Nat
  pushed : Option Token
  aliases : List (String × String)
  /-- The names whose texts are being read, the innermost one first. -/
  active : List String
  /-- Whether the next word may be such a name too. -/
  aliasNext : Bool

abbrev Reading := StateT Source (Except SyntaxFault)

namespace Source

def mark : Char := '\x00'

def ofScript (aliases : List (String × String)) (script : String) : Source where
  text := script.toList.filter (· ≠ mark)
  line := 1
  taken := 0
  pushed := none
  aliases := aliases
  active := []
  aliasNext := false

/-- A text without the line ends at its start that a backslash takes away, and how many lines they
end. -/
def withoutJoins : List Char → Nat × List Char
  | '\\' :: '\n' :: rest =>
    let (n, rest) := withoutJoins rest
    (n + 1, rest)
  | text => (0, text)

/-- The source without the line ends at its start that a backslash takes away. -/
def joined (source : Source) : Source :=
  match source.text with
  | '\\' :: '\n' :: _ =>
    let (n, text) := withoutJoins source.text
    { source with text, line := source.line + n + source.taken, taken := 0 }
  | _ => source

def advanced (source : Source) : Source :=
  match source.text with
  | [] => source
  | c :: text =>
    if c = '\n' then { source with text, line := source.line + 1 + source.taken, taken := 0 }
    else { source with text }

def advancedBy : Nat → Source → Source
  | 0, source => source
  | n + 1, source => advancedBy n source.advanced

def afterMark (source : Source) : Source :=
  let aliasNext :=
    match source.active.head?.bind fun name => source.aliases.lookup name with
    | some text => text.toList.getLast?.any fun c => c = ' ' || c = '\t'
    | none => false
  { source.advanced with
    active := source.active.tail
    aliasNext := source.aliasNext || aliasNext }

def withAlias (source : Source) (name text : String) : Source :=
  { source with text := text.toList ++ mark :: source.text, active := name :: source.active }

end Source

namespace Reading

/-- Something is wrong in the present line. -/
def fail {α : Type} (message : String) : Reading α := do
  throw ⟨(← get).line, message⟩

def unexpected {α : Type} (token : Token) (expected : Option String) : Reading α :=
  let wanted := (expected.map fun e => s!" (expecting {e})").getD ""
  fail s!"{token.shown} unexpected{wanted}"

/-- The next character, which stays where it is. Line ends that a backslash takes away are
passed over. -/
def peek : Reading (Option Char) := do
  modify Source.joined
  return (← get).text.head?

def skip : Reading Unit :=
  modify Source.advanced

def take : Reading (Option Char) := do
  let c ← peek
  skip
  return c

/-- Passes over a character if it is the next one, and tells whether it was. -/
def skipIf (c : Char) : Reading Bool := do
  if (← peek) = some c then
    skip
    return true
  else return false

def push (token : Token) : Reading Unit :=
  modify fun source => { source with pushed := some token }

end Reading

end SlotServer.Shell
