import SlotServer.Bounded

/-!
# Commands

A record that a peer sends carries one command: a keyword and an argument. The keyword alone
decides what kind of command it is, so the kind is a function of the command and not a part of it.
-/

namespace SlotServer

/-- What a command asks for. -/
inductive CommandKind where
  /-- Read a file and hand its contents to the local sink. -/
  | retrieve
  /-- Overwrite a file with a body. -/
  | store
  /-- Run a command line and capture its output. -/
  | run
  /-- Anything else, which is ignored. -/
  | unknown
  deriving DecidableEq, Repr

namespace CommandKind

/-- The keyword of a kind; the unknown kind has none. -/
def keyword : CommandKind → String
  | retrieve => "GET"
  | store => "PUT"
  | run => "EXEC"
  | unknown => ""

/-- The kind that a keyword stands for. Case matters. -/
def ofKeyword (keyword : String) : CommandKind :=
  if keyword = "GET" then retrieve
  else if keyword = "PUT" then store
  else if keyword = "EXEC" then run
  else unknown

def name : CommandKind → String
  | retrieve => "retrieve"
  | store => "store"
  | run => "run"
  | unknown => "unknown"

theorem ofKeyword_keyword (kind : CommandKind) : ofKeyword kind.keyword = kind := by
  cases kind <;> decide

end CommandKind

def maxKeywordChars : Nat := 255

def maxArgumentChars : Nat := 511

/-- A command: a keyword and an argument, neither longer than its cap. -/
structure Command where
  /-- The leading word of the record. -/
  keyword : String
  /-- What follows the keyword and the blanks after it. -/
  argument : String
  keyword_le : keyword.length ≤ maxKeywordChars
  argument_le : argument.length ≤ maxArgumentChars
  deriving DecidableEq, Repr

namespace Command

def kind (command : Command) : CommandKind :=
  CommandKind.ofKeyword command.keyword

/-- The command with this keyword and argument, each cut to its cap. -/
def ofParts (keyword argument : List Char) : Command where
  keyword := capped maxKeywordChars keyword
  argument := capped maxArgumentChars argument
  keyword_le := length_capped_le ..
  argument_le := length_capped_le ..

def new (kind : CommandKind) (argument : String) : Command :=
  ofParts kind.keyword.toList argument.toList

/-- Two commands are equal if their keywords and their arguments are. -/
theorem ext_parts {a b : Command} (hk : a.keyword = b.keyword) (ha : a.argument = b.argument) :
    a = b := by
  cases a; cases b; simp_all

end Command

end SlotServer
