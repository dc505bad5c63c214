import SlotServer.Shell.Regular.Search

/-!
# Commands of the stream editor

A script is a row of commands. Each may have one or two addresses that say for which lines it is
meant; a block is a command that jumps over what it holds if it is not meant.
-/

namespace SlotServer.Shell.Utility.Editor

/-- An expression as a script gives it; without one, the expression that was used last is meant. -/
structure Expression where
  regular : Option Regular
  foldsCase : Bool
  hasLines : Bool
  deriving Repr

/-- The first address of a command. -/
inductive Address where
  | line (n : Nat)
  /-- Every so many lines from a certain one on. -/
  | steps (first step : Nat)
  | last
  | fits (e : Expression)
  deriving Repr

/-- The address at which a range ends. -/
inductive RangeEnd where
  | line (n : Nat)
  | last
  | fits (e : Expression)
  /-- So many lines later. -/
  | after (n : Nat)
  | multiple (n : Nat)
  deriving Repr

/-- A change of the case of letters. -/
inductive CaseChange where
  /-- What follows is changed until the next change. -/
  | upper | lower | none
  /-- Only the next letter is changed. -/
  | nextUpper | nextLower
  deriving DecidableEq, Repr

/-- A part of what takes the place of a text that fits. -/
inductive Replacement where
  | text (bytes : Bytes)
  | group (number : Nat)
  | change (c : CaseChange)
  deriving Repr

structure Substitution where
  expression : Expression
  parts : List Replacement
  isGlobal : Bool
  /-- The first of the texts that fit which is replaced. -/
  first : Nat
  prints : Bool
  evaluates : Bool
  file : Option String
  deriving Repr

/-- When a jump is made. -/
inductive Jump where
  | always | ifReplaced | ifNotReplaced
  deriving DecidableEq, Repr

inductive Operation where
  /-- Begins a block that ends before the command of a number. -/
  | block (after : Nat)
  | nothing
  | number
  | append (text : Bytes)
  | insert (text : Bytes)
  | change (text : Bytes)
  | jump (kind : Jump) (label : String)
  | delete
  | deleteFirst
  | evaluate (command : Bytes)
  | fileName
  | get
  | getAppended
  | hold
  | holdAppended
  | exchange
  | list (width : Option Nat)
  | next
  | nextAppended
  | print
  | printFirst
  | quit (status : Nat)
  | quitSilently (status : Nat)
  | readFile (path : String)
  | readLine (path : String)
  | substitute (s : Substitution)
  | translate (pairs : List (UInt8 × UInt8))
  | write (path : String)
  | writeFirst (path : String)
  | clear
  deriving Repr

/-- A command with its addresses. -/
structure Command where
  first : Option Address
  last : Option RangeEnd
  /-- Whether it is meant for the lines that the addresses do not say. -/
  isNegated : Bool
  /-- Whether the range is open before the first line. -/
  startsOpen : Bool
  operation : Operation
  deriving Repr

structure Script where
  commands : Array Command
  labels : List (String × Nat)
  /-- Whether lines are not printed unless a command says so. -/
  isQuiet : Bool

def Script.outputs (s : Script) : List String :=
  s.commands.toList.filterMap fun c =>
    match c.operation with
    | .write path => some path
    | .writeFirst path => some path
    | .substitute s => s.file
    | _ => none

end SlotServer.Shell.Utility.Editor
