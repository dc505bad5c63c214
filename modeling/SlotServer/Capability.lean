import SlotServer.Log.Event
import SlotServer.Transfer.Reading
import SlotServer.Transfer.Writing

/-!
# Capabilities

What a server needs from the machine it runs on: opening and creating files and running command
lines. Capabilities act on a state of their own kind, such as a directory; how reading and writing
a file goes is decided when it is opened or created, and comes as a script.

All that the server does in the outside world is an action, and a run of actions is its trace.
-/

namespace SlotServer

/-- Something that the server does outside of itself. -/
inductive Action where
  /-- The execution of a command begins. -/
  | began (command : Command)
  | opened (path : String)
  | created (path : String)
  /-- A write call on the created file did not fail, and accepted these bytes. -/
  | wrote (bytes : Bytes)
  /-- A flush of the created file is attempted. -/
  | flushed
  | ran (commandLine : String)
  /-- A chunk of a file is handed to the local sink. -/
  | retrieved (chunk : Bytes)
  /-- The output of a command line is handed to the local sink. -/
  | output (text : String)
  /-- A write call on the connection did not fail, and accepted these bytes. -/
  | replied (bytes : Bytes)
  | logged (event : Log.Event)
  deriving DecidableEq, Repr

def Action.event? : Action → Option Log.Event
  | logged event => some event
  | _ => none

/-- What the server does, in order. -/
abbrev Trace := List Action

def Trace.events (trace : Trace) : List Log.Event :=
  trace.filterMap Action.event?

/-- What a write call on the connection accepted. -/
def Action.reply? : Action → Option Bytes
  | replied bytes => some bytes
  | _ => none

/-- What the write calls on the connection accepted, in order. -/
def Trace.replies (trace : Trace) : List Bytes :=
  trace.filterMap Action.reply?

/-- A value with the state that is left and the trace of what was done. -/
structure Outcome (σ α : Type) where
  value : α
  state : σ
  trace : Trace

/-- The machine that commands are executed on, acting on a state of type `σ`. -/
structure Capabilities (σ : Type) where
  /-- Opens a path: what reading it will give. -/
  openFile : String → σ → Except Fault ReadScript × σ
  /-- Creates a path, emptying what was there: how it will answer writes. -/
  createFile : String → σ → Except Fault WriteScript × σ
  /-- Lets bytes that a created path accepted reach it. -/
  append : String → Bytes → σ → σ
  /-- Runs a command line to its end: the lines of its output. -/
  run : String → σ → Except Fault (List String) × σ

end SlotServer
