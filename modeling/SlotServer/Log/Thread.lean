import SlotServer.Log.Event

/-!
# Threads

The threads of a server, by which the entries of its log can be told apart.
-/

namespace SlotServer.Log

/-- A thread of a server. -/
inductive Thread where
  /-- The thread that starts and stops the server. -/
  | main
  | accept
  /-- The thread that serves the connection in a slot. -/
  | worker (slot : Nat)
  deriving DecidableEq, Repr

def Thread.name : Thread → String
  | main => "main"
  | accept => "cmdslot-accept"
  | worker slot => s!"cmdslot-slot-{slot}"

/-- Events with the threads that make them. -/
abbrev Record := List (Thread × Event)

def Record.ofThread (record : Record) (thread : Thread) : List Event :=
  record.filterMap fun (t, event) => if t = thread then some event else none

end SlotServer.Log
