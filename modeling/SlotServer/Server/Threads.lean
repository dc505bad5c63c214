import SlotServer.Slots.Lease
import SlotServer.Worker

/-!
# Threads

The thread that accepts connections and the workers that serve them take single steps, in any order.
A worker closes its stream before it drops its lease. Where no worker can be started, all that was
meant for it is dropped by the accepting thread, in no particular order, and only then is another
connection accepted.
-/

namespace SlotServer.Server

/-- How far a connection that got a slot has come. -/
inductive Stage where
  /-- The accepting thread still has it. -/
  | accepted
  /-- No worker could be started for it. -/
  | abandoned
  | serving
  /-- Its worker has ended serving it. -/
  | served
  deriving DecidableEq, Repr

/-- A connection that got a slot, with what is left of it. -/
structure Connection where
  record : ConnectionRecord
  stage : Stage := .accepted
  /-- Whether its stream was not closed yet. -/
  isOpen : Bool := true
  /-- Whether its lease was not dropped yet. -/
  isLeased : Bool := true
  deriving DecidableEq, Repr

namespace Connection

/-- Whether nothing is left of a connection. -/
def isGone (connection : Connection) : Bool :=
  !connection.isOpen && !connection.isLeased

/-- Whether the accepting thread is still busy with a connection. -/
def isPending (connection : Connection) : Bool :=
  match connection.stage with
  | .accepted => true
  | .abandoned => !connection.isGone
  | .serving | .served => false

def canClose (connection : Connection) : Bool :=
  connection.isOpen && (connection.stage = .served || connection.stage = .abandoned)

/-- A worker holds its lease until the stream is closed. -/
def canDrop (connection : Connection) : Bool :=
  connection.isLeased &&
    match connection.stage with
    | .served => !connection.isOpen
    | .abandoned => true
    | .accepted | .serving => false

end Connection

/-- The threads of a server, on a machine in a state of type `σ`. A connection has the number of its
lease. -/
structure Threads (σ : Type) where
  slots : LeasedTable
  connections : List Connection
  state : σ

/-- A step of one thread. The peer that connects, what reading from a connection gives and how it
answers writes come from outside. -/
inductive Move (σ : Type) where
  /-- A connection is accepted, and gets a slot or is closed at once. -/
  | accept (peer : Option IpAddress)
  /-- Lease and stream are handed to a worker. -/
  | handOver (lease : Nat)
  /-- No worker can be started. -/
  | giveUp (lease : Nat)
  /-- A worker executes and acknowledges one record. -/
  | exchange (lease : Nat) (record : Bytes) (writes : WriteScript)
  /-- A worker finds nothing more to read. -/
  | finish (lease : Nat)
  /-- A worker breaks off and leaves the machine in some state. -/
  | breakOff (lease : Nat) (state : σ)
  | close (lease : Nat)
  | drop (lease : Nat)

namespace Threads

variable {σ : Type}

/-- The threads of a server without connections. -/
def new (capacity : Nat) (state : σ) : Threads σ :=
  ⟨.new capacity, [], state⟩

/-- Changes a connection, if its thread is ready for it. -/
def turn (threads : Threads σ) (lease : Nat) (ready : Connection → Bool)
    (change : Connection → Connection) : Option (Threads σ) :=
  match threads.connections[lease]? with
  | some connection =>
    if ready connection then
      some { threads with connections := threads.connections.set lease (change connection) }
    else none
  | none => none

/-- Makes one move, if it is the turn of its thread. -/
def step (host : Capabilities σ) (threads : Threads σ) : Move σ → Option (Threads σ)
  | .accept peer =>
    if threads.connections.any Connection.isPending then none
    else
      match threads.slots.step (.allocate peer) with
      | (slots, .leased _ record) =>
        some { threads with slots, connections := threads.connections ++ [{ record := record }] }
      | (slots, _) => some { threads with slots }
  | .handOver lease => threads.turn lease (·.stage = .accepted) ({ · with stage := .serving })
  | .giveUp lease => threads.turn lease (·.stage = .accepted) ({ · with stage := .abandoned })
  | .exchange lease record writes => do
    let connection ← threads.connections[lease]?
    let handled := Worker.handle host connection.record record writes threads.state
    -- A reply that cannot be sent ends the loop of the worker.
    let stage : Stage := if handled.value.1.isNone then .serving else .served
    let next ← threads.turn lease (·.stage = .serving) ({ · with stage })
    return { next with state := handled.state }
  | .finish lease => threads.turn lease (·.stage = .serving) ({ · with stage := .served })
  | .breakOff lease state => do
    let next ← threads.turn lease (·.stage = .serving) ({ · with stage := .served })
    return { next with state }
  | .close lease => threads.turn lease Connection.canClose ({ · with isOpen := false })
  | .drop lease => do
    let next ← threads.turn lease Connection.canDrop ({ · with isLeased := false })
    return { next with slots := (threads.slots.step (.drop lease)).1 }

/-- Makes moves one after another, if each is made at the turn of its thread. -/
def run (host : Capabilities σ) (threads : Threads σ) : List (Move σ) → Option (Threads σ)
  | [] => some threads
  | move :: moves => do (← threads.step host move).run host moves

end Threads

end SlotServer.Server
