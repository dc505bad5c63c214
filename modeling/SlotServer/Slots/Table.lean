import SlotServer.Net.Ip

/-!
# The slot table

A table of a fixed number of slots, each free or held by the record of one connection. Allocation
takes the lowest free slot. The number of held slots is counted along with every change and never
computed from the slots.
-/

namespace SlotServer

/-- What is known about the connection that holds a slot. -/
structure ConnectionRecord where
  /-- The slot that the connection holds. -/
  slot : Nat
  /-- A name made from the slot. -/
  name : String
  /-- What replies call the peer. -/
  peerLabel : String
  deriving DecidableEq, Repr

/-- The record of a connection in a slot: named after the slot, and labelled by the address of the
peer, or by the name where the address is not known. -/
def ConnectionRecord.new (slot : Nat) (peer : Option IpAddress) : ConnectionRecord :=
  let name := s!"client_{slot}"
  { slot, name, peerLabel := (peer.map IpAddress.text).getD name }

/-- Why a slot is not given out or not given back. -/
inductive SlotError where
  /-- Every slot is held. -/
  | full (capacity : Nat)
  /-- The slot is free already. -/
  | notActive (slot : Nat)
  | outOfRange (slot capacity : Nat)
  deriving DecidableEq, Repr

def SlotError.message : SlotError → String
  | full capacity => s!"all {capacity} connection slots are in use"
  | notActive slot => s!"connection slot {slot} is not active"
  | outOfRange slot capacity =>
    s!"connection slot {slot} is out of range for capacity {capacity}"

/-- Slots, and how many of them are held. -/
structure SlotTable where
  slots : List (Option ConnectionRecord)
  activeCount : Nat
  deriving DecidableEq, Repr

namespace SlotTable

def new (capacity : Nat) : SlotTable where
  slots := List.replicate capacity none
  activeCount := 0

def capacity (table : SlotTable) : Nat :=
  table.slots.length

/-- The record that holds a slot, if there is such a slot and it is held. -/
def record? (table : SlotTable) (slot : Nat) : Option ConnectionRecord :=
  table.slots[slot]?.join

/-- The records that hold slots, in the order of the slots. -/
def activeRecords (table : SlotTable) : List ConnectionRecord :=
  table.slots.filterMap id

def firstFree? (table : SlotTable) : Option Nat :=
  table.slots.findIdx? Option.isNone

/-- Gives the lowest free slot to a new connection, and says by which record it is held. -/
def allocate (table : SlotTable) (peer : Option IpAddress) :
    Except SlotError (ConnectionRecord × SlotTable) :=
  match table.firstFree? with
  | none => .error (.full table.capacity)
  | some slot =>
    let record := ConnectionRecord.new slot peer
    .ok (record, ⟨table.slots.set slot (some record), table.activeCount + 1⟩)

/-- Takes a slot back, whoever holds it. -/
def release (table : SlotTable) (slot : Nat) : Except SlotError SlotTable :=
  match table.slots[slot]? with
  | none => .error (.outOfRange slot table.capacity)
  | some none => .error (.notActive slot)
  | some (some _) => .ok ⟨table.slots.set slot none, table.activeCount - 1⟩

end SlotTable

end SlotServer
