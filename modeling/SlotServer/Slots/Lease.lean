import SlotServer.Slots.Table

/-!
# Leases

Whoever allocates a slot gets a lease on it. A lease keeps its own copy of the record it was given
and, when it is dropped, gives back the slot that the copy names. A slot can also be released
directly, behind the back of its lease; what the lease then gives back is the slot of whoever holds
it by that time, or nothing.
-/

namespace SlotServer

/-- A table with the leases given out on it, numbered in the order of allocation. A lease that was
dropped keeps its number and holds no record. -/
structure LeasedTable where
  table : SlotTable
  leases : List (Option ConnectionRecord)
  deriving DecidableEq, Repr

/-- An operation on a table or on one of its leases. -/
inductive SlotOp where
  | allocate (peer : Option IpAddress)
  | release (slot : Nat)
  | drop (lease : Nat)
  deriving DecidableEq, Repr

/-- What an operation brought about. -/
inductive SlotAnswer where
  /-- A slot was allocated: the number of the lease on it and its record. -/
  | leased (lease : Nat) (record : ConnectionRecord)
  | refused (error : SlotError)
  | released (slot : Nat)
  /-- A slot could not be released directly. -/
  | notReleased (error : SlotError)
  /-- A lease was dropped and its slot is free. -/
  | givenBack (slot : Nat)
  /-- A lease was dropped, but its slot was free already. -/
  | stale (error : SlotError)
  /-- There is no such lease, or it was dropped before. -/
  | noLease
  deriving DecidableEq, Repr

namespace LeasedTable

/-- A table of free slots without leases. -/
def new (capacity : Nat) : LeasedTable :=
  ⟨.new capacity, []⟩

/-- The record that a lease holds, unless it was dropped. -/
def lease? (state : LeasedTable) (lease : Nat) : Option ConnectionRecord :=
  state.leases[lease]?.join

def liveLeases (state : LeasedTable) : List ConnectionRecord :=
  state.leases.filterMap id

/-- Performs one operation. -/
def step (state : LeasedTable) : SlotOp → LeasedTable × SlotAnswer
  | .allocate peer =>
    match state.table.allocate peer with
    | .error error => (state, .refused error)
    | .ok (record, table) =>
      (⟨table, state.leases ++ [some record]⟩, .leased state.leases.length record)
  | .release slot =>
    match state.table.release slot with
    | .error error => (state, .notReleased error)
    | .ok table => ({ state with table }, .released slot)
  | .drop lease =>
    match state.lease? lease with
    | none => (state, .noLease)
    | some record =>
      let leases := state.leases.set lease none
      match state.table.release record.slot with
      | .error error => (⟨state.table, leases⟩, .stale error)
      | .ok table => (⟨table, leases⟩, .givenBack record.slot)

/-- Performs operations one after another, with the answer to each. -/
def run (state : LeasedTable) : List SlotOp → LeasedTable × List SlotAnswer
  | [] => (state, [])
  | op :: ops =>
    let (state, answer) := state.step op
    let (state, answers) := state.run ops
    (state, answer :: answers)

end LeasedTable

end SlotServer
