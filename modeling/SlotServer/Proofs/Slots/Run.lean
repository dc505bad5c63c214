import SlotServer.Proofs.Slots.Table
import SlotServer.Slots.Lease

/-!
# Runs of slot operations

Every operation on a table happens under one lock, so whatever threads the operations come from,
they come one after another: a run is a list. The rules below say what one operation can do, and
the main theorem what they keep in every state that a run reaches.
-/

namespace SlotServer

/-- The error that an operation met with, if it met with one. -/
def SlotAnswer.error? : SlotAnswer → Option SlotError
  | refused error | notReleased error | stale error => some error
  | _ => none

namespace LeasedTable

/-! ## One operation -/

/-- The rules of single operations. Each allocation and each release appears once for its success
and once for its failure. -/
inductive Performs (state : LeasedTable) : SlotOp → LeasedTable → SlotAnswer → Prop where
  | leased {peer record table} (h : state.table.allocate peer = .ok (record, table)) :
      Performs state (.allocate peer) ⟨table, state.leases ++ [some record]⟩
        (.leased state.leases.length record)
  | refused {peer error} (h : state.table.allocate peer = .error error) :
      Performs state (.allocate peer) state (.refused error)
  | released {slot table} (h : state.table.release slot = .ok table) :
      Performs state (.release slot) ⟨table, state.leases⟩ (.released slot)
  | notReleased {slot error} (h : state.table.release slot = .error error) :
      Performs state (.release slot) state (.notReleased error)
  | givenBack {lease record table} (hlive : state.lease? lease = some record)
      (h : state.table.release record.slot = .ok table) :
      Performs state (.drop lease) ⟨table, state.leases.set lease none⟩ (.givenBack record.slot)
  | stale {lease record error} (hlive : state.lease? lease = some record)
      (h : state.table.release record.slot = .error error) :
      Performs state (.drop lease) ⟨state.table, state.leases.set lease none⟩ (.stale error)
  | noLease {lease} (hdead : state.lease? lease = none) :
      Performs state (.drop lease) state .noLease

theorem Performs.execution {state next : LeasedTable} {op : SlotOp} {answer : SlotAnswer}
    (h : Performs state op next answer) : state.step op = (next, answer) := by
  cases h with
  | leased h | refused h | released h | notReleased h => simp [step, h]
  | givenBack hlive h | stale hlive h => simp [step, hlive, h]
  | noLease hdead => simp [step, hdead]

theorem step_performs (state : LeasedTable) (op : SlotOp) :
    Performs state op (state.step op).1 (state.step op).2 := by
  cases op with
  | allocate peer =>
      cases h : state.table.allocate peer with
      | error error => simpa [step, h] using Performs.refused h
      | ok given => simpa [step, h] using Performs.leased h
  | release slot =>
      cases h : state.table.release slot with
      | error error => simpa [step, h] using Performs.notReleased h
      | ok table => simpa [step, h] using Performs.released h
  | drop lease =>
      cases hl : state.lease? lease with
      | none => simpa [step, hl] using Performs.noLease hl
      | some record =>
          cases h : state.table.release record.slot with
          | error error => simpa [step, hl, h] using Performs.stale hl h
          | ok table => simpa [step, hl, h] using Performs.givenBack hl h

theorem performs_iff (state next : LeasedTable) (op : SlotOp) (answer : SlotAnswer) :
    Performs state op next answer ↔ state.step op = (next, answer) := by
  refine ⟨Performs.execution, ?_⟩
  intro h
  simpa only [h] using step_performs state op

theorem Performs.consistent {capacity : Nat} {state next : LeasedTable} {op : SlotOp}
    {answer : SlotAnswer} (h : Performs state op next answer)
    (hc : state.table.Consistent capacity) : next.table.Consistent capacity := by
  cases h with
  | leased h => exact hc.allocate h
  | released h | givenBack _ h => exact hc.release h
  | refused h | notReleased h | stale _ h | noLease h => exact hc

/-- An operation that meets with an error leaves the table as it was. -/
theorem Performs.table_eq {state next : LeasedTable} {op : SlotOp} {answer : SlotAnswer}
    {error : SlotError} (h : Performs state op next answer) (he : answer.error? = some error) :
    next.table = state.table := by
  cases h with
  | leased h | released h | givenBack _ h | noLease h => simp [SlotAnswer.error?] at he
  | refused h | notReleased h | stale _ h => rfl

/-! ## Whole runs -/

theorem run_cons (state : LeasedTable) (op : SlotOp) (ops : List SlotOp) :
    state.run (op :: ops) = (((state.step op).1.run ops).1,
      (state.step op).2 :: ((state.step op).1.run ops).2) :=
  rfl

theorem run_append (state : LeasedTable) (first rest : List SlotOp) :
    state.run (first ++ rest) =
      (((state.run first).1.run rest).1, (state.run first).2 ++ ((state.run first).1.run rest).2) := by
  induction first generalizing state with
  | nil => rfl
  | cons op first ih => simp [run, ih]

/-- What holds at the start and is kept by every operation holds of the state that a run reaches
and the answers that it gave. -/
theorem run_invariant (Holds : LeasedTable → List SlotAnswer → Prop) {start : LeasedTable}
    (hstart : Holds start [])
    (hstep : ∀ state answers op next answer, Holds state answers →
      Performs state op next answer → Holds next (answers ++ [answer]))
    (ops : List SlotOp) : Holds (start.run ops).1 (start.run ops).2 := by
  suffices h : ∀ state answers, Holds state answers →
      Holds (state.run ops).1 (answers ++ (state.run ops).2) from h start [] hstart
  induction ops with
  | nil => simp [run]
  | cons op ops ih =>
      intro state answers h
      simpa [run, List.append_assoc] using
        ih _ _ (hstep state answers op _ _ h (step_performs state op))

theorem consistent_run (capacity : Nat) (ops : List SlotOp) :
    ((new capacity).run ops).1.table.Consistent capacity :=
  run_invariant (fun state _ => state.table.Consistent capacity) (.new capacity)
    (fun _ _ _ _ _ h hs => hs.consistent h) ops

/-- What is true of a table of this capacity whatever was done to it: the count and the records
agree with the slots, allocation fails exactly when the count has reached the capacity and
otherwise takes the lowest free slot and no other, errors leave the table alone, and the count is
only ever lowered from one or more. -/
structure Sound (capacity : Nat) (state : LeasedTable) : Prop where
  consistent : state.table.Consistent capacity
  activeCount_le : state.table.activeCount ≤ capacity
  activeRecords_pairwise : state.table.activeRecords.Pairwise fun a b => a.slot < b.slot
  mem_activeRecords : ∀ record, record ∈ state.table.activeRecords ↔
    ∃ slot : Nat, state.table.slots[slot]? = some (some record)
  allocate_full : ∀ peer,
    state.table.allocate peer = .error (.full capacity) ↔ state.table.activeCount = capacity
  allocate_lowest : ∀ peer, state.table.activeCount ≠ capacity →
    ∃ slot next, state.table.TakesLowest peer slot next
  unchanged : ∀ op error, (state.step op).2.error? = some error →
    (state.step op).1.table = state.table
  release_count : ∀ slot next, state.table.release slot = .ok next →
    1 ≤ state.table.activeCount ∧ next.activeCount + 1 = state.table.activeCount

/-- Whatever allocations, direct releases and lease drops were made on a fresh table, in whatever
order, the table is sound. -/
theorem run_sound (capacity : Nat) (ops : List SlotOp) :
    Sound capacity ((new capacity).run ops).1 := by
  have h := consistent_run capacity ops
  refine ⟨h, h.activeCount_le, h.activeRecords_pairwise, SlotTable.mem_activeRecords_iff _, ?_,
    fun peer hc => h.takesLowest peer hc, ?_, ?_⟩
  · intro peer
    rw [SlotTable.allocate_eq_error_iff, h.activeCount_eq_capacity_iff, SlotTable.capacity,
      h.length_eq]
    simp
  · intro op error he
    exact (step_performs _ op).table_eq he
  · intro slot next hr
    exact h.activeCount_release hr

end LeasedTable

end SlotServer
