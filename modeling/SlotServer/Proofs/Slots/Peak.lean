import Mathlib.Data.List.Nodup
import SlotServer.Proofs.Slots.Run

/-!
# Slots and peak load

A slot is given out only while all slots below it are held, so the highest slot that was ever given
out tells how many slots were held at once. Over a whole run, with whatever releases and reuse in
between, the slots that were given out are exactly those below the peak load of the run.
-/

namespace SlotServer

/-- The slot that an operation gave out, if it gave one out. -/
def SlotAnswer.slot? : SlotAnswer → Option Nat
  | leased _ record => some record.slot
  | _ => none

/-! ## Held slots -/

namespace SlotTable

/-- The held slots in increasing order. -/
def heldSlots (table : SlotTable) : List Nat :=
  table.activeRecords.map (·.slot)

/-- There are no more different slots below a bound than the bound says. -/
theorem length_le_of_nodup {slots : List Nat} {bound : Nat} (hnodup : slots.Nodup)
    (hlt : ∀ slot ∈ slots, slot < bound) : slots.length ≤ bound := by
  have hsub : slots ⊆ List.range bound := fun slot hslot => List.mem_range.mpr (hlt slot hslot)
  simpa using hnodup.length_le_of_subset hsub

namespace Consistent

variable {capacity bound slot : Nat} {table : SlotTable}

theorem mem_heldSlots_iff (h : Consistent capacity table) :
    slot ∈ table.heldSlots ↔ ∃ record, table.record? slot = some record := by
  simp only [heldSlots, List.mem_map, mem_activeRecords_iff, record?_eq_some_iff]
  constructor
  · rintro ⟨record, ⟨other, hcell⟩, rfl⟩
    rw [(h.record_eq other record hcell).1]
    exact ⟨record, hcell⟩
  · rintro ⟨record, hcell⟩
    exact ⟨record, ⟨slot, hcell⟩, (h.record_eq slot record hcell).1⟩

theorem heldSlots_nodup (h : Consistent capacity table) : table.heldSlots.Nodup :=
  (List.pairwise_map.mpr h.activeRecords_pairwise).nodup

theorem length_heldSlots (h : Consistent capacity table) :
    table.heldSlots.length = table.activeCount := by
  rw [heldSlots, List.length_map, h.count_eq, activeRecords, List.length_filterMap_eq_countP]
  rfl

theorem heldSlots_lt (h : Consistent capacity table)
    (hbound : ∀ slot record, table.record? slot = some record → slot < bound) :
    ∀ slot ∈ table.heldSlots, slot < bound := by
  intro slot hslot
  obtain ⟨record, hrecord⟩ := h.mem_heldSlots_iff.mp hslot
  exact hbound slot record hrecord

/-- Held slots below a bound are not more than the bound. -/
theorem activeCount_le_of_forall (h : Consistent capacity table)
    (hbound : ∀ slot record, table.record? slot = some record → slot < bound) :
    table.activeCount ≤ bound := by
  rw [← h.length_heldSlots]
  exact length_le_of_nodup h.heldSlots_nodup (h.heldSlots_lt hbound)

/-- Held slots below a bound are fewer than the bound if one slot below it is free. -/
theorem activeCount_lt_of_forall (h : Consistent capacity table)
    (hbound : ∀ slot record, table.record? slot = some record → slot < bound)
    (hslot : slot < bound) (hfree : table.record? slot = none) : table.activeCount < bound := by
  have hnotMem : slot ∉ table.heldSlots := by
    rw [h.mem_heldSlots_iff, hfree]
    simp
  have hlength := length_le_of_nodup (List.nodup_cons.mpr ⟨hnotMem, h.heldSlots_nodup⟩)
    (List.forall_mem_cons.mpr ⟨hslot, h.heldSlots_lt hbound⟩)
  rwa [List.length_cons, h.length_heldSlots] at hlength

/-- Below the lowest free slot there are as many held slots as there are slots. -/
theorem le_activeCount (h : Consistent capacity table) (hslot : table.firstFree? = some slot) :
    slot ≤ table.activeCount := by
  rw [← h.length_heldSlots, ← List.length_range (n := slot)]
  refine List.nodup_range.length_le_of_subset ?_
  intro lower hlower
  obtain ⟨record, hcell⟩ :=
    ((firstFree?_eq_some_iff ..).mp hslot).2 lower (List.mem_range.mp hlower)
  exact h.mem_heldSlots_iff.mpr ⟨record, (record?_eq_some_iff ..).mpr hcell⟩

end Consistent

end SlotTable

/-! ## Runs -/

namespace LeasedTable

/-- The slots that were given out, in the order in which they were. -/
def handedOut (answers : List SlotAnswer) : List Nat :=
  answers.filterMap SlotAnswer.slot?

/-- The most slots that are held at once in any state of a run. -/
def peak (state : LeasedTable) : List SlotOp → Nat
  | [] => state.table.activeCount
  | op :: ops => max state.table.activeCount ((state.step op).1.peak ops)

theorem activeCount_le_peak (state : LeasedTable) (ops : List SlotOp) :
    state.table.activeCount ≤ state.peak ops := by
  cases ops with
  | nil => exact Nat.le_refl _
  | cons op ops => exact Nat.le_max_left ..

/-- The peak is reached in some state of the run and exceeded in none. -/
theorem peak_isMax (state : LeasedTable) (ops : List SlotOp) :
    (∃ before later, ops = before ++ later ∧
      (state.run before).1.table.activeCount = state.peak ops) ∧
    ∀ before later, ops = before ++ later →
      (state.run before).1.table.activeCount ≤ state.peak ops := by
  induction ops generalizing state with
  | nil =>
      refine ⟨⟨[], [], rfl, rfl⟩, ?_⟩
      intro before later h
      obtain ⟨rfl, -⟩ := List.append_eq_nil_iff.mp h.symm
      exact Nat.le_refl _
  | cons op ops ih =>
      obtain ⟨⟨before, later, hsplit, hreached⟩, hmost⟩ := ih (state.step op).1
      refine ⟨?_, ?_⟩
      · rcases Nat.le_total ((state.step op).1.peak ops) state.table.activeCount with hle | hle
        · exact ⟨[], op :: ops, rfl, by simp [peak, run, hle]⟩
        · exact ⟨op :: before, later, by simp [hsplit], by simp [peak, run, hreached, hle]⟩
      · intro before later h
        cases before with
        | nil => exact activeCount_le_peak state (op :: ops)
        | cons first before =>
            obtain ⟨rfl, hrest⟩ := List.cons.inj h
            exact Nat.le_trans (hmost before later hrest) (Nat.le_max_right ..)

/-- The slots that were given out so far are those below a bound, and no other slot is held. -/
structure FilledUpTo (capacity bound : Nat) (state : LeasedTable) (answers : List SlotAnswer) :
    Prop where
  consistent : state.table.Consistent capacity
  mem_handedOut_iff : ∀ slot, slot ∈ handedOut answers ↔ slot < bound
  held_lt : ∀ slot record, state.table.record? slot = some record → slot < bound

namespace FilledUpTo

variable {capacity bound : Nat} {state next : LeasedTable} {op : SlotOp} {answer : SlotAnswer}
  {answers : List SlotAnswer}

theorem new (capacity : Nat) : FilledUpTo capacity 0 (LeasedTable.new capacity) [] where
  consistent := .new capacity
  mem_handedOut_iff := by simp [handedOut]
  held_lt := by
    intro slot record h
    have hcell := (SlotTable.record?_eq_some_iff ..).mp h
    simp [LeasedTable.new, SlotTable.new, List.getElem?_replicate] at hcell

theorem activeCount_le (h : FilledUpTo capacity bound state answers) :
    state.table.activeCount ≤ bound :=
  h.consistent.activeCount_le_of_forall h.held_lt

/-- An operation that gives out no slot leaves the bound. -/
theorem kept (h : FilledUpTo capacity bound state answers)
    (hc : next.table.Consistent capacity) (hanswer : answer.slot? = none)
    (hheld : ∀ slot record, next.table.record? slot = some record →
      state.table.record? slot = some record) :
    FilledUpTo capacity (max bound next.table.activeCount) next (answers ++ [answer]) := by
  have hlt : ∀ slot record, next.table.record? slot = some record → slot < bound :=
    fun slot record hrecord => h.held_lt slot record (hheld slot record hrecord)
  rw [Nat.max_eq_left (hc.activeCount_le_of_forall hlt)]
  exact ⟨hc, by simpa [handedOut, hanswer] using h.mem_handedOut_iff, hlt⟩

/-- A slot that is given out is below the bound, and then another slot below it was free, or it is
the bound, and then all slots below it are held. -/
theorem leased {peer : Option IpAddress} {record : ConnectionRecord} {table : SlotTable}
    (h : FilledUpTo capacity bound state answers)
    (ha : state.table.allocate peer = .ok (record, table)) :
    FilledUpTo capacity (max bound table.activeCount) ⟨table, state.leases ++ [some record]⟩
      (answers ++ [.leased state.leases.length record]) := by
  obtain ⟨hslot, -, htable⟩ := (SlotTable.allocate_eq_ok_iff ..).mp ha
  have hcount : table.activeCount = state.table.activeCount + 1 := by rw [htable]
  have hfree := SlotTable.record?_of_allocate ha
  have hlower := h.consistent.le_activeCount hslot
  have hle := h.activeCount_le
  have hmax : ∀ slot, slot < max bound table.activeCount ↔ slot < bound ∨ slot = record.slot := by
    intro slot
    by_cases hold : record.slot < bound
    · have := h.consistent.activeCount_lt_of_forall h.held_lt hold hfree
      omega
    · omega
  refine ⟨h.consistent.allocate ha, ?_, ?_⟩
  · intro slot
    have hold := h.mem_handedOut_iff slot
    rw [hmax, ← hold]
    simp [handedOut, SlotAnswer.slot?]
  · intro slot held hrecord
    rw [hmax]
    rw [SlotTable.record?_allocate ha] at hrecord
    split at hrecord
    next heq => exact .inr heq
    next => exact .inl (h.held_lt slot held hrecord)

theorem performs (h : FilledUpTo capacity bound state answers)
    (hp : Performs state op next answer) :
    FilledUpTo capacity (max bound next.table.activeCount) next (answers ++ [answer]) := by
  have hc := hp.consistent h.consistent
  cases hp with
  | leased ha => exact h.leased ha
  | refused _ | notReleased _ | stale _ _ | noLease _ =>
      exact h.kept hc rfl fun _ _ hrecord => hrecord
  | released hr | givenBack _ hr =>
      refine h.kept hc rfl ?_
      intro slot record hrecord
      rw [SlotTable.record?_release hr] at hrecord
      split at hrecord
      · cases hrecord
      · exact hrecord

/-- Over a run the bound grows to the peak of the run. -/
theorem run (h : FilledUpTo capacity bound state answers) (ops : List SlotOp) :
    FilledUpTo capacity (max bound (state.peak ops)) (state.run ops).1
      (answers ++ (state.run ops).2) := by
  induction ops generalizing bound state answers with
  | nil =>
      rw [peak, Nat.max_eq_left h.activeCount_le]
      simpa [LeasedTable.run] using h
  | cons op ops ih =>
      have hrest := ih (h.performs (step_performs state op))
      have hfirst := activeCount_le_peak (state.step op).1 ops
      have hbound : max (max bound (state.step op).1.table.activeCount)
          ((state.step op).1.peak ops) = max bound (state.peak (op :: ops)) := by
        have := h.activeCount_le
        rw [peak]
        omega
      rw [hbound] at hrest
      simpa [LeasedTable.run, List.append_assoc] using hrest

end FilledUpTo

/-- The slots that a run on a fresh table gives out are exactly those below its peak load, which is
the largest number of held slots that any of its states has. -/
theorem run_handedOut (capacity : Nat) (ops : List SlotOp) :
    ∃ load, (∃ before later, ops = before ++ later ∧
        ((new capacity).run before).1.table.activeCount = load) ∧
      (∀ before later, ops = before ++ later →
        ((new capacity).run before).1.table.activeCount ≤ load) ∧
      ∀ slot, slot ∈ handedOut ((new capacity).run ops).2 ↔ slot < load := by
  obtain ⟨hreached, hmost⟩ := peak_isMax (new capacity) ops
  have hfilled := (FilledUpTo.new capacity).run ops
  rw [Nat.zero_max, List.nil_append] at hfilled
  exact ⟨_, hreached, hmost, hfilled.mem_handedOut_iff⟩

end LeasedTable

end SlotServer
