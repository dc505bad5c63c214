import Mathlib.Data.List.Sort
import SlotServer.Proofs.Slots.Accounting
import SlotServer.Proofs.Slots.Peak

/-!
# The order of drops and of allocations

After a direct release several leases can name one slot, and then only the first of them that is
dropped gives the slot back. Which one this is depends on the order of the drops, but what they do
together does not. Allocations depend on their order only in who gets which slot: the free slots
are given out in increasing order, and when there are none left every allocation is refused.
-/

namespace SlotServer

/-- Whether a lease was dropped and gave its slot back. -/
def SlotAnswer.isGivenBack : SlotAnswer → Bool
  | givenBack _ => true
  | _ => false

/-! ## Slots that leases give back -/

namespace SlotTable

/-- What the drop of a lease on a slot does to the table, and the answer to it. -/
def giveBack (table : SlotTable) (slot : Nat) : SlotTable × SlotAnswer :=
  match table.release slot with
  | .error error => (table, .stale error)
  | .ok next => (next, .givenBack slot)

theorem giveBack_fst (table : SlotTable) (slot : Nat) :
    (table.giveBack slot).1 =
      ⟨table.slots.set slot none,
        table.activeCount - if (table.record? slot).isSome then 1 else 0⟩ := by
  unfold giveBack release record?
  cases hcell : table.slots[slot]? with
  | none =>
      have hrange := List.getElem?_eq_none_iff.mp hcell
      simp [List.set_eq_of_length_le hrange]
  | some cell =>
      obtain ⟨hlt, hget⟩ := List.getElem?_eq_some_iff.mp hcell
      cases cell with
      | none =>
          have hset : table.slots.set slot none = table.slots := by
            rw [← hget, List.set_getElem_self]
          simp [hset]
      | some record => simp

/-- The answer to a drop depends on the cell of its slot and on the number of slots. -/
theorem giveBack_snd_congr {table next : SlotTable} {slot : Nat}
    (hcell : next.slots[slot]? = table.slots[slot]?) (hcapacity : next.capacity = table.capacity) :
    (next.giveBack slot).2 = (table.giveBack slot).2 := by
  unfold giveBack release
  rw [hcell, hcapacity]
  rcases table.slots[slot]? with _ | _ | record <;> rfl

theorem giveBack_getElem?_of_ne (table : SlotTable) {slot other : Nat} (hne : slot ≠ other) :
    (table.giveBack slot).1.slots[other]? = table.slots[other]? := by
  rw [giveBack_fst]
  exact List.getElem?_set_ne hne

theorem record?_giveBack_of_ne (table : SlotTable) {slot other : Nat} (hne : slot ≠ other) :
    (table.giveBack slot).1.record? other = table.record? other := by
  rw [record?, giveBack_getElem?_of_ne table hne, record?]

theorem record?_giveBack_self (table : SlotTable) (slot : Nat) :
    (table.giveBack slot).1.record? slot = none := by
  rw [giveBack_fst, record?, List.getElem?_set_self']
  cases table.slots[slot]? <;> rfl

theorem giveBack_comm (table : SlotTable) (slot other : Nat) :
    ((table.giveBack slot).1.giveBack other).1 = ((table.giveBack other).1.giveBack slot).1 := by
  rcases eq_or_ne slot other with rfl | hne
  · rfl
  · rw [giveBack_fst (table.giveBack slot).1, giveBack_fst (table.giveBack other).1,
      record?_giveBack_of_ne table hne, record?_giveBack_of_ne table hne.symm,
      giveBack_fst table slot, giveBack_fst table other]
    simp only [List.set_comm _ _ hne, Nat.sub_right_comm]

theorem giveBack_answers_perm (table : SlotTable) (slot other : Nat) :
    [(table.giveBack slot).2, ((table.giveBack slot).1.giveBack other).2].Perm
      [(table.giveBack other).2, ((table.giveBack other).1.giveBack slot).2] := by
  have hcapacity (taken : Nat) : (table.giveBack taken).1.capacity = table.capacity := by
    simp [giveBack_fst, capacity]
  rcases eq_or_ne slot other with rfl | hne
  · exact .refl _
  · rw [giveBack_snd_congr (giveBack_getElem?_of_ne table hne) (hcapacity slot),
      giveBack_snd_congr (giveBack_getElem?_of_ne table hne.symm) (hcapacity other)]
    exact .swap ..

end SlotTable

namespace LeasedTable

/-! ## Drops in another order -/

theorem step_drop_of_live {state : LeasedTable} {lease : Nat} {record : ConnectionRecord}
    (hlive : state.lease? lease = some record) : state.step (.drop lease) =
      (⟨(state.table.giveBack record.slot).1, state.leases.set lease none⟩,
        (state.table.giveBack record.slot).2) := by
  simp only [step, hlive, SlotTable.giveBack]
  cases state.table.release record.slot <;> rfl

theorem step_drop_of_dead {state : LeasedTable} {lease : Nat} (hdead : state.lease? lease = none) :
    state.step (.drop lease) = (state, .noLease) :=
  (Performs.noLease hdead).execution

theorem lease?_step_drop_self (state : LeasedTable) (lease : Nat) :
    (state.step (.drop lease)).1.lease? lease = none := by
  cases hlease : state.lease? lease with
  | none => rw [step_drop_of_dead hlease, hlease]
  | some record =>
      have hlt := lt_length_of_lease? hlease
      simp [step_drop_of_live hlease, lease?, hlt]

theorem lease?_step_drop_of_ne (state : LeasedTable) {lease other : Nat} (hne : lease ≠ other) :
    (state.step (.drop lease)).1.lease? other = state.lease? other := by
  cases hlease : state.lease? lease with
  | none => rw [step_drop_of_dead hlease]
  | some record =>
      rw [step_drop_of_live hlease]
      exact lease?_set_none state.table _ hne.symm

/-- Two series of operations that lead from one state to one state, with the same answers up to
their order. -/
structure Alike (state : LeasedTable) (ops others : List SlotOp) : Prop where
  state_eq : (state.run ops).1 = (state.run others).1
  answers_perm : (state.run ops).2.Perm (state.run others).2

namespace Alike

variable {state : LeasedTable} {op : SlotOp} {ops others more : List SlotOp}

theorem refl (state : LeasedTable) (ops : List SlotOp) : Alike state ops ops :=
  ⟨rfl, .refl _⟩

theorem symm (h : Alike state ops others) : Alike state others ops :=
  ⟨h.state_eq.symm, h.answers_perm.symm⟩

theorem trans (h : Alike state ops others) (hmore : Alike state others more) :
    Alike state ops more :=
  ⟨h.state_eq.trans hmore.state_eq, h.answers_perm.trans hmore.answers_perm⟩

theorem cons (h : Alike (state.step op).1 ops others) : Alike state (op :: ops) (op :: others) :=
  ⟨h.state_eq, h.answers_perm.cons _⟩

theorem append_right (h : Alike state ops others) (later : List SlotOp) :
    Alike state (ops ++ later) (others ++ later) := by
  refine ⟨?_, ?_⟩
  · rw [run_append, run_append, h.state_eq]
  · rw [run_append, run_append, h.state_eq]
    exact h.answers_perm.append_right _

end Alike

theorem alike_drop_swap_of_dead {state : LeasedTable} {lease other : Nat} (hne : lease ≠ other)
    (hdead : state.lease? lease = none) :
    Alike state [.drop lease, .drop other] [.drop other, .drop lease] := by
  have hlater : (state.step (.drop other)).1.lease? lease = none := by
    rw [lease?_step_drop_of_ne state hne.symm, hdead]
  refine ⟨?_, ?_⟩
  · simp only [run, step_drop_of_dead hdead, step_drop_of_dead hlater]
  · simp only [run, step_drop_of_dead hdead, step_drop_of_dead hlater]
    exact .swap ..

theorem alike_drop_swap_of_live {state : LeasedTable} {lease other : Nat}
    {record held : ConnectionRecord} (hne : lease ≠ other)
    (hlease : state.lease? lease = some record) (hother : state.lease? other = some held) :
    Alike state [.drop lease, .drop other] [.drop other, .drop lease] := by
  have hother' := lease?_step_drop_of_ne state hne
  have hlease' := lease?_step_drop_of_ne state hne.symm
  rw [step_drop_of_live hlease, hother] at hother'
  rw [step_drop_of_live hother, hlease] at hlease'
  refine ⟨?_, ?_⟩
  · simp only [run, step_drop_of_live hlease, step_drop_of_live hother,
      step_drop_of_live hother', step_drop_of_live hlease']
    rw [SlotTable.giveBack_comm, List.set_comm _ _ hne]
  · simp only [run, step_drop_of_live hlease, step_drop_of_live hother,
      step_drop_of_live hother', step_drop_of_live hlease']
    exact SlotTable.giveBack_answers_perm ..

/-- Two drops can be exchanged. -/
theorem alike_drop_swap (state : LeasedTable) (lease other : Nat) :
    Alike state [.drop lease, .drop other] [.drop other, .drop lease] := by
  rcases eq_or_ne lease other with rfl | hne
  · exact .refl ..
  cases hfirst : state.lease? lease with
  | none => exact alike_drop_swap_of_dead hne hfirst
  | some record =>
      cases hsecond : state.lease? other with
      | none => exact (alike_drop_swap_of_dead hne.symm hsecond).symm
      | some held => exact alike_drop_swap_of_live hne hfirst hsecond

theorem alike_drop_of_perm (state : LeasedTable) {leases others : List Nat}
    (h : leases.Perm others) : Alike state (leases.map .drop) (others.map .drop) := by
  induction h generalizing state with
  | nil => exact .refl ..
  | cons lease _ ih => exact (ih _).cons
  | swap lease other leases =>
      exact (alike_drop_swap state other lease).append_right (leases.map .drop)
  | trans _ _ ih₁ ih₂ => exact (ih₁ state).trans (ih₂ state)

/-! ## What drops bring about -/

/-- The slots that some leases name, as far as they are live. -/
def namedSlots (state : LeasedTable) (leases : List Nat) : List Nat :=
  (leases.filterMap state.lease?).map (·.slot)

theorem mem_namedSlots_iff (state : LeasedTable) (leases : List Nat) (slot : Nat) :
    slot ∈ state.namedSlots leases ↔
      ∃ lease ∈ leases, ∃ record, state.lease? lease = some record ∧ record.slot = slot := by
  simp only [namedSlots, List.mem_map, List.mem_filterMap]
  constructor
  · rintro ⟨record, ⟨lease, hmem, hlive⟩, hslot⟩
    exact ⟨lease, hmem, record, hlive, hslot⟩
  · rintro ⟨lease, hmem, record, hlive, hslot⟩
    exact ⟨record, ⟨lease, hmem, hlive⟩, hslot⟩

/-- After the drop of the first lease the others name what they named before. -/
theorem mem_namedSlots_cons (state : LeasedTable) (lease : Nat) (leases : List Nat) (slot : Nat) :
    slot ∈ state.namedSlots (lease :: leases) ↔
      (∃ record, state.lease? lease = some record ∧ record.slot = slot) ∨
        slot ∈ (state.step (.drop lease)).1.namedSlots leases := by
  rw [mem_namedSlots_iff, mem_namedSlots_iff, List.exists_mem_cons_iff]
  constructor
  · rintro (hfirst | ⟨other, hmem, hother⟩)
    · exact .inl hfirst
    · rcases eq_or_ne lease other with rfl | hne
      · exact .inl hother
      · refine .inr ⟨other, hmem, ?_⟩
        rwa [lease?_step_drop_of_ne state hne]
  · rintro (hfirst | ⟨other, hmem, hother⟩)
    · exact .inl hfirst
    · refine .inr ⟨other, hmem, ?_⟩
      rcases eq_or_ne lease other with rfl | hne
      · simp [lease?_step_drop_self] at hother
      · rwa [lease?_step_drop_of_ne state hne] at hother

theorem record?_step_drop (state : LeasedTable) (lease slot : Nat) :
    (state.step (.drop lease)).1.table.record? slot =
      if ∃ record, state.lease? lease = some record ∧ record.slot = slot then none
      else state.table.record? slot := by
  cases hlease : state.lease? lease with
  | none => simp [step_drop_of_dead hlease]
  | some record =>
      rw [step_drop_of_live hlease]
      rcases eq_or_ne record.slot slot with rfl | hne
      · simp [SlotTable.record?_giveBack_self]
      · simp [SlotTable.record?_giveBack_of_ne state.table hne, hne]

/-- Drops free the slots that their leases name, whoever holds these, and no others. -/
theorem record?_run_drop (state : LeasedTable) (leases : List Nat) (slot : Nat) :
    (state.run (leases.map .drop)).1.table.record? slot =
      if slot ∈ state.namedSlots leases then none else state.table.record? slot := by
  induction leases generalizing state with
  | nil => simp [run, namedSlots]
  | cons lease leases ih =>
      rw [List.map_cons, run_cons, ih, record?_step_drop]
      by_cases hrest : slot ∈ (state.step (.drop lease)).1.namedSlots leases
      · simp only [mem_namedSlots_cons, hrest, or_true, if_true]
      · simp only [mem_namedSlots_cons, hrest, or_false, if_false]

/-! ## Drops in the log -/

/-- The number of entries in the log about slots that leases gave back. -/
def givenBackCount (answers : List SlotAnswer) : Nat :=
  (log answers).countP fun entry => entry.message = "slot released"

/-- Such an entry is written for each drop that gave its slot back, and for nothing else. -/
theorem givenBackCount_eq_countP (answers : List SlotAnswer) :
    givenBackCount answers = answers.countP SlotAnswer.isGivenBack := by
  rw [givenBackCount, log, List.countP_filterMap]
  congr 1
  funext answer
  cases answer <;> rfl

/-- As many slots are given back as are held by fewer afterwards. -/
theorem activeCount_run_drop {capacity : Nat} {state : LeasedTable}
    (h : state.table.Consistent capacity) (leases : List Nat) :
    (state.run (leases.map .drop)).1.table.activeCount +
      givenBackCount (state.run (leases.map .drop)).2 = state.table.activeCount := by
  simp only [givenBackCount_eq_countP]
  induction leases generalizing state with
  | nil => rfl
  | cons lease leases ih =>
      have hp := step_performs state (.drop lease)
      have hrest := ih (hp.consistent h)
      rw [List.map_cons, run_cons, List.countP_cons]
      generalize (state.step (.drop lease)).1 = next,
        (state.step (.drop lease)).2 = answer at hp hrest ⊢
      cases hp with
      | givenBack hlive hr =>
          obtain ⟨-, hcount⟩ := h.activeCount_release hr
          simp only [SlotAnswer.isGivenBack, if_true] at hrest ⊢
          omega
      | stale hlive hr | noLease hdead => simpa [SlotAnswer.isGivenBack] using hrest

namespace Alike

variable {state : LeasedTable} {ops others : List SlotOp}

theorem log_perm (h : Alike state ops others) :
    (log (state.run ops).2).Perm (log (state.run others).2) :=
  h.answers_perm.filterMap _

theorem givenBackCount_eq (h : Alike state ops others) :
    givenBackCount (state.run ops).2 = givenBackCount (state.run others).2 :=
  h.log_perm.countP_eq _

theorem warningCount_eq (h : Alike state ops others) :
    warningCount (state.run ops).2 = warningCount (state.run others).2 :=
  h.log_perm.countP_eq _

end Alike

end LeasedTable

/-! ## Free slots -/

namespace SlotTable

/-- The free slots in increasing order. -/
def freeSlots (table : SlotTable) : List Nat :=
  (List.range table.capacity).filter fun slot => (table.record? slot).isNone

theorem mem_freeSlots_iff (table : SlotTable) (slot : Nat) :
    slot ∈ table.freeSlots ↔ table.slots[slot]? = some none := by
  simp only [freeSlots, record?, capacity, List.mem_filter, List.mem_range]
  rcases hcell : table.slots[slot]? with _ | _ | record
  · simpa using List.getElem?_eq_none_iff.mp hcell
  · simpa using (List.getElem?_eq_some_iff.mp hcell).1
  · simp

theorem freeSlots_pairwise (table : SlotTable) : table.freeSlots.Pairwise (· < ·) :=
  List.pairwise_lt_range.filter _

theorem freeSlots_of_allocate_eq_error {table : SlotTable} {peer : Option IpAddress}
    {error : SlotError} (h : table.allocate peer = .error error) : table.freeSlots = [] := by
  obtain ⟨hnone, -⟩ := (allocate_eq_error_iff ..).mp h
  rw [firstFree?_eq_none_iff] at hnone
  refine List.eq_nil_iff_forall_not_mem.mpr ?_
  intro slot hslot
  have hcell := (mem_freeSlots_iff ..).mp hslot
  exact absurd (hnone none (List.mem_of_getElem? hcell)) (by simp)

/-- An allocation takes the first of the free slots and leaves the others. -/
theorem freeSlots_of_allocate {table next : SlotTable} {peer : Option IpAddress}
    {record : ConnectionRecord} (h : table.allocate peer = .ok (record, next)) :
    table.freeSlots = record.slot :: next.freeSlots := by
  obtain ⟨hslot, -, rfl⟩ := (allocate_eq_ok_iff ..).mp h
  obtain ⟨hfree, hheld⟩ := (firstFree?_eq_some_iff ..).mp hslot
  obtain ⟨hlt, -⟩ := List.getElem?_eq_some_iff.mp hfree
  set next : SlotTable := ⟨table.slots.set record.slot (some record), table.activeCount + 1⟩
  have hmem : ∀ slot, slot ∈ next.freeSlots ↔ slot ≠ record.slot ∧ slot ∈ table.freeSlots := by
    intro slot
    rw [mem_freeSlots_iff, mem_freeSlots_iff]
    rcases eq_or_ne slot record.slot with rfl | hne
    · simp [next, hlt]
    · simp [next, hne, List.getElem?_set_ne hne.symm]
  refine List.Pairwise.eq_of_mem_iff table.freeSlots_pairwise ?_ ?_
  · refine List.pairwise_cons.mpr ⟨?_, next.freeSlots_pairwise⟩
    intro slot hnext
    obtain ⟨hne, hother⟩ := (hmem slot).mp hnext
    rcases Nat.lt_trichotomy record.slot slot with hlt | heq | hgt
    · exact hlt
    · exact absurd heq.symm hne
    · -- Every slot below the lowest free one is held.
      obtain ⟨held, hcell⟩ := hheld slot hgt
      rw [mem_freeSlots_iff, hcell] at hother
      cases hother
  · intro slot
    rw [List.mem_cons, hmem]
    rcases eq_or_ne slot record.slot with rfl | hne
    · simpa using (mem_freeSlots_iff ..).mpr hfree
    · simp [hne]

theorem Consistent.length_freeSlots {capacity : Nat} {table : SlotTable}
    (h : Consistent capacity table) : table.freeSlots.length + table.activeCount = capacity := by
  generalize hfree : table.freeSlots = free
  induction free generalizing table with
  | nil =>
      have hfull : table.firstFree? = none := by
        cases hslot : table.firstFree? with
        | none => rfl
        | some slot =>
            have hmem := (mem_freeSlots_iff ..).mpr ((firstFree?_eq_some_iff ..).mp hslot).1
            simp [hfree] at hmem
      simpa using h.activeCount_eq_capacity_iff.mpr hfull
  | cons slot free ih =>
      cases ha : table.allocate none with
      | error error => simp [freeSlots_of_allocate_eq_error ha] at hfree
      | ok given =>
          obtain ⟨record, next⟩ := given
          rw [freeSlots_of_allocate ha] at hfree
          have hrest := ih (h.allocate ha) (List.cons.inj hfree).2
          obtain ⟨-, -, rfl⟩ := (allocate_eq_ok_iff ..).mp ha
          simp only [List.length_cons] at hrest ⊢
          omega

end SlotTable

/-! ## Allocations until the table is full -/

namespace LeasedTable

/-- An allocation takes the first free slot, or there is none. -/
theorem step_allocate_cases (state : LeasedTable) (peer : Option IpAddress) :
    (state.table.freeSlots = [] ∧
      state.step (.allocate peer) = (state, .refused (.full state.table.capacity))) ∨
    ∃ slot table, state.table.freeSlots = slot :: table.freeSlots ∧
      table.capacity = state.table.capacity ∧
      state.step (.allocate peer) = (⟨table, state.leases ++ [some (.new slot peer)]⟩,
        .leased state.leases.length (.new slot peer)) := by
  cases ha : state.table.allocate peer with
  | error error =>
      obtain ⟨-, rfl⟩ := (SlotTable.allocate_eq_error_iff ..).mp ha
      exact .inl ⟨SlotTable.freeSlots_of_allocate_eq_error ha, (Performs.refused ha).execution⟩
  | ok given =>
      obtain ⟨record, table⟩ := given
      obtain ⟨-, hrecord, htable⟩ := (SlotTable.allocate_eq_ok_iff ..).mp ha
      refine .inr ⟨record.slot, table, SlotTable.freeSlots_of_allocate ha, ?_, ?_⟩
      · simp [htable, SlotTable.capacity]
      · rw [← hrecord]
        exact (Performs.leased ha).execution

/-- Allocations give the free slots out in increasing order, one each, and those that come when
none is left are refused. -/
theorem run_allocate (state : LeasedTable) (peers : List (Option IpAddress)) :
    (state.run (peers.map .allocate)).2 =
      ((state.table.freeSlots.zip peers).mapIdx fun place given =>
        .leased (state.leases.length + place) (.new given.1 given.2)) ++
      List.replicate (peers.length - state.table.freeSlots.length)
        (.refused (.full state.table.capacity)) := by
  induction peers generalizing state with
  | nil => simp [run]
  | cons peer peers ih =>
      rw [List.map_cons, run_cons, ih]
      rcases step_allocate_cases state peer with
        ⟨hfree, hstep⟩ | ⟨slot, table, hfree, hcapacity, hstep⟩
      · simp [hstep, hfree, List.replicate_succ]
      · simp [hstep, hfree, hcapacity, Nat.add_assoc, Nat.add_comm 1]

/-- The slots that allocations give out are the first free ones. -/
theorem handedOut_allocate (state : LeasedTable) (peers : List (Option IpAddress)) :
    handedOut (state.run (peers.map .allocate)).2 = state.table.freeSlots.take peers.length := by
  induction peers generalizing state with
  | nil => simp [run, handedOut]
  | cons peer peers ih =>
      have hrest := ih (state.step (.allocate peer)).1
      rw [handedOut] at hrest
      rw [List.map_cons, run_cons, handedOut, List.filterMap_cons, hrest]
      rcases step_allocate_cases state peer with ⟨hfree, hstep⟩ | ⟨slot, table, hfree, -, hstep⟩
      · simp [hstep, hfree, SlotAnswer.slot?]
      · simp [hstep, hfree, SlotAnswer.slot?, ConnectionRecord.new]

/-! ## Reachable tables -/

/-- Two series of drops that lead to one state, with as many entries in the log about slots that
were given back and as many warnings. The slots that the leases name are free then, the others are
as they were, and each slot that was held and is free was given back by one drop. -/
structure SameDrops (state : LeasedTable) (leases others : List Nat) : Prop where
  state_eq : (state.run (leases.map .drop)).1 = (state.run (others.map .drop)).1
  givenBackCount_eq : givenBackCount (state.run (leases.map .drop)).2 =
    givenBackCount (state.run (others.map .drop)).2
  warningCount_eq : warningCount (state.run (leases.map .drop)).2 =
    warningCount (state.run (others.map .drop)).2
  record?_eq : ∀ slot, (state.run (leases.map .drop)).1.table.record? slot =
    if slot ∈ state.namedSlots leases then none else state.table.record? slot
  activeCount_eq : (state.run (leases.map .drop)).1.table.activeCount +
    givenBackCount (state.run (leases.map .drop)).2 = state.table.activeCount

theorem sameDrops_of_perm {capacity : Nat} {state : LeasedTable}
    (h : state.table.Consistent capacity) {leases others : List Nat}
    (hperm : leases.Perm others) : SameDrops state leases others := by
  have halike := alike_drop_of_perm state hperm
  exact ⟨halike.state_eq, halike.givenBackCount_eq, halike.warningCount_eq,
    record?_run_drop state leases, activeCount_run_drop h leases⟩

/-- A series of allocations that gives out the free slots of a table in increasing order until none
is left, which is when as many were given out as were not held, and then nothing. -/
structure Fills (capacity : Nat) (state : LeasedTable) (peers : List (Option IpAddress)) :
    Prop where
  mem_freeSlots_iff : ∀ slot, slot ∈ state.table.freeSlots ↔ state.table.slots[slot]? = some none
  freeSlots_increasing : state.table.freeSlots.Pairwise (· < ·)
  length_freeSlots : state.table.freeSlots.length = capacity - state.table.activeCount
  handedOut_eq : handedOut (state.run (peers.map .allocate)).2 =
    state.table.freeSlots.take peers.length
  successes : (handedOut (state.run (peers.map .allocate)).2).length =
    min peers.length (capacity - state.table.activeCount)
  answers : (state.run (peers.map .allocate)).2 =
    ((state.table.freeSlots.zip peers).mapIdx fun place given =>
      .leased (state.leases.length + place) (.new given.1 given.2)) ++
    List.replicate (peers.length - (capacity - state.table.activeCount))
      (.refused (.full capacity))

theorem fills_of_consistent {capacity : Nat} {state : LeasedTable}
    (h : state.table.Consistent capacity) (peers : List (Option IpAddress)) :
    Fills capacity state peers := by
  have hlength : state.table.freeSlots.length = capacity - state.table.activeCount := by
    have := h.length_freeSlots
    omega
  have hcapacity : state.table.capacity = capacity := h.length_eq
  have hhanded := handedOut_allocate state peers
  refine ⟨state.table.mem_freeSlots_iff, state.table.freeSlots_pairwise, hlength, hhanded, ?_, ?_⟩
  · rw [hhanded, List.length_take, hlength]
  · rw [run_allocate, hlength, hcapacity]

/-- In every state that a run reaches, the order of drops makes no difference and allocations give
the free slots out in order. -/
theorem run_reordered (capacity : Nat) (ops : List SlotOp) {leases others : List Nat}
    (hperm : leases.Perm others) (peers : List (Option IpAddress)) :
    SameDrops ((new capacity).run ops).1 leases others ∧
      Fills capacity ((new capacity).run ops).1 peers := by
  have h := consistent_run capacity ops
  exact ⟨sameDrops_of_perm h hperm, fills_of_consistent h peers⟩

/-- Slot 0 was released directly and given out again, so leases 0 and 1 both name it. Whichever of
them is dropped first gives it back. -/
theorem run_reordered_shared :
    let state := ((new 3).run [.allocate none, .release 0, .allocate none, .allocate none]).1
    state.lease? 0 = some (.new 0 none) ∧ state.lease? 1 = some (.new 0 none) ∧
    (state.run [.drop 0, .drop 1]).2 = [.givenBack 0, .stale (.notActive 0)] ∧
    (state.run [.drop 1, .drop 0]).2 = [.givenBack 0, .stale (.notActive 0)] ∧
    [0, 1].Perm [1, 0] ∧ SameDrops state [0, 1] [1, 0] ∧ Fills 3 state [none, none] := by
  have hperm : [0, 1].Perm [1, 0] := .swap 1 0 []
  exact ⟨by decide, by decide, by decide, by decide, hperm, run_reordered 3 _ hperm [none, none]⟩

end LeasedTable

end SlotServer
