import SlotServer.Proofs.Slots.Accounting

/-!
# Tables whose slots only their leases give back

Without direct releases every live lease holds its slot, whoever allocates slots and drops leases in
whatever order. So a lease can be told from the slot it names, the held slots are as many as the
live leases, and dropping a lease always gives its slot back.
-/

namespace SlotServer.LeasedTable

/-- A table that came about without direct releases: the answers that led to it account for every
held slot and for every live lease. -/
structure Orderly (capacity : Nat) (state : LeasedTable) : Prop where
  accounted : ∃ answers, Tracked state answers ∧ Undisturbed state answers ∧
    Balanced capacity state answers ∧ releaseCount answers = 0

namespace Orderly

variable {capacity : Nat} {state next : LeasedTable} {op : SlotOp} {answer : SlotAnswer}
  {lease other : Nat} {record held : ConnectionRecord} {peer : Option IpAddress}

theorem new (capacity : Nat) : Orderly capacity (LeasedTable.new capacity) :=
  ⟨[], .new capacity, .new capacity, .new capacity, rfl⟩

/-- Allocations and drops keep a table orderly. -/
theorem performs (h : Orderly capacity state) (hp : Performs state op next answer)
    (hanswer : answer.isReleased = false) : Orderly capacity next := by
  obtain ⟨answers, ht, hu, hb, hcount⟩ := h.accounted
  refine ⟨answers ++ [answer], ht.performs hp, hu.performs ht hp hanswer, hb.performs hp, ?_⟩
  rw [releaseCount_concat, hcount, hanswer]
  rfl

theorem consistent (h : Orderly capacity state) : state.table.Consistent capacity := by
  obtain ⟨answers, -, -, hb, -⟩ := h.accounted
  exact hb.consistent

/-- The slot of a live lease carries the record of the lease. -/
theorem record?_eq (h : Orderly capacity state) (hlive : state.lease? lease = some record) :
    state.table.record? record.slot = some record := by
  obtain ⟨answers, ht, hu, -⟩ := h.accounted
  exact hu.record?_eq ht hlive

theorem lease_inj (h : Orderly capacity state) (hlive : state.lease? lease = some record)
    (hother : state.lease? other = some held) (hslot : record.slot = held.slot) :
    lease = other := by
  obtain ⟨answers, -, hu, -⟩ := h.accounted
  exact hu.lease_inj hlive hother hslot

/-- A record that holds a slot names this slot, and is the record of a live lease. -/
theorem backed (h : Orderly capacity state) {slot : Nat}
    (hrecord : state.table.record? slot = some record) :
    record.slot = slot ∧ ∃ lease, state.lease? lease = some record := by
  obtain ⟨answers, ht, -⟩ := h.accounted
  exact ht.backed hrecord

theorem activeCount_eq (h : Orderly capacity state) :
    state.table.activeCount = state.liveLeases.length := by
  obtain ⟨answers, -, hu, hb, hcount⟩ := h.accounted
  have hbalance := hb.balance
  rw [hu.staleCount_eq, hcount] at hbalance
  exact hbalance.symm

theorem length_liveLeases_le (h : Orderly capacity state) :
    state.liveLeases.length ≤ capacity := by
  rw [← h.activeCount_eq]
  exact h.consistent.activeCount_le

/-- Dropping a live lease gives its slot back. -/
theorem step_drop (h : Orderly capacity state) (hlive : state.lease? lease = some record) :
    ∃ table, state.step (.drop lease) =
      (⟨table, state.leases.set lease none⟩, .givenBack record.slot) := by
  obtain ⟨table, -, hstep⟩ := step_drop_of_held hlive (h.record?_eq hlive)
  exact ⟨table, hstep⟩

/-- Allocation takes the lowest slot that no live lease names. -/
theorem allocate_lowest (h : Orderly capacity state) {table : SlotTable}
    (ha : state.table.allocate peer = .ok (record, table)) :
    record = .new record.slot peer ∧ (∀ held ∈ state.liveLeases, held.slot ≠ record.slot) ∧
      ∀ lower < record.slot, ∃ held ∈ state.liveLeases, held.slot = lower := by
  obtain ⟨hslot, hrecord, -⟩ := (SlotTable.allocate_eq_ok_iff ..).mp ha
  obtain ⟨-, hlower⟩ := (SlotTable.firstFree?_eq_some_iff ..).mp hslot
  refine ⟨hrecord, ?_, ?_⟩
  · intro held hmem heq
    obtain ⟨lease, hlive⟩ := (mem_liveLeases_iff ..).mp hmem
    have hheld := h.record?_eq hlive
    rw [heq, SlotTable.record?_of_allocate ha] at hheld
    cases hheld
  · intro lower hlt
    obtain ⟨held, hcell⟩ := hlower lower hlt
    obtain ⟨hname, hlive⟩ := h.backed ((SlotTable.record?_eq_some_iff ..).mpr hcell)
    exact ⟨held, (mem_liveLeases_iff ..).mpr hlive, hname⟩

theorem allocate_isOk_iff (h : Orderly capacity state) (peer : Option IpAddress) :
    (∃ record table, state.table.allocate peer = .ok (record, table)) ↔
      state.table.activeCount < capacity := by
  have hle := h.consistent.activeCount_le
  have hfull := h.consistent.activeCount_eq_capacity_iff
  cases ha : state.table.allocate peer with
  | error error =>
      have hcount := hfull.mpr ((SlotTable.allocate_eq_error_iff ..).mp ha).1
      simp [hcount]
  | ok given =>
      obtain ⟨hslot, -⟩ := (SlotTable.allocate_eq_ok_iff state.table given.2 peer given.1).mp ha
      have hcount : state.table.activeCount ≠ capacity := by
        intro heq
        simp [hfull.mp heq] at hslot
      exact ⟨fun _ => by omega, fun _ => ⟨given.1, given.2, rfl⟩⟩

end Orderly

/-! ## Leases by number -/

/-- The live leases with their numbers. -/
def numbered (state : LeasedTable) : List (Nat × ConnectionRecord) :=
  (state.leases.mapIdx fun lease record => record.map (lease, ·)).filterMap id

theorem mem_numbered_iff (state : LeasedTable) (lease : Nat) (record : ConnectionRecord) :
    (lease, record) ∈ state.numbered ↔ state.lease? lease = some record := by
  rw [numbered, List.mem_filterMap, lease?, Option.join_eq_some_iff]
  simp only [List.mem_mapIdx, id_eq, exists_eq_right]
  constructor
  · rintro ⟨i, hi, heq⟩
    obtain ⟨held, hheld, heq⟩ := Option.map_eq_some_iff.mp heq
    obtain ⟨rfl, rfl⟩ := Prod.mk.inj heq
    rw [List.getElem?_eq_getElem hi, hheld]
  · intro h
    obtain ⟨hlt, hcell⟩ := List.getElem?_eq_some_iff.mp h
    exact ⟨lease, hlt, by rw [hcell]; rfl⟩

/-- Numbers are given out in increasing order, so no number stands for two leases. -/
theorem numbered_pairwise (state : LeasedTable) :
    state.numbered.Pairwise fun a b => a.1 < b.1 := by
  rw [numbered, List.pairwise_filterMap, List.pairwise_iff_getElem]
  intro i j hi hj hij a ha b hb
  simp at ha hb
  obtain ⟨_, _, rfl⟩ := ha
  obtain ⟨_, _, rfl⟩ := hb
  exact hij

theorem map_snd_numbered (state : LeasedTable) :
    state.numbered.map Prod.snd = state.liveLeases := by
  have hforget : (state.leases.mapIdx fun lease record => record.map (lease, ·)).map
      (Option.map Prod.snd) = state.leases := by
    refine List.ext_getElem? fun i => ?_
    cases h : state.leases[i]? <;> simp [h, Function.comp_def]
  calc
    state.numbered.map Prod.snd =
        (state.leases.mapIdx fun lease record => record.map (lease, ·)).filterMap
          (Option.map Prod.snd) := by rw [numbered, List.map_filterMap]; rfl
    _ = ((state.leases.mapIdx fun lease record => record.map (lease, ·)).map
          (Option.map Prod.snd)).filterMap id := by rw [List.filterMap_map]; rfl
    _ = state.liveLeases := by rw [hforget]; rfl

theorem numbered_append (state : LeasedTable) (next : SlotTable) (record : ConnectionRecord) :
    numbered ⟨next, state.leases ++ [some record]⟩ =
      state.numbered ++ [(state.leases.length, record)] := by
  simp [numbered, List.mapIdx_append]

theorem numbered_set_none (state : LeasedTable) (next : SlotTable) (lease : Nat) :
    numbered ⟨next, state.leases.set lease none⟩ =
      state.numbered.filter fun held => held.1 != lease := by
  have hset : ((state.leases.set lease none).mapIdx fun lease record => record.map (lease, ·)) =
      (state.leases.mapIdx fun lease record => record.map (lease, ·)).map
        (Option.filter fun held => held.1 != lease) := by
    refine List.ext_getElem? fun i => ?_
    by_cases hi : lease = i
    · subst hi
      by_cases hlt : lease < state.leases.length
      · cases h : state.leases[lease] <;> simp [hlt, h, Option.filter]
      · simp [hlt]
    · rw [List.getElem?_mapIdx, List.getElem?_set_ne hi, List.getElem?_map, List.getElem?_mapIdx]
      rcases state.leases[i]? with _ | _ | record <;> simp [Option.filter, Ne.symm hi]
  rw [numbered, numbered, hset, List.filter_filterMap, List.filterMap_map]
  rfl

end SlotServer.LeasedTable
