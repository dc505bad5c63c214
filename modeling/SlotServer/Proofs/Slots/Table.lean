import SlotServer.Slots.Table

/-!
# Correctness of the slot table

Allocation and release one at a time: what each changes, when each refuses, and that the separate
count goes on agreeing with the slots.
-/

namespace SlotServer.SlotTable

/-! ## What the operations return -/

/-- The lowest free slot is free, and every slot below it is held. -/
theorem firstFree?_eq_some_iff (table : SlotTable) (slot : Nat) :
    table.firstFree? = some slot ↔
      table.slots[slot]? = some none ∧
      ∀ lower < slot, ∃ record, table.slots[lower]? = some (some record) := by
  rw [firstFree?, List.findIdx?_eq_some_iff_getElem]
  constructor
  · rintro ⟨hlt, hfree, hheld⟩
    refine ⟨?_, ?_⟩
    · rw [List.getElem?_eq_getElem hlt, Option.isNone_iff_eq_none.mp hfree]
    · intro lower hl
      have hl' : lower < table.slots.length := Nat.lt_trans hl hlt
      have hsome : table.slots[lower] ≠ none := by simpa using hheld lower hl
      obtain ⟨record, hrecord⟩ := Option.ne_none_iff_exists'.mp hsome
      exact ⟨record, by rw [List.getElem?_eq_getElem hl', hrecord]⟩
  · rintro ⟨hfree, hheld⟩
    obtain ⟨hlt, hnone⟩ := List.getElem?_eq_some_iff.mp hfree
    refine ⟨hlt, by simp [hnone], ?_⟩
    intro lower hl
    obtain ⟨record, hrecord⟩ := hheld lower hl
    obtain ⟨_, hcell⟩ := List.getElem?_eq_some_iff.mp hrecord
    simp [hcell]

theorem firstFree?_eq_none_iff (table : SlotTable) :
    table.firstFree? = none ↔ ∀ cell ∈ table.slots, cell.isSome := by
  simp [firstFree?, List.findIdx?_eq_none_iff]

theorem allocate_eq_ok_iff (table next : SlotTable) (peer : Option IpAddress)
    (record : ConnectionRecord) :
    table.allocate peer = .ok (record, next) ↔
      table.firstFree? = some record.slot ∧ record = .new record.slot peer ∧
      next = ⟨table.slots.set record.slot (some record), table.activeCount + 1⟩ := by
  unfold allocate
  cases table.firstFree? with
  | none => simp
  | some slot =>
      simp only [Except.ok.injEq, Prod.mk.injEq, Option.some.injEq]
      constructor
      · rintro ⟨rfl, rfl⟩
        exact ⟨rfl, rfl, rfl⟩
      · rintro ⟨rfl, hrecord, rfl⟩
        rw [← hrecord]
        exact ⟨rfl, rfl⟩

theorem allocate_eq_error_iff (table : SlotTable) (peer : Option IpAddress) (error : SlotError) :
    table.allocate peer = .error error ↔
      table.firstFree? = none ∧ error = .full table.capacity := by
  unfold allocate
  cases table.firstFree? <;> simp [eq_comm]

theorem release_eq_ok_iff (table next : SlotTable) (slot : Nat) :
    table.release slot = .ok next ↔
      (∃ record, table.slots[slot]? = some (some record)) ∧
      next = ⟨table.slots.set slot none, table.activeCount - 1⟩ := by
  unfold release
  rcases table.slots[slot]? with _ | _ | record <;> simp [eq_comm]

theorem release_eq_error_iff (table : SlotTable) (slot : Nat) (error : SlotError) :
    table.release slot = .error error ↔
      (table.slots[slot]? = none ∧ error = .outOfRange slot table.capacity) ∨
      (table.slots[slot]? = some none ∧ error = .notActive slot) := by
  unfold release
  rcases table.slots[slot]? with _ | _ | record <;> simp [eq_comm]

theorem record?_eq_some_iff (table : SlotTable) (slot : Nat) (record : ConnectionRecord) :
    table.record? slot = some record ↔ table.slots[slot]? = some (some record) := by
  simp [record?, Option.join_eq_some_iff]

theorem record?_allocate {table next : SlotTable} {peer : Option IpAddress}
    {record : ConnectionRecord} (h : table.allocate peer = .ok (record, next)) (other : Nat) :
    next.record? other = if other = record.slot then some record else table.record? other := by
  obtain ⟨hslot, -, rfl⟩ := (allocate_eq_ok_iff ..).mp h
  obtain ⟨hfree, -⟩ := (firstFree?_eq_some_iff ..).mp hslot
  obtain ⟨hlt, -⟩ := List.getElem?_eq_some_iff.mp hfree
  by_cases hother : other = record.slot
  · simp [record?, hother, hlt]
  · simp [record?, hother, List.getElem?_set_ne (Ne.symm hother)]

theorem record?_release {table next : SlotTable} {slot : Nat}
    (h : table.release slot = .ok next) (other : Nat) :
    next.record? other = if other = slot then none else table.record? other := by
  obtain ⟨⟨record, hheld⟩, rfl⟩ := (release_eq_ok_iff ..).mp h
  obtain ⟨hlt, -⟩ := List.getElem?_eq_some_iff.mp hheld
  by_cases hother : other = slot
  · simp [record?, hother, hlt]
  · simp [record?, hother, List.getElem?_set_ne (Ne.symm hother)]

/-- A slot is free before it is given out. -/
theorem record?_of_allocate {table next : SlotTable} {peer : Option IpAddress}
    {record : ConnectionRecord} (h : table.allocate peer = .ok (record, next)) :
    table.record? record.slot = none := by
  obtain ⟨hslot, -, -⟩ := (allocate_eq_ok_iff ..).mp h
  obtain ⟨hfree, -⟩ := (firstFree?_eq_some_iff ..).mp hslot
  simp [record?, hfree]

/-- A slot that cannot be released is held by nobody. -/
theorem record?_of_release_eq_error {table : SlotTable} {slot : Nat} {error : SlotError}
    (h : table.release slot = .error error) : table.record? slot = none := by
  rcases (release_eq_error_iff ..).mp h with ⟨hcell, -⟩ | ⟨hcell, -⟩
  · simp [record?, hcell]
  · simp [record?, hcell]

/-- A slot in range is released exactly if somebody holds it. -/
theorem release_of_record?_eq_none {table : SlotTable} {slot : Nat}
    (hlt : slot < table.slots.length) (h : table.record? slot = none) :
    table.release slot = .error (.notActive slot) := by
  rw [release_eq_error_iff]
  refine Or.inr ⟨?_, rfl⟩
  rw [List.getElem?_eq_getElem hlt]
  simpa [record?, List.getElem?_eq_getElem hlt] using h

theorem mem_activeRecords_iff (table : SlotTable) (record : ConnectionRecord) :
    record ∈ table.activeRecords ↔ ∃ slot : Nat, table.slots[slot]? = some (some record) := by
  rw [activeRecords, List.mem_filterMap]
  simp [List.mem_iff_getElem?]

/-! ## The separate count -/

/-- Filling a free slot adds one held slot. -/
theorem countP_set_some {slots : List (Option ConnectionRecord)} {slot : Nat}
    (record : ConnectionRecord) (h : slots[slot]? = some none) :
    (slots.set slot (some record)).countP Option.isSome = slots.countP Option.isSome + 1 := by
  obtain ⟨hlt, hcell⟩ := List.getElem?_eq_some_iff.mp h
  simp [List.countP_set hlt, hcell]

/-- Emptying a held slot takes one held slot away. -/
theorem countP_set_none {slots : List (Option ConnectionRecord)} {slot : Nat}
    {record : ConnectionRecord} (h : slots[slot]? = some (some record)) :
    (slots.set slot none).countP Option.isSome + 1 = slots.countP Option.isSome := by
  obtain ⟨hlt, hcell⟩ := List.getElem?_eq_some_iff.mp h
  have hpos : 0 < slots.countP Option.isSome :=
    List.countP_pos_iff.mpr ⟨slots[slot], List.getElem_mem hlt, by simp [hcell]⟩
  simp [List.countP_set hlt, hcell]
  omega

/-- A table whose count and records agree with its slots. -/
structure Consistent (capacity : Nat) (table : SlotTable) : Prop where
  length_eq : table.slots.length = capacity
  count_eq : table.activeCount = table.slots.countP Option.isSome
  record_eq : ∀ (slot : Nat) (record : ConnectionRecord),
    table.slots[slot]? = some (some record) → record.slot = slot ∧ record.name = s!"client_{slot}"

/-- Allocation gives the lowest free slot to a peer and leaves every other slot alone. -/
structure TakesLowest (table : SlotTable) (peer : Option IpAddress) (slot : Nat)
    (next : SlotTable) : Prop where
  allocate_eq : table.allocate peer = .ok (.new slot peer, next)
  free : table.slots[slot]? = some none
  lower_held : ∀ lower < slot, ∃ record, table.slots[lower]? = some (some record)
  taken : next.slots[slot]? = some (some (.new slot peer))
  others : ∀ other ≠ slot, next.slots[other]? = table.slots[other]?
  count_succ : next.activeCount = table.activeCount + 1

theorem takesLowest_of_firstFree? {table : SlotTable} {slot : Nat} (peer : Option IpAddress)
    (h : table.firstFree? = some slot) : table.TakesLowest peer slot
      ⟨table.slots.set slot (some (.new slot peer)), table.activeCount + 1⟩ := by
  obtain ⟨hfree, hheld⟩ := (firstFree?_eq_some_iff ..).mp h
  obtain ⟨hlt, -⟩ := List.getElem?_eq_some_iff.mp hfree
  refine ⟨(allocate_eq_ok_iff ..).mpr ⟨h, rfl, rfl⟩, hfree, hheld, ?_, ?_, rfl⟩
  · exact List.getElem?_set_self hlt
  · intro other hother
    exact List.getElem?_set_ne hother.symm

namespace Consistent

variable {capacity slot : Nat} {table next : SlotTable} {peer : Option IpAddress}
  {record : ConnectionRecord}

theorem new (capacity : Nat) : Consistent capacity (SlotTable.new capacity) where
  length_eq := by simp [SlotTable.new]
  count_eq := by simp [SlotTable.new, List.countP_replicate]
  record_eq := by
    intro slot record h
    simp [SlotTable.new, List.getElem?_replicate] at h

theorem allocate (h : Consistent capacity table)
    (ha : table.allocate peer = .ok (record, next)) : Consistent capacity next := by
  obtain ⟨hslot, hrecord, rfl⟩ := (allocate_eq_ok_iff ..).mp ha
  obtain ⟨hfree, -⟩ := (firstFree?_eq_some_iff ..).mp hslot
  refine ⟨by simpa using h.length_eq, ?_, ?_⟩
  · rw [countP_set_some record hfree, h.count_eq]
  · intro other held ho
    by_cases hother : record.slot = other
    · obtain ⟨hlt, -⟩ := List.getElem?_eq_some_iff.mp hfree
      rw [← hother, List.getElem?_set_self hlt] at ho
      obtain rfl : record = held := by simpa using ho
      rw [hrecord, ← hother]
      exact ⟨rfl, rfl⟩
    · rw [List.getElem?_set_ne hother] at ho
      exact h.record_eq other held ho

theorem release (h : Consistent capacity table) (hr : table.release slot = .ok next) :
    Consistent capacity next := by
  obtain ⟨⟨record, hheld⟩, rfl⟩ := (release_eq_ok_iff ..).mp hr
  refine ⟨by simpa using h.length_eq, ?_, ?_⟩
  · have hcount := countP_set_none hheld
    have htotal := h.count_eq
    simp only
    omega
  · intro other held ho
    rw [List.getElem?_set] at ho
    split at ho
    · simp at ho
    · exact h.record_eq other held ho

/-- A release that goes through finds something to take off the count. -/
theorem activeCount_release (h : Consistent capacity table)
    (hr : table.release slot = .ok next) :
    1 ≤ table.activeCount ∧ next.activeCount + 1 = table.activeCount := by
  obtain ⟨⟨record, hheld⟩, rfl⟩ := (release_eq_ok_iff ..).mp hr
  have hcount := countP_set_none hheld
  have htotal := h.count_eq
  simp only
  omega

theorem activeCount_le (h : Consistent capacity table) : table.activeCount ≤ capacity := by
  rw [h.count_eq, ← h.length_eq]
  exact List.countP_le_length

/-- The count reaches the capacity exactly when no slot is free. -/
theorem activeCount_eq_capacity_iff (h : Consistent capacity table) :
    table.activeCount = capacity ↔ table.firstFree? = none := by
  rw [firstFree?_eq_none_iff, h.count_eq, ← h.length_eq, List.countP_eq_length]

/-- A table without held slots is as good as new. -/
theorem eq_new (h : Consistent capacity table) (hfree : ∀ slot, table.record? slot = none) :
    table = .new capacity := by
  have hcells : ∀ cell ∈ table.slots, cell = none := by
    intro cell hcell
    obtain ⟨slot, hslot⟩ := List.mem_iff_getElem?.mp hcell
    simpa [record?, hslot] using hfree slot
  have hslots : table.slots = List.replicate capacity none :=
    List.eq_replicate_iff.mpr ⟨h.length_eq, hcells⟩
  have hcount : table.activeCount = 0 := by
    rw [h.count_eq, hslots]
    simp [List.countP_replicate]
  calc
    table = ⟨table.slots, table.activeCount⟩ := rfl
    _ = .new capacity := by rw [hslots, hcount]; rfl

theorem takesLowest (h : Consistent capacity table) (peer : Option IpAddress)
    (hc : table.activeCount ≠ capacity) : ∃ slot next, table.TakesLowest peer slot next := by
  obtain ⟨slot, hslot⟩ :=
    Option.ne_none_iff_exists'.mp (mt h.activeCount_eq_capacity_iff.mpr hc)
  exact ⟨slot, _, takesLowest_of_firstFree? peer hslot⟩

/-- Records come in the order of their slots, so none is listed twice. -/
theorem activeRecords_pairwise (h : Consistent capacity table) :
    table.activeRecords.Pairwise fun a b => a.slot < b.slot := by
  rw [activeRecords, List.pairwise_filterMap, List.pairwise_iff_getElem]
  intro i j hi hj hij a ha b hb
  have hai := h.record_eq i a (by rw [List.getElem?_eq_getElem hi]; exact congrArg some ha)
  have hbj := h.record_eq j b (by rw [List.getElem?_eq_getElem hj]; exact congrArg some hb)
  rw [hai.1, hbj.1]
  exact hij

end Consistent

end SlotServer.SlotTable
