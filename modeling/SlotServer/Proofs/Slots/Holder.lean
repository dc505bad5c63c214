import SlotServer.Proofs.Slots.Run

/-!
# Who holds a slot

A lease knows its slot only by number, so it cannot tell whether the slot is still its own. The
answers that a run gave can: a slot belongs to the lease that it was last given to, unless it was
freed since. A held slot carries the record of the lease that holds it, and that lease is live.
-/

namespace SlotServer.LeasedTable

/-- The lease that holds a slot after an answer, if `holder` held it before. -/
def holderAfter (slot : Nat) (holder : Option Nat) : SlotAnswer → Option Nat
  | .leased lease record => if slot = record.slot then some lease else holder
  | .released freed | .givenBack freed => if slot = freed then none else holder
  | .refused _ | .notReleased _ | .stale _ | .noLease => holder

/-- The lease that holds a slot after a run that gave these answers. -/
def holder? (answers : List SlotAnswer) (slot : Nat) : Option Nat :=
  answers.foldl (holderAfter slot) none

theorem holder?_append (first rest : List SlotAnswer) (slot : Nat) :
    holder? (first ++ rest) slot = rest.foldl (holderAfter slot) (holder? first slot) :=
  List.foldl_append

theorem holder?_concat (answers : List SlotAnswer) (answer : SlotAnswer) (slot : Nat) :
    holder? (answers ++ [answer]) slot = holderAfter slot (holder? answers slot) answer :=
  holder?_append answers [answer] slot

/-! ## Live leases -/

theorem lt_length_of_lease? {state : LeasedTable} {lease : Nat} {record : ConnectionRecord}
    (h : state.lease? lease = some record) : lease < state.leases.length := by
  obtain ⟨hlt, -⟩ := List.getElem?_eq_some_iff.mp (Option.join_eq_some_iff.mp h)
  exact hlt

theorem lease?_append {leases : List (Option ConnectionRecord)} {lease : Nat}
    {record : ConnectionRecord} (table next : SlotTable) (more : List (Option ConnectionRecord))
    (h : lease? ⟨table, leases⟩ lease = some record) :
    lease? ⟨next, leases ++ more⟩ lease = some record := by
  have hlt := lt_length_of_lease? h
  simpa [lease?, List.getElem?_append_left hlt] using h

theorem lease?_set_none {leases : List (Option ConnectionRecord)} {lease dropped : Nat}
    (table next : SlotTable) (hne : lease ≠ dropped) :
    lease? ⟨next, leases.set dropped none⟩ lease = lease? ⟨table, leases⟩ lease := by
  simp [lease?, List.getElem?_set_ne (Ne.symm hne)]

theorem ne_of_lease?_set_none {leases : List (Option ConnectionRecord)} {lease dropped : Nat}
    {record : ConnectionRecord} {next : SlotTable}
    (h : lease? ⟨next, leases.set dropped none⟩ lease = some record) : lease ≠ dropped := by
  rintro rfl
  have hlt := lt_length_of_lease? h
  rw [lease?, List.getElem?_set_self (by simpa using hlt)] at h
  cases h

theorem lease?_of_set_none {leases : List (Option ConnectionRecord)} {lease dropped : Nat}
    {record : ConnectionRecord} {table next : SlotTable}
    (h : lease? ⟨next, leases.set dropped none⟩ lease = some record) :
    lease? ⟨table, leases⟩ lease = some record := by
  rwa [lease?_set_none table next (ne_of_lease?_set_none h)] at h

/-- A live lease after an allocation was live before, or is the new one. -/
theorem lease?_append_some {state : LeasedTable} {next : SlotTable}
    {record held : ConnectionRecord} {lease : Nat}
    (h : lease? ⟨next, state.leases ++ [some record]⟩ lease = some held) :
    state.lease? lease = some held ∨ lease = state.leases.length ∧ held = record := by
  by_cases hold : lease < state.leases.length
  · exact Or.inl (by simpa [lease?, List.getElem?_append_left hold] using h)
  · have hlt := lt_length_of_lease? h
    obtain rfl : lease = state.leases.length := by simp at hlt; omega
    exact Or.inr ⟨rfl, by simpa [lease?, eq_comm] using h⟩

/-- The answers tell who holds each slot: the slot carries the record of its holder, which is
live, and no record if it has no holder. -/
structure Tracked (state : LeasedTable) (answers : List SlotAnswer) : Prop where
  held : ∀ slot lease, holder? answers slot = some lease → ∃ record : ConnectionRecord,
    record.slot = slot ∧ state.lease? lease = some record ∧
    state.table.record? slot = some record
  free : ∀ slot, holder? answers slot = none → state.table.record? slot = none
  inRange : ∀ lease record, state.lease? lease = some record →
    record.slot < state.table.slots.length

theorem Tracked.new (capacity : Nat) : Tracked (new capacity) [] where
  held := by simp [holder?]
  free := by
    intro slot _
    cases h : (LeasedTable.new capacity).table.record? slot with
    | none => rfl
    | some record =>
        have hcell := (SlotTable.record?_eq_some_iff ..).mp h
        simp [LeasedTable.new, SlotTable.new, List.getElem?_replicate] at hcell
  inRange := by simp [LeasedTable.new, lease?]

/-- A slot that nobody holds by the answers is free, and one with a record has a holder. -/
theorem Tracked.holder?_eq_none_iff {state : LeasedTable} {answers : List SlotAnswer}
    (h : Tracked state answers) (slot : Nat) :
    holder? answers slot = none ↔ state.table.record? slot = none := by
  refine ⟨h.free slot, ?_⟩
  intro hfree
  cases hholder : holder? answers slot with
  | none => rfl
  | some lease =>
      obtain ⟨record, -, -, hrecord⟩ := h.held slot lease hholder
      simp [hfree] at hrecord

theorem Tracked.leased {state : LeasedTable} {answers : List SlotAnswer}
    {peer : Option IpAddress} {record : ConnectionRecord} {table : SlotTable}
    (h : Tracked state answers) (ha : state.table.allocate peer = .ok (record, table)) :
    Tracked ⟨table, state.leases ++ [some record]⟩
      (answers ++ [.leased state.leases.length record]) := by
  obtain ⟨hslot, -, htable⟩ := (SlotTable.allocate_eq_ok_iff ..).mp ha
  obtain ⟨hfree, -⟩ := (SlotTable.firstFree?_eq_some_iff ..).mp hslot
  obtain ⟨hlt, -⟩ := List.getElem?_eq_some_iff.mp hfree
  have hlength : table.slots.length = state.table.slots.length := by simp [htable]
  refine ⟨?_, ?_, ?_⟩
  · intro slot lease hl
    rw [holder?_concat, holderAfter] at hl
    by_cases hother : slot = record.slot
    · obtain rfl : state.leases.length = lease := by simpa [hother] using hl
      refine ⟨record, hother.symm, by simp [lease?], ?_⟩
      rw [SlotTable.record?_allocate ha, if_pos hother]
    · rw [if_neg hother] at hl
      obtain ⟨held, hs, hlive, hheld⟩ := h.held slot lease hl
      refine ⟨held, hs, lease?_append state.table table _ hlive, ?_⟩
      rw [SlotTable.record?_allocate ha, if_neg hother, hheld]
  · intro slot hl
    rw [holder?_concat, holderAfter] at hl
    by_cases hother : slot = record.slot
    · simp [hother] at hl
    · rw [if_neg hother] at hl
      rw [SlotTable.record?_allocate ha, if_neg hother]
      exact h.free slot hl
  · intro lease held hl
    rw [hlength]
    rcases lease?_append_some hl with hold | ⟨-, rfl⟩
    · exact h.inRange lease held hold
    · exact hlt

/-- Giving back a slot takes it from its holder and from nobody else. -/
theorem Tracked.freed {state : LeasedTable} {answers : List SlotAnswer} {table : SlotTable}
    {leases : List (Option ConnectionRecord)} {answer : SlotAnswer} {slot : Nat}
    (h : Tracked state answers) (hr : state.table.release slot = .ok table)
    (hanswer : ∀ other holder,
      holderAfter other holder answer = if other = slot then none else holder)
    (hkept : ∀ lease record, record.slot ≠ slot → state.lease? lease = some record →
      lease? ⟨table, leases⟩ lease = some record)
    (hlive : ∀ lease record, lease? ⟨table, leases⟩ lease = some record →
      state.lease? lease = some record) :
    Tracked ⟨table, leases⟩ (answers ++ [answer]) := by
  have hlength : table.slots.length = state.table.slots.length := by
    obtain ⟨-, rfl⟩ := (SlotTable.release_eq_ok_iff ..).mp hr
    simp
  refine ⟨?_, ?_, ?_⟩
  · intro other lease hl
    rw [holder?_concat, hanswer] at hl
    by_cases hother : other = slot
    · simp [hother] at hl
    · rw [if_neg hother] at hl
      obtain ⟨record, hslot, hl, hrecord⟩ := h.held other lease hl
      refine ⟨record, hslot, hkept lease record (hslot ▸ hother) hl, ?_⟩
      rw [SlotTable.record?_release hr, if_neg hother, hrecord]
  · intro other hl
    rw [holder?_concat, hanswer] at hl
    rw [SlotTable.record?_release hr]
    by_cases hother : other = slot
    · exact if_pos hother
    · rw [if_neg hother] at hl ⊢
      exact h.free other hl
  · intro lease record hl
    rw [hlength]
    exact h.inRange lease record (hlive lease record hl)

/-- Nobody gains or loses a slot as long as the table stays and the holders stay live. -/
theorem Tracked.kept {state : LeasedTable} {answers : List SlotAnswer}
    {leases : List (Option ConnectionRecord)} {answer : SlotAnswer} (h : Tracked state answers)
    (hanswer : ∀ slot holder, holderAfter slot holder answer = holder)
    (hkept : ∀ lease record, state.table.record? record.slot = some record →
      state.lease? lease = some record → lease? ⟨state.table, leases⟩ lease = some record)
    (hlive : ∀ lease record, lease? ⟨state.table, leases⟩ lease = some record →
      state.lease? lease = some record) :
    Tracked ⟨state.table, leases⟩ (answers ++ [answer]) := by
  refine ⟨?_, ?_, fun lease record hl => h.inRange lease record (hlive lease record hl)⟩
  · intro slot lease hl
    rw [holder?_concat, hanswer] at hl
    obtain ⟨record, hslot, hl, hrecord⟩ := h.held slot lease hl
    exact ⟨record, hslot, hkept lease record (hslot ▸ hrecord) hl, hrecord⟩
  · intro slot hl
    rw [holder?_concat, hanswer] at hl
    exact h.free slot hl

theorem Tracked.performs {state next : LeasedTable} {answers : List SlotAnswer} {op : SlotOp}
    {answer : SlotAnswer} (h : Tracked state answers) (hp : Performs state op next answer) :
    Tracked next (answers ++ [answer]) := by
  cases hp with
  | leased ha => exact h.leased ha
  | refused ha | notReleased hr | noLease hdead =>
      exact h.kept (fun _ _ => rfl) (fun _ _ _ hl => hl) (fun _ _ hl => hl)
  | released hr =>
      exact h.freed hr (fun _ _ => rfl) (fun _ _ _ hl => hl) (fun _ _ hl => hl)
  | @givenBack lease record table hlive hr =>
      refine h.freed hr (fun _ _ => rfl) ?_ fun _ _ => lease?_of_set_none
      intro other held hne hl
      rw [lease?_set_none state.table]
      · exact hl
      · rintro rfl
        obtain rfl : record = held := by simpa [hlive] using hl
        exact hne rfl
  | @stale lease record error hlive hr =>
      refine h.kept (fun _ _ => rfl) ?_ fun _ _ => lease?_of_set_none
      intro other held hheld hl
      rw [lease?_set_none state.table]
      · exact hl
      · rintro rfl
        obtain rfl : record = held := by simpa [hlive] using hl
        simp [SlotTable.record?_of_release_eq_error hr] at hheld

theorem tracked_run (capacity : Nat) (ops : List SlotOp) :
    Tracked ((new capacity).run ops).1 ((new capacity).run ops).2 :=
  run_invariant Tracked (.new capacity) (fun _ _ _ _ _ h hp => h.performs hp) ops

/-! ## Leases that lost their slot -/

/-- A lease that does not hold a slot never comes to hold it: slots are given to new leases
only. -/
theorem holder_ne_of_run {start : LeasedTable} {slot lease : Nat} {holder : Option Nat}
    (hlt : lease < start.leases.length) (hne : holder ≠ some lease) (ops : List SlotOp) :
    (start.run ops).2.foldl (holderAfter slot) holder ≠ some lease := by
  refine (run_invariant (fun state answers => lease < state.leases.length ∧
    answers.foldl (holderAfter slot) holder ≠ some lease) ⟨hlt, hne⟩ ?_ ops).2
  rintro state answers op next answer ⟨hlt, hne⟩ hp
  rw [List.foldl_append, List.foldl_cons, List.foldl_nil]
  cases hp with
  | leased ha =>
      refine ⟨by simp; omega, ?_⟩
      simp only [holderAfter]
      split
      · simp; omega
      · exact hne
  | refused ha | notReleased hr | noLease hdead => exact ⟨hlt, hne⟩
  | stale hlive hr => exact ⟨by simpa using hlt, hne⟩
  | released hr =>
      refine ⟨hlt, ?_⟩
      simp only [holderAfter]
      split <;> simp [hne]
  | givenBack hlive hr =>
      refine ⟨by simpa using hlt, ?_⟩
      simp only [holderAfter]
      split <;> simp [hne]

/-- A lease whose slot was released directly while it was live does not hold the slot any more,
whatever happens later. -/
theorem holder?_ne_of_released {capacity lease slot : Nat} {before later : List SlotOp}
    {record : ConnectionRecord}
    (hlive : ((new capacity).run before).1.lease? lease = some record)
    (hreleased : (((new capacity).run before).1.step (.release slot)).2 = .released slot) :
    holder? ((new capacity).run (before ++ .release slot :: later)).2 slot ≠ some lease := by
  have hp := step_performs ((new capacity).run before).1 (.release slot)
  rw [hreleased] at hp
  have hlt := lt_length_of_lease? hlive
  rw [run_append, holder?_append, run, List.foldl_cons, hreleased]
  simp only [holderAfter, if_true]
  refine holder_ne_of_run ?_ (by simp) later
  generalize (((new capacity).run before).1.step (.release slot)).1 = next at hp
  cases hp with
  | released hr => exact hlt

theorem step_drop_of_free {state : LeasedTable} {lease : Nat} {record : ConnectionRecord}
    (hlive : state.lease? lease = some record) (hlt : record.slot < state.table.slots.length)
    (hfree : state.table.record? record.slot = none) :
    state.step (.drop lease) =
      (⟨state.table, state.leases.set lease none⟩, .stale (.notActive record.slot)) :=
  (Performs.stale hlive (SlotTable.release_of_record?_eq_none hlt hfree)).execution

theorem step_drop_of_held {state : LeasedTable} {lease : Nat} {record held : ConnectionRecord}
    (hlive : state.lease? lease = some record)
    (hheld : state.table.record? record.slot = some held) :
    ∃ table, state.table.release record.slot = .ok table ∧ state.step (.drop lease) =
      (⟨table, state.leases.set lease none⟩, .givenBack record.slot) := by
  have hcell := (SlotTable.record?_eq_some_iff ..).mp hheld
  have hr := (SlotTable.release_eq_ok_iff state.table _ record.slot).mpr ⟨⟨held, hcell⟩, rfl⟩
  exact ⟨_, hr, (Performs.givenBack hlive hr).execution⟩

/-- Dropping a live lease fails with a slot that is not active, and leaves the table alone, exactly
when nobody holds the slot of the lease by then. Otherwise it takes the slot from whoever holds it,
who stays live without a slot if it is another lease. A lease whose slot was released directly is
never the holder itself. -/
theorem drop_stale_iff (capacity : Nat) (ops : List SlotOp) (lease : Nat)
    (record : ConnectionRecord)
    (hlive : ((new capacity).run ops).1.lease? lease = some record) :
    let state := ((new capacity).run ops).1
    let answers := ((new capacity).run ops).2
    let dropped := state.step (.drop lease)
    (dropped.2 = .stale (.notActive record.slot) ∧ dropped.1.table = state.table ↔
      holder? answers record.slot = none) ∧
    (∀ other, holder? answers record.slot = some other →
      dropped.2 = .givenBack record.slot ∧ dropped.1.table.record? record.slot = none ∧
      ∃ held, state.lease? other = some held ∧ state.table.record? record.slot = some held ∧
        (other ≠ lease → dropped.1.lease? other = some held)) ∧
    ∀ before later, ops = before ++ .release record.slot :: later →
      ((new capacity).run before).1.lease? lease = some record →
      (((new capacity).run before).1.step (.release record.slot)).2 = .released record.slot →
      holder? answers record.slot ≠ some lease := by
  intro state answers dropped
  have ht : Tracked state answers := tracked_run capacity ops
  refine ⟨?_, ?_, ?_⟩
  · rw [ht.holder?_eq_none_iff]
    constructor
    · rintro ⟨hstale, -⟩
      cases hheld : state.table.record? record.slot with
      | none => rfl
      | some held =>
          obtain ⟨table, -, hstep⟩ := step_drop_of_held hlive hheld
          change dropped = _ at hstep
          simp [hstep] at hstale
    · intro hfree
      have hstep := step_drop_of_free hlive (ht.inRange lease record hlive) hfree
      exact ⟨congrArg Prod.snd hstep, congrArg (·.1.table) hstep⟩
  · intro other hother
    obtain ⟨held, -, hl, hheld⟩ := ht.held record.slot other hother
    obtain ⟨table, hr, hstep⟩ := step_drop_of_held hlive hheld
    change dropped = _ at hstep
    rw [hstep]
    refine ⟨rfl, ?_, held, hl, hheld, ?_⟩
    · rw [SlotTable.record?_release hr, if_pos rfl]
    · intro hne
      rw [lease?_set_none state.table table hne]
      exact hl
  · rintro before later rfl hbefore hreleased
    exact holder?_ne_of_released hbefore hreleased

/-- A slot that was released directly and given out again, and the drop of the old lease. -/
theorem drop_stale_iff_reallocated :
    ((new 1).run [.allocate none, .release 0, .allocate none]).1.lease? 0 = some (.new 0 none) ∧
    holder? ((new 1).run [.allocate none, .release 0, .allocate none]).2 0 = some 1 ∧
    (((new 1).run [.allocate none, .release 0, .allocate none]).1.step (.drop 0)).2 =
      .givenBack 0 := by
  have hlive : ((new 1).run [.allocate none, .release 0, .allocate none]).1.lease? 0 =
      some (.new 0 none) := by decide
  have hholder : holder? ((new 1).run [.allocate none, .release 0, .allocate none]).2 0 =
      some 1 := by decide
  exact ⟨hlive, hholder, ((drop_stale_iff 1 _ 0 _ hlive).2.1 1 hholder).1⟩

/-- A direct release does not always make the drop of the lease fail: the slot may have been given
to another lease by then, and is taken from it. -/
theorem stale_drop_takes_held_slot :
    ¬ ∀ (capacity lease : Nat) (record : ConnectionRecord) (before later : List SlotOp),
      ((new capacity).run before).1.lease? lease = some record →
      (((new capacity).run before).1.step (.release record.slot)).2 = .released record.slot →
      .drop lease ∉ later →
      let state := ((new capacity).run (before ++ .release record.slot :: later)).1
      (state.step (.drop lease)).2 = .stale (.notActive record.slot) ∧
        (state.step (.drop lease)).1.table = state.table := by
  intro h
  have hstale := h 1 0 (.new 0 none) [.allocate none] [.allocate none] (by decide) (by decide)
    (by decide)
  revert hstale
  decide

end SlotServer.LeasedTable
