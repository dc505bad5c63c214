import SlotServer.Log.SlotEvents
import SlotServer.Proofs.Slots.Holder

/-!
# Accounting for leases

A lease outlives its slot if the slot is released directly, and then its drop is logged as a warning
unless the slot was given out again. Over any run these two make up for each other: leases and
warnings on one side balance held slots and direct releases on the other. Where nobody releases
slots directly, whatever threads allocate slots and drop their leases, the leases and the held slots
match one to one.
-/

namespace SlotServer

namespace SlotAnswer

/-- The entry that an operation on slots writes to the log, if it writes one. -/
def logged (answer : SlotAnswer) : Option Log.Entry :=
  answer.event?.map Log.Event.entry

/-- Whether a slot was released directly. -/
def isReleased : SlotAnswer → Bool
  | released _ => true
  | _ => false

/-- Whether a lease was dropped whose slot was free already. -/
def isStale : SlotAnswer → Bool
  | stale _ => true
  | _ => false

end SlotAnswer

namespace LeasedTable

/-- The number of direct releases that went through. -/
def releaseCount (answers : List SlotAnswer) : Nat :=
  answers.countP SlotAnswer.isReleased

/-- The number of drops that found nothing to give back. -/
def staleCount (answers : List SlotAnswer) : Nat :=
  answers.countP SlotAnswer.isStale

/-- The entries that a run writes to the log. -/
def log (answers : List SlotAnswer) : List Log.Entry :=
  answers.filterMap SlotAnswer.logged

/-- The number of warnings that a run writes to the log. -/
def warningCount (answers : List SlotAnswer) : Nat :=
  (log answers).countP fun entry => entry.level = .warn

/-! ## Counting -/

theorem mem_liveLeases_iff (state : LeasedTable) (record : ConnectionRecord) :
    record ∈ state.liveLeases ↔ ∃ lease, state.lease? lease = some record := by
  rw [liveLeases, List.mem_filterMap]
  simp [lease?, List.mem_iff_getElem?, Option.join_eq_some_iff]

theorem length_liveLeases (state : LeasedTable) :
    state.liveLeases.length = state.leases.countP Option.isSome :=
  List.length_filterMap_eq_countP

theorem length_liveLeases_append (state : LeasedTable) (next : SlotTable)
    (record : ConnectionRecord) :
    (liveLeases ⟨next, state.leases ++ [some record]⟩).length = state.liveLeases.length + 1 := by
  simp [liveLeases]

theorem length_liveLeases_set_none {state : LeasedTable} {lease : Nat} {record : ConnectionRecord}
    (next : SlotTable) (hlive : state.lease? lease = some record) :
    (liveLeases ⟨next, state.leases.set lease none⟩).length + 1 = state.liveLeases.length := by
  rw [length_liveLeases, length_liveLeases]
  exact SlotTable.countP_set_none (Option.join_eq_some_iff.mp hlive)

theorem releaseCount_concat (answers : List SlotAnswer) (answer : SlotAnswer) :
    releaseCount (answers ++ [answer]) =
      releaseCount answers + if answer.isReleased then 1 else 0 := by
  rw [releaseCount, List.countP_append, List.countP_singleton, releaseCount]

theorem staleCount_concat (answers : List SlotAnswer) (answer : SlotAnswer) :
    staleCount (answers ++ [answer]) = staleCount answers + if answer.isStale then 1 else 0 := by
  rw [staleCount, List.countP_append, List.countP_singleton, staleCount]

/-- A warning is logged for each drop that found nothing to give back, and for nothing else. -/
theorem warningCount_eq_staleCount (answers : List SlotAnswer) :
    warningCount answers = staleCount answers := by
  rw [warningCount, log, List.countP_filterMap, staleCount]
  congr 1
  funext answer
  cases answer <;> rfl

/-! ## Leases and slots in any run -/

/-- Live leases and stale drops on one side, held slots and direct releases on the other. -/
structure Balanced (capacity : Nat) (state : LeasedTable) (answers : List SlotAnswer) : Prop where
  consistent : state.table.Consistent capacity
  balance : state.liveLeases.length + staleCount answers =
    state.table.activeCount + releaseCount answers

variable {capacity : Nat} {state next : LeasedTable} {op : SlotOp} {answer : SlotAnswer}
  {answers : List SlotAnswer}

theorem Balanced.new (capacity : Nat) : Balanced capacity (new capacity) [] where
  consistent := .new capacity
  balance := rfl

/-- An allocation adds a lease and a held slot, a drop takes a lease and either takes its slot or is
stale, and a direct release takes a slot. -/
theorem Balanced.performs (h : Balanced capacity state answers)
    (hp : Performs state op next answer) : Balanced capacity next (answers ++ [answer]) := by
  refine ⟨hp.consistent h.consistent, ?_⟩
  have hbalance := h.balance
  rw [releaseCount_concat, staleCount_concat]
  cases hp with
  | @leased peer record table ha =>
      have hleases := length_liveLeases_append state table record
      obtain ⟨-, -, rfl⟩ := (SlotTable.allocate_eq_ok_iff ..).mp ha
      change _ + (staleCount answers + 0) = state.table.activeCount + 1 + (releaseCount answers + 0)
      omega
  | refused _ | notReleased _ | noLease _ => exact hbalance
  | @released slot table hr =>
      obtain ⟨-, hcount⟩ := h.consistent.activeCount_release hr
      change state.liveLeases.length + (staleCount answers + 0) =
        table.activeCount + (releaseCount answers + 1)
      omega
  | @givenBack lease record table hlive hr =>
      have hleases := length_liveLeases_set_none table hlive
      obtain ⟨-, hcount⟩ := h.consistent.activeCount_release hr
      change _ + (staleCount answers + 0) = table.activeCount + (releaseCount answers + 0)
      omega
  | stale hlive hr =>
      have hleases := length_liveLeases_set_none state.table hlive
      change _ + (staleCount answers + 1) = state.table.activeCount + (releaseCount answers + 0)
      omega

theorem balanced_run (capacity : Nat) (ops : List SlotOp) :
    Balanced capacity ((new capacity).run ops).1 ((new capacity).run ops).2 :=
  run_invariant (Balanced capacity) (.new capacity) (fun _ _ _ _ _ h hp => h.performs hp) ops

/-- A record that holds a slot names this slot, and is the record of a live lease. -/
theorem Tracked.backed (h : Tracked state answers) {slot : Nat} {record : ConnectionRecord}
    (hrecord : state.table.record? slot = some record) :
    record.slot = slot ∧ ∃ lease, state.lease? lease = some record := by
  cases hholder : holder? answers slot with
  | none => simp [h.free slot hholder] at hrecord
  | some lease =>
      obtain ⟨held, hslot, hlive, hheld⟩ := h.held slot lease hholder
      obtain rfl : record = held := by simpa [hrecord] using hheld
      exact ⟨hslot, lease, hlive⟩

/-- Without live leases there are no held slots. -/
theorem Tracked.table_eq_new (h : Tracked state answers) (hc : state.table.Consistent capacity)
    (hnone : state.liveLeases = []) : state.table = .new capacity := by
  apply hc.eq_new
  intro slot
  cases hrecord : state.table.record? slot with
  | none => rfl
  | some record =>
      have hmem := (mem_liveLeases_iff state record).mpr (h.backed hrecord).2
      simp [hnone] at hmem

/-- What is true after any run of allocations, direct releases and drops: no slot is held without a
live lease on it, and the warnings make up for the direct releases as soon as no lease is left. -/
structure NoLeak (capacity : Nat) (state : LeasedTable) (answers : List SlotAnswer) : Prop where
  backed : ∀ slot record, state.table.record? slot = some record →
    record.slot = slot ∧ ∃ lease, state.lease? lease = some record
  balance : state.liveLeases.length + staleCount answers =
    state.table.activeCount + releaseCount answers
  warned : warningCount answers = staleCount answers
  settled : state.liveLeases = [] →
    state.table = .new capacity ∧ warningCount answers = releaseCount answers

/-- No slot leaks, whatever is released directly. -/
theorem run_noLeak (capacity : Nat) (ops : List SlotOp) :
    NoLeak capacity ((new capacity).run ops).1 ((new capacity).run ops).2 := by
  have ht := tracked_run capacity ops
  have hb := balanced_run capacity ops
  refine ⟨fun _ _ => ht.backed, hb.balance, warningCount_eq_staleCount _, ?_⟩
  intro hnone
  have htable := ht.table_eq_new hb.consistent hnone
  have hbalance := hb.balance
  rw [hnone, htable] at hbalance
  refine ⟨htable, ?_⟩
  rw [warningCount_eq_staleCount]
  simpa [SlotTable.new] using hbalance

/-! ## Leases and slots without direct releases -/

/-- Slots are released directly only where a run asks for it. -/
theorem releaseCount_run (start : LeasedTable) {ops : List SlotOp}
    (hops : ∀ slot, .release slot ∉ ops) : releaseCount (start.run ops).2 = 0 := by
  induction ops generalizing start with
  | nil => rfl
  | cons op ops ih =>
      have hp := step_performs start op
      have hrest := ih (start.step op).1 fun slot hslot => hops slot (List.mem_cons_of_mem _ hslot)
      have hfirst : (start.step op).2.isReleased = false := by
        generalize (start.step op).1 = next, (start.step op).2 = answer at hp
        cases hp with
        | released _ => exact absurd List.mem_cons_self (hops _)
        | leased _ | refused _ | notReleased _ | givenBack _ _ | stale _ _ | noLease _ => rfl
      rw [run, releaseCount, List.countP_cons_of_neg (by simp [hfirst])]
      exact hrest

/-- Every live lease holds its slot, and no drop was stale. -/
structure Undisturbed (state : LeasedTable) (answers : List SlotAnswer) : Prop where
  holder : ∀ lease record, state.lease? lease = some record →
    holder? answers record.slot = some lease
  staleCount_eq : staleCount answers = 0

theorem Undisturbed.new (capacity : Nat) : Undisturbed (LeasedTable.new capacity) [] where
  holder := by simp [LeasedTable.new, lease?]
  staleCount_eq := rfl

/-- A live lease carries the record of its slot. -/
theorem Undisturbed.record?_eq (h : Undisturbed state answers) (ht : Tracked state answers)
    {lease : Nat} {record : ConnectionRecord} (hlive : state.lease? lease = some record) :
    state.table.record? record.slot = some record := by
  obtain ⟨held, -, hheld, hrecord⟩ := ht.held _ _ (h.holder lease record hlive)
  obtain rfl : record = held := by simpa [hlive] using hheld
  exact hrecord

theorem Undisturbed.lease_inj (h : Undisturbed state answers) {lease other : Nat}
    {record held : ConnectionRecord} (hlive : state.lease? lease = some record)
    (hother : state.lease? other = some held) (hslot : record.slot = held.slot) :
    lease = other := by
  have hholder := h.holder lease record hlive
  rw [hslot, h.holder other held hother] at hholder
  exact (Option.some.inj hholder).symm

/-- Allocations and drops disturb no lease. -/
theorem Undisturbed.performs (h : Undisturbed state answers) (ht : Tracked state answers)
    (hp : Performs state op next answer) (hanswer : answer.isReleased = false) :
    Undisturbed next (answers ++ [answer]) := by
  cases hp with
  | @leased peer record table ha =>
      refine ⟨?_, (staleCount_concat ..).trans h.staleCount_eq⟩
      intro lease held hlive
      rw [holder?_concat, holderAfter]
      rcases lease?_append_some hlive with hold | ⟨rfl, rfl⟩
      · have hfree := SlotTable.record?_of_allocate ha
        have hne : held.slot ≠ record.slot := by
          intro hslot
          have hheld := h.record?_eq ht hold
          simp [hslot, hfree] at hheld
        rw [if_neg hne]
        exact h.holder lease held hold
      · exact if_pos rfl
  | refused _ | notReleased _ | noLease _ =>
      refine ⟨?_, (staleCount_concat ..).trans h.staleCount_eq⟩
      intro lease held hlive
      rw [holder?_concat]
      exact h.holder lease held hlive
  | released _ => cases hanswer
  | @givenBack lease record table hlive hr =>
      refine ⟨?_, (staleCount_concat ..).trans h.staleCount_eq⟩
      intro other held hother
      have hold : state.lease? other = some held := lease?_of_set_none hother
      have hne : held.slot ≠ record.slot := by
        intro hslot
        exact ne_of_lease?_set_none hother (h.lease_inj hold hlive hslot)
      rw [holder?_concat, holderAfter, if_neg hne]
      exact h.holder other held hold
  | stale hlive hr =>
      -- The slot of a live lease is held, so releasing it cannot fail.
      have hheld := h.record?_eq ht hlive
      simp [SlotTable.record?_of_release_eq_error hr] at hheld

theorem undisturbed_run (capacity : Nat) {ops : List SlotOp}
    (hops : ∀ slot, .release slot ∉ ops) :
    Undisturbed ((new capacity).run ops).1 ((new capacity).run ops).2 := by
  refine (run_invariant (fun state answers => Tracked state answers ∧
    (releaseCount answers = 0 → Undisturbed state answers))
    ⟨Tracked.new capacity, fun _ => .new capacity⟩ ?_ ops).2 (releaseCount_run _ hops)
  rintro state answers op next answer ⟨ht, h⟩ hp
  refine ⟨ht.performs hp, ?_⟩
  intro hcount
  rw [releaseCount_concat, Nat.add_eq_zero_iff] at hcount
  exact (h hcount.1).performs ht hp (by simpa using hcount.2)

/-- Different live leases name different slots. -/
theorem Undisturbed.slots_nodup (h : Undisturbed state answers) :
    (state.liveLeases.map (·.slot)).Nodup := by
  rw [List.Nodup, List.pairwise_map, liveLeases, List.pairwise_filterMap, List.pairwise_iff_getElem]
  intro i j hi hj hij a ha b hb hslot
  have hlive : state.lease? i = some a := by
    simpa [lease?, List.getElem?_eq_getElem hi, Option.join_eq_some_iff] using ha
  have hother : state.lease? j = some b := by
    simpa [lease?, List.getElem?_eq_getElem hj, Option.join_eq_some_iff] using hb
  have := h.lease_inj hlive hother hslot
  omega

/-- What is true as long as slots are given back by their leases only: the held slots are those of
the live leases, one each and with the same records, every drop gives its slot back and is logged as
such, and without live leases the table is as good as new. -/
structure Matched (capacity : Nat) (state : LeasedTable) (answers : List SlotAnswer) : Prop where
  slots_nodup : (state.liveLeases.map (·.slot)).Nodup
  record?_eq_some_iff : ∀ slot record, state.table.record? slot = some record ↔
    record ∈ state.liveLeases ∧ record.slot = slot
  activeCount_eq : state.table.activeCount = state.liveLeases.length
  drop_eq : ∀ lease record, state.lease? lease = some record →
    (state.step (.drop lease)).2 = .givenBack record.slot ∧
    (state.step (.drop lease)).2.logged =
      some ⟨.debug, Log.slotsTarget, "slot released", [("slot", .number record.slot)]⟩
  not_warned : ∀ entry ∈ log answers, entry.level ≠ .warn
  settled : state.liveLeases = [] → state.table = .new capacity

/-- Leases and held slots match after every run without direct releases, in whatever order any
number of threads allocate slots and drop leases. -/
theorem run_matched (capacity : Nat) (ops : List SlotOp) (hops : ∀ slot, .release slot ∉ ops) :
    Matched capacity ((new capacity).run ops).1 ((new capacity).run ops).2 := by
  have ht := tracked_run capacity ops
  have hb := balanced_run capacity ops
  have hu := undisturbed_run capacity hops
  have hreleased := releaseCount_run (new capacity) hops
  refine ⟨hu.slots_nodup, ?_, ?_, ?_, ?_, ht.table_eq_new hb.consistent⟩
  · intro slot record
    rw [mem_liveLeases_iff]
    constructor
    · intro hrecord
      exact (ht.backed hrecord).symm
    · rintro ⟨⟨lease, hlive⟩, rfl⟩
      exact hu.record?_eq ht hlive
  · have hbalance := hb.balance
    rw [hu.staleCount_eq, hreleased] at hbalance
    exact hbalance.symm
  · intro lease record hlive
    obtain ⟨table, -, hstep⟩ := step_drop_of_held hlive (hu.record?_eq ht hlive)
    rw [hstep]
    exact ⟨rfl, rfl⟩
  · have hwarned := warningCount_eq_staleCount ((new capacity).run ops).2
    rw [hu.staleCount_eq, warningCount, List.countP_eq_zero] at hwarned
    simpa using hwarned

/-- A slot that was given back is given out again while another lease is live. -/
theorem run_matched_reused :
    (∀ slot, SlotOp.release slot ∉
      [.allocate none, .allocate none, .drop 0, .allocate none, .allocate none]) ∧
    Matched 2
      ((new 2).run [.allocate none, .allocate none, .drop 0, .allocate none, .allocate none]).1
      ((new 2).run [.allocate none, .allocate none, .drop 0, .allocate none, .allocate none]).2 := by
  have hops : ∀ slot, SlotOp.release slot ∉
      [.allocate none, .allocate none, .drop 0, .allocate none, .allocate none] := by simp
  exact ⟨hops, run_matched 2 _ hops⟩

end LeasedTable

end SlotServer
