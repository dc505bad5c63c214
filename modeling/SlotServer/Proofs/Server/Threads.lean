import SlotServer.Capability.Scripted
import SlotServer.Proofs.Slots.Orderly
import SlotServer.Server.Threads

/-!
# Slots are guarded

In whatever order the threads of a server take their steps, a connection has its slot to itself
until nothing is left of it, and gives it back once. A worker gives it back only after it has closed
its stream; where no worker could be started the lease may go first, but then the accepting thread
is not done with the connection, and gives no slot to another.
-/

namespace SlotServer.Server

variable {σ : Type}

namespace Move

/-- The connection that a move is about, if it got a slot before. -/
def lease? : Move σ → Option Nat
  | accept _ => none
  | handOver lease | giveUp lease | exchange lease _ _ | finish lease | breakOff lease _
  | close lease | drop lease => some lease

/-- Whether the lease of this number is dropped. -/
def drops (lease : Nat) : Move σ → Bool
  | drop other => other == lease
  | _ => false

end Move

namespace Connection

/-- The record of a connection as long as it has its lease. -/
def held? (connection : Connection) : Option ConnectionRecord :=
  if connection.isLeased then some connection.record else none

/-- What the stage of a connection says about stream and lease. -/
structure Proper (connection : Connection) : Prop where
  whole : connection.stage = .accepted ∨ connection.stage = .serving →
    connection.isOpen = true ∧ connection.isLeased = true
  ordered : connection.stage = .served → connection.isOpen = true → connection.isLeased = true

variable {connection changed : Connection}

theorem isGone_eq_false_iff :
    connection.isGone = false ↔ connection.isOpen = true ∨ connection.isLeased = true := by
  cases hopen : connection.isOpen <;> simp [isGone, hopen]

theorem canClose_iff : connection.canClose = true ↔
    connection.isOpen = true ∧ (connection.stage = .served ∨ connection.stage = .abandoned) := by
  simp [canClose]

theorem canDrop_iff : connection.canDrop = true ↔ connection.isLeased = true ∧
    (connection.stage = .served ∧ connection.isOpen = false ∨ connection.stage = .abandoned) := by
  cases hstage : connection.stage <;> simp [canDrop, hstage]

/-- A connection that the accepting thread is done with has its lease as long as anything is left
of it. -/
theorem Proper.isLeased (h : connection.Proper) (hpending : connection.isPending = false)
    (hgone : connection.isGone = false) : connection.isLeased = true := by
  cases hstage : connection.stage with
  | accepted => simp [isPending, hstage] at hpending
  | abandoned => simp [isPending, hstage, hgone] at hpending
  | serving => exact (h.whole (.inr hstage)).2
  | served =>
      rcases isGone_eq_false_iff.mp hgone with hopen | hleased
      · exact h.ordered hstage hopen
      · exact hleased

end Connection

namespace Threads

/-! ## Single moves -/

/-- The rules of what a move makes of the connection that it is about, but for the drop of its
lease. -/
inductive Goes (lease : Nat) : Move σ → Connection → Connection → Prop where
  | handOver {connection : Connection} (h : connection.stage = .accepted) :
      Goes lease (.handOver lease) connection { connection with stage := .serving }
  | giveUp {connection : Connection} (h : connection.stage = .accepted) :
      Goes lease (.giveUp lease) connection { connection with stage := .abandoned }
  | exchange {connection : Connection} {record writes stage} (h : connection.stage = .serving)
      (hstage : stage = .serving ∨ stage = .served) :
      Goes lease (.exchange lease record writes) connection { connection with stage }
  | finish {connection : Connection} (h : connection.stage = .serving) :
      Goes lease (.finish lease) connection { connection with stage := .served }
  | breakOff {connection : Connection} {state} (h : connection.stage = .serving) :
      Goes lease (.breakOff lease state) connection { connection with stage := .served }
  | close {connection : Connection} (h : connection.canClose = true) :
      Goes lease (.close lease) connection { connection with isOpen := false }

/-- The rules of single moves. A connection is accepted only if the accepting thread is done with
all earlier ones. -/
inductive Moves (host : Capabilities σ) (threads : Threads σ) : Move σ → Threads σ → Prop where
  | rejected {peer error} (hfree : ∀ earlier ∈ threads.connections, earlier.isPending = false)
      (h : threads.slots.table.allocate peer = .error error) :
      Moves host threads (.accept peer) threads
  | admitted {peer record table}
      (hfree : ∀ earlier ∈ threads.connections, earlier.isPending = false)
      (h : threads.slots.table.allocate peer = .ok (record, table)) :
      Moves host threads (.accept peer)
        { threads with
          slots := ⟨table, threads.slots.leases ++ [some record]⟩
          connections := threads.connections ++ [{ record := record }] }
  | goes {move lease connection changed state}
      (hconnection : threads.connections[lease]? = some connection)
      (hgoes : Goes lease move connection changed) :
      Moves host threads move
        { threads with connections := threads.connections.set lease changed, state }
  | drop {lease connection} (hconnection : threads.connections[lease]? = some connection)
      (h : connection.canDrop = true) :
      Moves host threads (.drop lease)
        { threads with
          slots := (threads.slots.step (.drop lease)).1
          connections := threads.connections.set lease { connection with isLeased := false } }

variable {host : Capabilities σ} {threads next : Threads σ} {move : Move σ} {lease : Nat}
  {connection changed : Connection}

theorem turn_eq_some_iff {ready : Connection → Bool} {change : Connection → Connection} :
    threads.turn lease ready change = some next ↔
      ∃ connection, threads.connections[lease]? = some connection ∧ ready connection = true ∧
        { threads with connections := threads.connections.set lease (change connection) } =
          next := by
  unfold turn
  cases threads.connections[lease]? with
  | none => simp
  | some connection => cases hready : ready connection <;> simp [hready]

theorem moves_of_step (h : threads.step host move = some next) : Moves host threads move next := by
  cases move with
  | accept peer =>
      simp only [step, LeasedTable.step] at h
      split at h
      · cases h
      next hfree =>
        have hdone : ∀ earlier ∈ threads.connections, earlier.isPending = false := by
          simpa using hfree
        cases ha : threads.slots.table.allocate peer with
        | error error =>
            simp only [ha, Option.some.injEq] at h
            exact h ▸ .rejected hdone ha
        | ok given =>
            simp only [ha, Option.some.injEq] at h
            exact h ▸ .admitted hdone ha
  | exchange lease record writes =>
      obtain ⟨connection, hconnection, h⟩ := Option.bind_eq_some_iff.mp h
      obtain ⟨between, hturn, h⟩ := Option.bind_eq_some_iff.mp h
      obtain ⟨found, hfound, hready, rfl⟩ := turn_eq_some_iff.mp hturn
      obtain rfl := Option.some.inj (hconnection.symm.trans hfound)
      obtain rfl := Option.some.inj h
      refine .goes hconnection (.exchange (of_decide_eq_true hready) ?_)
      split
      · exact .inl rfl
      · exact .inr rfl
  | breakOff lease state =>
      obtain ⟨between, hturn, h⟩ := Option.bind_eq_some_iff.mp h
      obtain ⟨connection, hconnection, hready, rfl⟩ := turn_eq_some_iff.mp hturn
      obtain rfl := Option.some.inj h
      exact .goes hconnection (.breakOff (of_decide_eq_true hready))
  | drop lease =>
      obtain ⟨between, hturn, h⟩ := Option.bind_eq_some_iff.mp h
      obtain ⟨connection, hconnection, hready, rfl⟩ := turn_eq_some_iff.mp hturn
      obtain rfl := Option.some.inj h
      exact .drop hconnection hready
  | handOver lease | giveUp lease | finish lease =>
      obtain ⟨connection, hconnection, hready, rfl⟩ := turn_eq_some_iff.mp h
      refine .goes hconnection ?_
      constructor
      exact of_decide_eq_true hready
  | close lease =>
      obtain ⟨connection, hconnection, hready, rfl⟩ := turn_eq_some_iff.mp h
      exact .goes hconnection (.close hready)

namespace Goes

theorem lease?_eq (h : Goes lease move connection changed) : move.lease? = some lease := by
  cases h <;> rfl

theorem drops_eq_false (h : Goes lease move connection changed) (other : Nat) :
    move.drops other = false := by
  cases h <;> rfl

/-- Record and lease stay with the connection. -/
theorem kept (h : Goes lease move connection changed) :
    changed.record = connection.record ∧ changed.isLeased = connection.isLeased := by
  cases h <;> exact ⟨rfl, rfl⟩

theorem isOpen_of_changed (h : Goes lease move connection changed)
    (hopen : changed.isOpen = true) : connection.isOpen = true := by
  cases h with
  | close _ => cases hopen
  | _ => exact hopen

theorem proper (h : Goes lease move connection changed) (hproper : connection.Proper) :
    changed.Proper := by
  cases h with
  | handOver hold => exact ⟨fun _ => hproper.whole (.inl hold), nofun⟩
  | giveUp _ => exact ⟨by simp, nofun⟩
  | exchange hold hstage =>
      have hwhole := hproper.whole (.inr hold)
      exact ⟨fun _ => hwhole, fun _ _ => hwhole.2⟩
  | finish hold | breakOff hold =>
      have hwhole := hproper.whole (.inr hold)
      exact ⟨fun _ => hwhole, fun _ _ => hwhole.2⟩
  | close hclose =>
      have hstage := (Connection.canClose_iff.mp hclose).2
      refine ⟨fun hwhole => ?_, nofun⟩
      rcases hwhole with hwhole | hwhole <;> simp_all

end Goes

theorem proper_dropped (h : connection.canDrop = true) :
    ({ connection with isLeased := false } : Connection).Proper := by
  obtain ⟨-, ⟨hstage, hclosed⟩ | hstage⟩ := Connection.canDrop_iff.mp h
  · exact ⟨by simp [hstage], by simp [hclosed]⟩
  · exact ⟨by simp [hstage], by simp [hstage]⟩

/-! ## What the slots and the connections have in common -/

/-- The leases are those of the connections that have theirs, and what is left of connections fits
into the slots, each in one of its own. -/
structure Tied (capacity : Nat) (threads : Threads σ) : Prop where
  orderly : threads.slots.Orderly capacity
  leases_eq : threads.slots.leases = threads.connections.map Connection.held?
  proper : ∀ connection ∈ threads.connections, connection.Proper
  fits : (threads.connections.countP fun connection => !connection.isGone) ≤ capacity
  apart : ∀ (first second : Nat) (connection other : Connection),
    threads.connections[first]? = some connection → threads.connections[second]? = some other →
      connection.isGone = false → other.isGone = false →
        connection.record.slot = other.record.slot → first = second

namespace Tied

variable {capacity : Nat}

theorem new (capacity : Nat) (state : σ) : Tied capacity (Threads.new capacity state) where
  orderly := .new capacity
  leases_eq := rfl
  proper := by simp [Threads.new]
  fits := Nat.zero_le capacity
  apart := by simp [Threads.new]

theorem lease?_eq (h : Tied capacity threads)
    (hconnection : threads.connections[lease]? = some connection)
    (hleased : connection.isLeased = true) :
    threads.slots.lease? lease = some connection.record := by
  rw [LeasedTable.lease?, h.leases_eq, List.getElem?_map, hconnection]
  simp [Connection.held?, hleased]

theorem countP_isLeased (h : Tied capacity threads) :
    threads.connections.countP Connection.isLeased = threads.slots.table.activeCount := by
  rw [h.orderly.activeCount_eq, LeasedTable.length_liveLeases, h.leases_eq, List.countP_map]
  refine List.countP_congr fun connection _ => ?_
  simp [Connection.held?]

/-- A slot is held by the connection that has the lease on it, and by no other. -/
theorem record?_eq_some_iff (h : Tied capacity threads) (slot : Nat) (record : ConnectionRecord) :
    threads.slots.table.record? slot = some record ↔ record.slot = slot ∧
      ∃ connection ∈ threads.connections,
        connection.isLeased = true ∧ connection.record = record := by
  constructor
  · intro hrecord
    obtain ⟨hslot, lease, hlive⟩ := h.orderly.backed hrecord
    rw [LeasedTable.lease?, h.leases_eq, List.getElem?_map, Option.join_eq_some_iff,
      Option.map_eq_some_iff] at hlive
    obtain ⟨connection, hconnection, hheld⟩ := hlive
    refine ⟨hslot, connection, List.mem_of_getElem? hconnection, ?_⟩
    simpa [Connection.held?] using hheld
  · rintro ⟨rfl, connection, hmem, hleased, rfl⟩
    obtain ⟨lease, hconnection⟩ := List.mem_iff_getElem?.mp hmem
    exact h.orderly.record?_eq (h.lease?_eq hconnection hleased)

/-- Less of a connection takes no more room. -/
theorem countP_set_le (hconnection : threads.connections[lease]? = some connection)
    (hless : changed.isGone = false → connection.isGone = false) :
    ((threads.connections.set lease changed).countP fun connection => !connection.isGone) ≤
      threads.connections.countP fun connection => !connection.isGone := by
  obtain ⟨hlt, rfl⟩ := List.getElem?_eq_some_iff.mp hconnection
  rw [List.countP_set hlt]
  cases hchanged : changed.isGone with
  | true => simp
  | false =>
      have hold := hless hchanged
      have hpos : 0 < threads.connections.countP fun connection => !connection.isGone :=
        List.countP_pos_iff.mpr ⟨_, List.getElem_mem hlt, by simp [hold]⟩
      simp only [hold, Bool.not_false, if_true]
      omega

theorem apart_set (h : Tied capacity threads)
    (hconnection : threads.connections[lease]? = some connection)
    (hrecord : changed.record = connection.record)
    (hless : changed.isGone = false → connection.isGone = false)
    (first second : Nat) (one other : Connection)
    (hfirst : (threads.connections.set lease changed)[first]? = some one)
    (hsecond : (threads.connections.set lease changed)[second]? = some other)
    (hone : one.isGone = false) (hother : other.isGone = false)
    (hslot : one.record.slot = other.record.slot) : first = second := by
  -- Whatever stands at a place now, with anything left, stood there before with the same record.
  have hbefore : ∀ (place : Nat) (now : Connection),
      (threads.connections.set lease changed)[place]? = some now → now.isGone = false →
        ∃ old, threads.connections[place]? = some old ∧ old.isGone = false ∧
          old.record = now.record := by
    intro place now hnow hgone
    by_cases hplace : lease = place
    · subst hplace
      obtain ⟨hlt, -⟩ := List.getElem?_eq_some_iff.mp hconnection
      obtain rfl : changed = now := by simpa [hlt] using hnow
      exact ⟨connection, hconnection, hless hgone, hrecord.symm⟩
    · rw [List.getElem?_set_ne hplace] at hnow
      exact ⟨now, hnow, hgone, rfl⟩
  obtain ⟨old, hold, holdGone, holdRecord⟩ := hbefore first one hfirst hone
  obtain ⟨older, holder, holderGone, holderRecord⟩ := hbefore second other hsecond hother
  exact h.apart first second old older hold holder holdGone holderGone
    (by rw [holdRecord, holderRecord, hslot])

theorem proper_set (h : Tied capacity threads) (hchanged : changed.Proper) :
    ∀ connection ∈ threads.connections.set lease changed, connection.Proper := by
  intro connection hmem
  rcases List.mem_or_eq_of_mem_set hmem with hold | rfl
  · exact h.proper connection hold
  · exact hchanged

/-- A connection that is admitted finds nothing left of those that had its slot. -/
theorem isGone_of_slot_eq (h : Tied capacity threads)
    (hfree : ∀ earlier ∈ threads.connections, earlier.isPending = false)
    {peer : Option IpAddress} {record : ConnectionRecord} {table : SlotTable}
    (ha : threads.slots.table.allocate peer = .ok (record, table)) {earlier : Connection}
    (hmem : earlier ∈ threads.connections) (hslot : earlier.record.slot = record.slot) :
    earlier.isGone = true := by
  refine Bool.of_not_eq_false fun hgone => ?_
  have hleased := (h.proper earlier hmem).isLeased (hfree earlier hmem) hgone
  have hheld : threads.slots.table.record? record.slot = some earlier.record :=
    (h.record?_eq_some_iff ..).mpr ⟨hslot, earlier, hmem, hleased, rfl⟩
  rw [SlotTable.record?_of_allocate ha] at hheld
  cases hheld

theorem admitted (h : Tied capacity threads)
    (hfree : ∀ earlier ∈ threads.connections, earlier.isPending = false)
    {peer : Option IpAddress} {record : ConnectionRecord} {table : SlotTable}
    (ha : threads.slots.table.allocate peer = .ok (record, table)) :
    Tied capacity { threads with
      slots := ⟨table, threads.slots.leases ++ [some record]⟩
      connections := threads.connections ++ [{ record := record }] } := by
  have hnew : ∀ {place : Nat} {connection : Connection},
      (threads.connections ++ [{ record := record }])[place]? = some connection →
        threads.connections[place]? = some connection ∨
          place = threads.connections.length ∧ connection = { record := record } := by
    intro place connection hconnection
    rw [List.getElem?_append, List.getElem?_singleton] at hconnection
    split at hconnection
    · exact .inl hconnection
    · split at hconnection
      · exact .inr ⟨by omega, (Option.some.inj hconnection).symm⟩
      · cases hconnection
  refine ⟨h.orderly.performs (.leased ha) rfl, ?_, ?_, ?_, ?_⟩
  · simp [h.leases_eq, Connection.held?]
  · intro connection hmem
    rcases List.mem_append.mp hmem with hold | hlast
    · exact h.proper connection hold
    · rw [List.mem_singleton.mp hlast]
      exact ⟨fun _ => ⟨rfl, rfl⟩, nofun⟩
  · -- All that is left of earlier connections is leased, and there is room for one lease more.
    have hleft : (threads.connections.countP fun connection => !connection.isGone) ≤
        threads.connections.countP Connection.isLeased := by
      refine List.countP_mono_left fun connection hmem hgone => ?_
      exact (h.proper connection hmem).isLeased (hfree connection hmem) (by simpa using hgone)
    have hroom : threads.slots.table.activeCount < capacity :=
      (h.orderly.allocate_isOk_iff peer).mp ⟨record, table, ha⟩
    rw [h.countP_isLeased] at hleft
    rw [List.countP_append, List.countP_singleton]
    exact Nat.lt_of_le_of_lt hleft hroom
  · intro first second connection other hfirst hsecond hgone hother hslot
    have hnone : ∀ {place : Nat} {earlier : Connection},
        threads.connections[place]? = some earlier → earlier.isGone = false →
          earlier.record.slot ≠ record.slot := by
      intro place earlier hearlier hleft hsame
      have hgone := h.isGone_of_slot_eq hfree ha (List.mem_of_getElem? hearlier) hsame
      exact Bool.false_ne_true (hleft.symm.trans hgone)
    rcases hnew hfirst with hold | ⟨hlast, rfl⟩ <;> rcases hnew hsecond with hold' | ⟨hlast', rfl⟩
    · exact h.apart first second connection other hold hold' hgone hother hslot
    · exact absurd hslot (hnone hold hgone)
    · exact absurd hslot.symm (hnone hold' hother)
    · exact hlast.trans hlast'.symm

theorem goes (h : Tied capacity threads) (state : σ)
    (hconnection : threads.connections[lease]? = some connection)
    (hgoes : Goes lease move connection changed) :
    Tied capacity { threads with connections := threads.connections.set lease changed, state } := by
  obtain ⟨hrecord, hleased⟩ := hgoes.kept
  have hless : changed.isGone = false → connection.isGone = false := by
    rw [Connection.isGone_eq_false_iff, Connection.isGone_eq_false_iff, hleased]
    exact Or.imp_left hgoes.isOpen_of_changed
  have hheld : changed.held? = connection.held? := by
    rw [Connection.held?, Connection.held?, hleased, hrecord]
  refine ⟨h.orderly, ?_,
    h.proper_set (hgoes.proper (h.proper _ (List.mem_of_getElem? hconnection))),
    Nat.le_trans (countP_set_le hconnection hless) h.fits, h.apart_set hconnection hrecord hless⟩
  obtain ⟨hlt, hget⟩ := List.getElem?_eq_some_iff.mp hconnection
  rw [List.map_set, hheld, ← hget, ← List.getElem_map Connection.held?, List.set_getElem_self]
  · exact h.leases_eq
  · simpa using hlt

theorem dropped (h : Tied capacity threads)
    (hconnection : threads.connections[lease]? = some connection)
    (hdrop : connection.canDrop = true) :
    Tied capacity { threads with
      slots := (threads.slots.step (.drop lease)).1
      connections := threads.connections.set lease { connection with isLeased := false } } := by
  obtain ⟨hleased, -⟩ := Connection.canDrop_iff.mp hdrop
  obtain ⟨table, hstep⟩ := h.orderly.step_drop (h.lease?_eq hconnection hleased)
  have hperforms := LeasedTable.step_performs threads.slots (.drop lease)
  have hless : ({ connection with isLeased := false } : Connection).isGone = false →
      connection.isGone = false := by
    rw [Connection.isGone_eq_false_iff, Connection.isGone_eq_false_iff]
    exact fun _ => .inr hleased
  refine ⟨?_, ?_, h.proper_set (proper_dropped hdrop),
    Nat.le_trans (countP_set_le hconnection hless) h.fits, h.apart_set hconnection rfl hless⟩
  · rw [hstep] at hperforms ⊢
    exact h.orderly.performs hperforms rfl
  · simp only [hstep, h.leases_eq, List.map_set]
    rfl

/-- Every move keeps the slots and the connections together. -/
theorem moves (h : Tied capacity threads) (hmove : Moves host threads move next) :
    Tied capacity next := by
  cases hmove with
  | rejected _ _ => exact h
  | admitted hfree ha => exact h.admitted hfree ha
  | goes hconnection hgoes => exact h.goes _ hconnection hgoes
  | drop hconnection hdrop => exact h.dropped hconnection hdrop

end Tied

/-! ## Slots that are given back -/

/-- What the drop of a connection's lease does to the slots: the slot of the connection, which its
own record held until then, is free, and no other slot is touched. -/
structure Frees (threads next : Threads σ) (connection : Connection) : Prop where
  held : threads.slots.table.record? connection.record.slot = some connection.record
  free : next.slots.table.record? connection.record.slot = none
  others : ∀ slot ≠ connection.record.slot,
    next.slots.table.record? slot = threads.slots.table.record? slot
  active_eq : next.slots.table.activeCount + 1 = threads.slots.table.activeCount

theorem Tied.frees {capacity : Nat} (h : Tied capacity threads)
    (hstep : threads.step host (.drop lease) = some next) :
    ∃ connection, threads.connections[lease]? = some connection ∧ connection.canDrop = true ∧
      next.connections =
        threads.connections.set lease { connection with isLeased := false } ∧
      Frees threads next connection := by
  cases moves_of_step hstep with
  | goes _ hgoes => cases hgoes
  | @drop _ connection hconnection hdrop =>
      obtain ⟨hleased, -⟩ := Connection.canDrop_iff.mp hdrop
      have hlive := h.lease?_eq hconnection hleased
      have hheld := h.orderly.record?_eq hlive
      refine ⟨connection, hconnection, hdrop, rfl, ?_⟩
      obtain ⟨table, hrelease, hslots⟩ := LeasedTable.step_drop_of_held hlive hheld
      have hrecord := SlotTable.record?_release hrelease
      refine ⟨hheld, ?_, fun slot hslot => ?_, ?_⟩
      · rw [hslots, hrecord, if_pos rfl]
      · rw [hslots, hrecord, if_neg hslot]
      · rw [hslots]
        exact (h.orderly.consistent.activeCount_release hrelease).2

/-- No other move frees a slot. -/
theorem record?_kept (hstep : threads.step host move = some next)
    (hdrop : ∀ lease, move ≠ .drop lease) {slot : Nat} {record : ConnectionRecord}
    (hheld : threads.slots.table.record? slot = some record) :
    next.slots.table.record? slot = some record := by
  cases moves_of_step hstep with
  | rejected _ _ | goes _ _ => exact hheld
  | drop _ _ => exact absurd rfl (hdrop _)
  | admitted _ ha =>
      rw [SlotTable.record?_allocate ha, if_neg, hheld]
      rintro rfl
      rw [SlotTable.record?_of_allocate ha] at hheld
      cases hheld

/-! ## Runs -/

theorem run_append (first rest : List (Move σ)) :
    threads.run host (first ++ rest) =
      (threads.run host first).bind fun next => next.run host rest := by
  induction first generalizing threads with
  | nil => rfl
  | cons move first ih =>
      rw [List.cons_append, run, run]
      cases threads.step host move with
      | none => rfl
      | some next => exact ih

/-- What is true at first and kept by every move is true after every run. -/
theorem run_invariant (Holds : List (Move σ) → Threads σ → Prop) {start : Threads σ}
    (hstart : Holds [] start)
    (hmove : ∀ made threads move next, Holds made threads → Moves host threads move next →
      Holds (made ++ [move]) next)
    {moves : List (Move σ)} (h : start.run host moves = some threads) : Holds moves threads := by
  -- The moves made before are part of the statement, as the predicate is about all of them.
  suffices hfrom : ∀ made (before : Threads σ) (moves : List (Move σ)), Holds made before →
      before.run host moves = some threads → Holds (made ++ moves) threads from
    hfrom [] start moves hstart h
  intro made before moves hbefore hrun
  induction moves generalizing made before with
  | nil =>
      obtain rfl := Option.some.inj hrun
      simpa using hbefore
  | cons move moves ih =>
      obtain ⟨next, hnext, hrest⟩ := Option.bind_eq_some_iff.mp hrun
      have hholds := hmove made before move next hbefore (moves_of_step hnext)
      simpa using ih (made ++ [move]) next hholds hrest

theorem tied_run {capacity : Nat} {state : σ} {moves : List (Move σ)}
    (h : (new capacity state).run host moves = some threads) : Tied capacity threads :=
  run_invariant (fun _ => Tied capacity) (.new capacity state)
    (fun _ _ _ _ htied hmove => htied.moves hmove) h

/-! ## The way of one connection -/

/-- The way of a connection: what a move makes of the one with this lease, if there is one. -/
inductive Takes (lease : Nat) : Move σ → Option Connection → Option Connection → Prop where
  | other {move : Move σ} {found} (h : move.lease? ≠ some lease) : Takes lease move found found
  | admitted {peer record} : Takes lease (.accept peer) none (some { record := record })
  | goes {move : Move σ} {connection changed : Connection}
      (h : Goes lease move connection changed) :
      Takes lease move (some connection) (some changed)
  | drop {connection : Connection} (h : connection.canDrop = true) :
      Takes lease (.drop lease) (some connection) (some { connection with isLeased := false })

theorem takes_set {other : Nat} (hconnection : threads.connections[other]? = some connection)
    (hmove : move.lease? = some other)
    (htakes : Takes other move (some connection) (some changed)) (lease : Nat) :
    Takes lease move threads.connections[lease]?
      (threads.connections.set other changed)[lease]? := by
  by_cases hlease : other = lease
  · subst hlease
    obtain ⟨hlt, -⟩ := List.getElem?_eq_some_iff.mp hconnection
    rwa [hconnection, List.getElem?_set_self hlt]
  · rw [List.getElem?_set_ne hlease]
    exact .other (by simpa [hmove] using hlease)

theorem Moves.takes (h : Moves host threads move next) (lease : Nat) :
    Takes lease move threads.connections[lease]? next.connections[lease]? := by
  cases h with
  | rejected _ _ => exact .other nofun
  | admitted _ _ =>
      by_cases hlease : lease = threads.connections.length
      · simpa [hlease] using Takes.admitted
      · rw [List.getElem?_append]
        split
        · exact .other nofun
        next hlt =>
          have hnone : threads.connections[lease]? = none := List.getElem?_eq_none (by omega)
          rw [hnone, List.getElem?_singleton, if_neg (by omega)]
          exact .other nofun
  | goes hconnection hgoes => exact takes_set hconnection hgoes.lease?_eq (.goes hgoes) lease
  | drop hconnection hdrop => exact takes_set hconnection rfl (.drop hdrop) lease

/-- What the moves that were made tell of the connection with a lease, if there is one. -/
structure Recorded (moves : List (Move σ)) (lease : Nat) (connection? : Option Connection) :
    Prop where
  drops_eq : moves.countP (Move.drops lease) = if connection?.all Connection.isLeased then 0 else 1
  closed : ∀ connection ∈ connection?, connection.isOpen = false → .close lease ∈ moves
  abandoned : ∀ connection ∈ connection?, connection.stage = .abandoned → .giveUp lease ∈ moves
  closed_first : ∀ before, before ++ [.drop lease] <+: moves →
    .close lease ∈ before ∨ .giveUp lease ∈ before

namespace Recorded

variable {moves : List (Move σ)} {old new : Option Connection}

theorem start (lease : Nat) : Recorded ([] : List (Move σ)) lease none where
  drops_eq := rfl
  closed := nofun
  abandoned := nofun
  closed_first := by simp

/-- A move that drops no lease leaves the account of drops as it is. -/
theorem concat_keeping (h : Recorded moves lease old) (hdrops : move.drops lease = false)
    (hleased : new.all Connection.isLeased = old.all Connection.isLeased)
    (hclosed : ∀ connection ∈ new, connection.isOpen = false → .close lease ∈ moves ++ [move])
    (habandoned : ∀ connection ∈ new, connection.stage = .abandoned →
      .giveUp lease ∈ moves ++ [move]) :
    Recorded (moves ++ [move]) lease new := by
  refine ⟨?_, hclosed, habandoned, fun before hprefix => ?_⟩
  · rw [List.countP_append, List.countP_singleton, h.drops_eq, hleased, hdrops]
    rfl
  · rcases List.prefix_concat_iff.mp hprefix with heq | hbefore
    · obtain ⟨-, hlast⟩ := List.append_inj' heq rfl
      obtain rfl := List.head_eq_of_cons_eq hlast
      simp [Move.drops] at hdrops
    · exact h.closed_first before hbefore

theorem concat (h : Recorded moves lease old) (htakes : Takes lease move old new) :
    Recorded (moves ++ [move]) lease new := by
  have hbefore : ∀ {made : Move σ}, made ∈ moves → made ∈ moves ++ [move] :=
    fun hmade => List.mem_append_left _ hmade
  cases htakes with
  | other hother =>
      have hdrops : move.drops lease = false := by
        cases move with
        | drop other => simpa [Move.drops, Move.lease?] using hother
        | _ => rfl
      exact h.concat_keeping hdrops rfl (fun _ hmem hopen => hbefore (h.closed _ hmem hopen))
        fun _ hmem hstage => hbefore (h.abandoned _ hmem hstage)
  | admitted => exact h.concat_keeping rfl rfl (by simp) (by simp)
  | @goes _ connection changed hgoes =>
      refine h.concat_keeping (hgoes.drops_eq_false lease) (by simp [hgoes.kept.2]) ?_ ?_
      · rintro _ ⟨⟩ hopen
        cases hgoes with
        | close _ => simp
        | _ => exact hbefore (h.closed connection rfl hopen)
      · rintro _ ⟨⟩ hstage
        cases hgoes with
        | giveUp _ => simp
        | exchange _ hnext => rcases hnext with rfl | rfl <;> cases hstage
        | close _ => exact hbefore (h.abandoned connection rfl hstage)
        | handOver _ | finish _ | breakOff _ => cases hstage
  | @drop connection hdrop =>
      obtain ⟨hleased, hready⟩ := Connection.canDrop_iff.mp hdrop
      have hnone := h.drops_eq
      refine ⟨?_, ?_, ?_, fun before hprefix => ?_⟩
      · simp [List.countP_append, Move.drops, hnone, hleased]
      · rintro _ ⟨⟩ hopen
        exact hbefore (h.closed connection rfl hopen)
      · rintro _ ⟨⟩ hstage
        exact hbefore (h.abandoned connection rfl hstage)
      · rcases List.prefix_concat_iff.mp hprefix with heq | hearlier
        · obtain ⟨rfl, -⟩ := List.append_inj' heq rfl
          exact hready.imp (fun hserved => h.closed connection rfl hserved.2)
            (h.abandoned connection rfl)
        · exact h.closed_first before hearlier

end Recorded

theorem recorded_run {capacity : Nat} {state : σ} {moves : List (Move σ)}
    (h : (new capacity state).run host moves = some threads) (lease : Nat) :
    Recorded moves lease threads.connections[lease]? :=
  run_invariant (fun moves threads => Recorded moves lease threads.connections[lease]?)
    (.start lease) (fun _ _ _ _ hrecorded hmove => hrecorded.concat (hmove.takes lease)) h

/-! ## Every connection comes to its end -/

/-- The moves that remain to a connection if nothing more is read from it. -/
def remaining (lease : Nat) (connection : Connection) : List (Move σ) :=
  let ending : List (Move σ) := (if connection.isOpen then [.close lease] else []) ++
    if connection.isLeased then [.drop lease] else []
  match connection.stage with
  | .accepted => [.handOver lease, .finish lease] ++ ending
  | .serving => .finish lease :: ending
  | .served | .abandoned => ending

/-- Whatever stage a connection is at, its own thread can take it to its end. -/
theorem run_remaining (host : Capabilities σ) (hproper : connection.Proper)
    (hconnection : threads.connections[lease]? = some connection) :
    ∃ next, threads.run host (remaining lease connection) = some next ∧
      ∃ last, next.connections[lease]? = some last ∧ last.isGone = true := by
  obtain ⟨hlt, hget⟩ := List.getElem?_eq_some_iff.mp hconnection
  obtain ⟨record, stage, isOpen, isLeased⟩ := connection
  cases stage with
  | accepted =>
      obtain ⟨rfl, rfl⟩ : isOpen = true ∧ isLeased = true := hproper.whole (.inl rfl)
      simp [remaining, run, step, turn, hlt, hget, Connection.canClose, Connection.canDrop,
        Connection.isGone]
  | serving =>
      obtain ⟨rfl, rfl⟩ : isOpen = true ∧ isLeased = true := hproper.whole (.inr rfl)
      simp [remaining, run, step, turn, hlt, hget, Connection.canClose, Connection.canDrop,
        Connection.isGone]
  | served =>
      have hleased : isOpen = true → isLeased = true := hproper.ordered rfl
      cases isOpen <;> cases isLeased <;>
        simp_all [remaining, run, step, turn, Connection.canClose, Connection.canDrop,
          Connection.isGone]
  | abandoned =>
      cases isOpen <;> cases isLeased <;>
        simp [remaining, run, step, turn, hlt, hget, Connection.canClose, Connection.canDrop,
          Connection.isGone]

/-! ## What the threads keep -/

section Kept

variable {capacity : Nat}

theorem isPending_of_accept {peer : Option IpAddress}
    (h : threads.step host (.accept peer) = some next) :
    ∀ earlier ∈ threads.connections, earlier.isPending = false := by
  cases moves_of_step h with
  | rejected hfree _ | admitted hfree _ => exact hfree
  | goes _ hgoes => cases hgoes

/-- The accepting thread is done with a connection for which no worker could be started only when
nothing is left of it. -/
theorem isGone_of_abandoned {peer : Option IpAddress}
    (h : threads.step host (.accept peer) = some next) (hmem : connection ∈ threads.connections)
    (hstage : connection.stage = .abandoned) : connection.isGone = true := by
  have hpending := isPending_of_accept h connection hmem
  simpa [Connection.isPending, hstage] using hpending

theorem Tied.held (h : Tied capacity threads) (hmem : connection ∈ threads.connections)
    (hopen : connection.isOpen = true) (hstage : connection.stage ≠ .abandoned) :
    threads.slots.table.record? connection.record.slot = some connection.record := by
  have hproper := h.proper connection hmem
  refine (h.record?_eq_some_iff ..).mpr ⟨rfl, connection, hmem, ?_, rfl⟩
  cases hcase : connection.stage with
  | accepted => exact (hproper.whole (.inl hcase)).2
  | serving => exact (hproper.whole (.inr hcase)).2
  | served => exact hproper.ordered hcase hopen
  | abandoned => exact absurd hcase hstage

theorem Tied.exclusive (h : Tied capacity threads) (hmem : connection ∈ threads.connections)
    (hopen : connection.isOpen = true) {record : ConnectionRecord}
    (hrecord : threads.slots.table.record? connection.record.slot = some record) :
    record = connection.record := by
  obtain ⟨hslot, other, hother, hleased, rfl⟩ := (h.record?_eq_some_iff ..).mp hrecord
  obtain ⟨first, hfirst⟩ := List.mem_iff_getElem?.mp hmem
  obtain ⟨second, hsecond⟩ := List.mem_iff_getElem?.mp hother
  obtain rfl := h.apart first second connection other hfirst hsecond
    (Connection.isGone_eq_false_iff.mpr (.inl hopen))
    (Connection.isGone_eq_false_iff.mpr (.inr hleased)) hslot.symm
  rw [Option.some.inj (hfirst.symm.trans hsecond)]

theorem Tied.countP_isOpen_le (h : Tied capacity threads) :
    threads.connections.countP Connection.isOpen ≤ capacity := by
  refine Nat.le_trans (List.countP_mono_left fun connection _ hopen => ?_) h.fits
  simp [Connection.isGone, hopen]

theorem Tied.unused (h : Tied capacity threads) {peer : Option IpAddress}
    (hstep : threads.step host (.accept peer) = some next)
    (hnext : next.connections = threads.connections ++ [connection]) {earlier : Connection}
    (hmem : earlier ∈ threads.connections) (hslot : earlier.record.slot = connection.record.slot) :
    earlier.isGone = true := by
  cases moves_of_step hstep with
  | rejected _ _ => simp at hnext
  | goes _ hgoes => cases hgoes
  | admitted hfree ha =>
      obtain rfl : { record := _ } = connection := by simpa using hnext
      exact h.isGone_of_slot_eq hfree ha hmem hslot

/-- The drops of leases that a run is made of free slots, each that of its connection. -/
theorem frees_of_run {state : σ} {before later : List (Move σ)}
    (h : (new capacity state).run host (before ++ .drop lease :: later) = some threads) :
    ∃ earlier next connection, (new capacity state).run host before = some earlier ∧
      earlier.step host (.drop lease) = some next ∧
      earlier.connections[lease]? = some connection ∧
      (connection.isOpen = false ∨ connection.stage = .abandoned) ∧
      Frees earlier next connection := by
  rw [run_append] at h
  obtain ⟨earlier, hearlier, hrest⟩ := Option.bind_eq_some_iff.mp h
  obtain ⟨next, hnext, -⟩ := Option.bind_eq_some_iff.mp hrest
  obtain ⟨connection, hconnection, hdrop, -, hfrees⟩ := (tied_run hearlier).frees hnext
  exact ⟨earlier, next, connection, hearlier, hnext, hconnection,
    (Connection.canDrop_iff.mp hdrop).2.imp_left And.right, hfrees⟩

theorem Tied.ends (h : Tied capacity threads) (host : Capabilities σ)
    (hlt : lease < threads.connections.length) :
    ∃ later next, (∀ move ∈ later, move.lease? = some lease) ∧
      threads.run host later = some next ∧
      ∃ last, next.connections[lease]? = some last ∧ last.isGone = true := by
  obtain ⟨next, hrun, hend⟩ :=
    run_remaining host (h.proper _ (List.getElem_mem hlt)) (List.getElem?_eq_getElem hlt)
  refine ⟨_, next, ?_, hrun, hend⟩
  rw [remaining]
  cases threads.connections[lease].stage <;> cases threads.connections[lease].isOpen <;>
    cases threads.connections[lease].isLeased <;> simp [Move.lease?]

end Kept

/-! ## Every state that is reached -/

/-- What is true of slots and connections after some moves, of which each admitted connection makes
at most one that frees its slot. -/
structure Guarded (host : Capabilities σ) (capacity : Nat) (start : Threads σ)
    (moves : List (Move σ)) (threads : Threads σ) : Prop where
  /-- As long as its stream is open, a connection has its slot. Only if no worker could be started
  for it may the lease have gone before the stream. -/
  held : ∀ connection ∈ threads.connections, connection.isOpen = true →
    connection.stage ≠ .abandoned →
      threads.slots.table.record? connection.record.slot = some connection.record
  abandoned : ∀ (lease : Nat) connection, threads.connections[lease]? = some connection →
    connection.stage = .abandoned → .giveUp lease ∈ moves
  /-- Whatever happened to its own lease, nobody else has the slot of an open stream. -/
  exclusive : ∀ connection ∈ threads.connections, connection.isOpen = true →
    ∀ record, threads.slots.table.record? connection.record.slot = some record →
      record = connection.record
  distinct : ∀ (first second : Nat) connection other,
    threads.connections[first]? = some connection → threads.connections[second]? = some other →
      connection.isOpen = true → other.isOpen = true →
        connection.record.slot = other.record.slot → first = second
  open_le : threads.connections.countP Connection.isOpen ≤ capacity
  /-- A slot is given only to a connection that finds nothing left of those that had it. -/
  unused : ∀ peer next connection, threads.step host (.accept peer) = some next →
    next.connections = threads.connections ++ [connection] →
      ∀ earlier ∈ threads.connections, earlier.record.slot = connection.record.slot →
        earlier.isGone = true
  /-- The slots are held by the connections that have their leases, and by nobody else. -/
  held_iff : ∀ slot record, threads.slots.table.record? slot = some record ↔
    record.slot = slot ∧ ∃ connection ∈ threads.connections,
      connection.isLeased = true ∧ connection.record = record
  active_eq : threads.slots.table.activeCount = threads.connections.countP Connection.isLeased
  /-- Each drop of a lease that was made freed the slot of its connection, whose stream was closed
  by then unless no worker could be started. -/
  freed : ∀ before lease later, moves = before ++ .drop lease :: later →
    ∃ earlier next connection, start.run host before = some earlier ∧
      earlier.step host (.drop lease) = some next ∧
      earlier.connections[lease]? = some connection ∧
      (connection.isOpen = false ∨ connection.stage = .abandoned) ∧ Frees earlier next connection
  /-- Nothing but the drop of a lease frees a slot. -/
  kept : ∀ move next, threads.step host move = some next → (∀ lease, move ≠ .drop lease) →
    ∀ slot record, threads.slots.table.record? slot = some record →
      next.slots.table.record? slot = some record
  dropped_once : ∀ (lease : Nat) connection, threads.connections[lease]? = some connection →
    moves.countP (Move.drops lease) = if connection.isLeased then 0 else 1
  closed_first : ∀ before lease, before ++ [.drop lease] <+: moves → .giveUp lease ∉ before →
    .close lease ∈ before
  /-- Where no worker could be started, stream and lease are gone before the next connection is
  accepted. -/
  abandoned_gone : ∀ peer next, threads.step host (.accept peer) = some next →
    ∀ connection ∈ threads.connections, connection.stage = .abandoned → connection.isGone = true
  /-- Nobody else is needed for a connection to come to its end. -/
  ends : ∀ lease < threads.connections.length, ∃ later next,
    (∀ move ∈ later, move.lease? = some lease) ∧ threads.run host later = some next ∧
      ∃ last, next.connections[lease]? = some last ∧ last.isGone = true

/-- In whatever order the threads of a server take their steps, a slot is not given out again before
its connection is closed, and every connection gives its slot back once. -/
theorem run_guarded (host : Capabilities σ) (capacity : Nat) (state : σ) (moves : List (Move σ))
    (threads : Threads σ) (h : (new capacity state).run host moves = some threads) :
    Guarded host capacity (new capacity state) moves threads where
  held _ hmem hopen hstage := (tied_run h).held hmem hopen hstage
  abandoned lease connection hconnection :=
    (recorded_run h lease).abandoned connection hconnection
  exclusive _ hmem hopen _ hrecord := (tied_run h).exclusive hmem hopen hrecord
  distinct first second connection other hfirst hsecond hopen hother :=
    (tied_run h).apart first second connection other hfirst hsecond
      (Connection.isGone_eq_false_iff.mpr (.inl hopen))
      (Connection.isGone_eq_false_iff.mpr (.inl hother))
  open_le := (tied_run h).countP_isOpen_le
  unused _ _ _ hstep hnext _ hmem hslot := (tied_run h).unused hstep hnext hmem hslot
  held_iff := (tied_run h).record?_eq_some_iff
  active_eq := (tied_run h).countP_isLeased.symm
  freed := by
    rintro before lease later rfl
    exact frees_of_run h
  kept _ _ hstep hdrop _ _ := record?_kept hstep hdrop
  dropped_once lease connection hconnection := by
    have hdrops := (recorded_run h lease).drops_eq
    simpa [hconnection] using hdrops
  closed_first before lease hprefix hkept :=
    ((recorded_run h lease).closed_first before hprefix).resolve_right hkept
  abandoned_gone _ _ hstep _ hmem hstage := isGone_of_abandoned hstep hmem hstage
  ends _ hlt := (tied_run h).ends host hlt

/-- One slot: the worker of the first connection closes its stream, but the slot is given out again
only after the lease was dropped. For the connection that gets it then no worker can be started. -/
theorem run_guarded_one_slot :
    let host : Capabilities Unit := (Script.mk [] .echo).capabilities
    let moves : List (Move Unit) := [.accept none, .handOver 0, .exchange 0 [1, 2] {}, .accept none,
      .finish 0, .close 0, .accept none, .drop 0, .accept none, .giveUp 1, .drop 1]
    ∃ threads, (new 1 ()).run host moves = some threads ∧
      threads.connections = [⟨.new 0 none, .served, false, false⟩,
        ⟨.new 0 none, .abandoned, true, false⟩] ∧
      threads.slots.table.activeCount = 0 ∧ Guarded host 1 (new 1 ()) moves threads := by
  intro host moves
  have hrun : (((new 1 ()).run host moves).map fun threads =>
      (threads.connections, threads.slots.table.activeCount)) =
      some ([⟨.new 0 none, .served, false, false⟩, ⟨.new 0 none, .abandoned, true, false⟩], 0) := by
    decide +kernel
  obtain ⟨threads, hthreads, heq⟩ := Option.map_eq_some_iff.mp hrun
  obtain ⟨hconnections, hactive⟩ := Prod.mk.inj heq
  exact ⟨threads, hthreads, hconnections, hactive,
    run_guarded host 1 () moves threads hthreads⟩

end Threads

end SlotServer.Server
