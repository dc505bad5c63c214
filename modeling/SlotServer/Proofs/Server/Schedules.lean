import SlotServer.Proofs.Server.Leases
import SlotServer.Proofs.Server.Threads

/-!
# Schedules of threads

Serving a connection to its end is one way in which its worker can take its steps, and a session is
one order in which the threads of a server can take theirs. So what is true of threads in any order
is true of workers that serve from scripts, and of sessions.
-/

namespace SlotServer.Server

variable {σ : Type} {host : Capabilities σ} {threads : Threads σ} {lease : Nat}
  {record : ConnectionRecord}

namespace Threads

/-- A connection as its worker serves it. -/
def serving (record : ConnectionRecord) : Connection :=
  { record, stage := .serving }

/-- What a worker leaves to be closed and dropped. -/
def served (record : ConnectionRecord) : Connection :=
  { record, stage := .served }

theorem set_self {connection : Connection} (h : threads.connections[lease]? = some connection) :
    threads.connections.set lease connection = threads.connections := by
  obtain ⟨hlt, rfl⟩ := List.getElem?_eq_some_iff.mp h
  exact List.set_getElem_self hlt

/-- A worker that gets its acknowledgement sent goes on, and ends serving otherwise. -/
theorem step_exchange (h : threads.connections[lease]? = some (serving record)) (bytes : Bytes)
    (writes : WriteScript) :
    threads.step host (.exchange lease bytes writes) =
      some (match (Worker.handle host record bytes writes threads.state).value.1 with
        | none => { threads with
            state := (Worker.handle host record bytes writes threads.state).state }
        | some _ => { threads with
            connections := threads.connections.set lease (served record)
            state := (Worker.handle host record bytes writes threads.state).state }) := by
  have hself := set_self h
  simp only [step, turn, h, serving, served] at hself ⊢
  cases hvalue : (Worker.handle host record bytes writes threads.state).value.1 with
  | none => simp [hvalue, hself]
  | some fault => simp [hvalue]

/-! ## One worker -/

/-- The moves of a worker that receives and answers by scripts. -/
def moves (host : Capabilities σ) (lease : Nat) (record : ConnectionRecord) :
    List Transfer.Piece → WriteScript → σ → List (Move σ)
  | [], _, _ => [.finish lease]
  | piece :: pieces, writes, state =>
    let handled := Worker.handle host record piece.bytes writes state
    .exchange lease piece.bytes writes ::
      match handled.value with
      | (some _, _) => []
      | (none, writes) => moves host lease record pieces writes handled.state

/-- A worker whose moves nobody comes between does to the machine what serving does. -/
theorem run_moves (intake : Transfer.Intake) (pieces : List Transfer.Piece) (writes : WriteScript)
    (h : threads.connections[lease]? = some (serving record)) :
    threads.run host (moves host lease record pieces writes threads.state) =
      some { threads with
        connections := threads.connections.set lease (served record)
        state := (Worker.servePieces host record intake pieces writes threads.state).state } := by
  induction pieces generalizing threads writes with
  | nil => simp [moves, run, step, turn, h, serving, served, Worker.servePieces]
  | cons piece pieces ih =>
      rw [moves, run, step_exchange h, Worker.servePieces]
      rcases (Worker.handle host record piece.bytes writes threads.state) with
        ⟨⟨_ | fault, left⟩, state, trace⟩
      · exact ih left h
      · rfl

/-- The moves of a worker that serves what is left of its connection, closes the stream and drops
its lease. -/
def leaving (host : Capabilities σ) (lease : Nat) (record : ConnectionRecord) (bufferSize : Nat)
    (reads : ReadScript) (writes : WriteScript) (state : σ) : List (Move σ) :=
  moves host lease record (Transfer.intake bufferSize reads).pieces writes state ++
    [.close lease, .drop lease]

theorem run_leaving (bufferSize : Nat) (reads : ReadScript) (writes : WriteScript)
    (h : threads.connections[lease]? = some (serving record)) :
    threads.run host (leaving host lease record bufferSize reads writes threads.state) =
      some {
        slots := (threads.slots.step (.drop lease)).1
        connections := threads.connections.set lease
          { record, stage := .served, isOpen := false, isLeased := false }
        state := (Worker.serve host record bufferSize reads writes threads.state).state } := by
  obtain ⟨hlt, -⟩ := List.getElem?_eq_some_iff.mp h
  rw [leaving, run_append, run_moves (Transfer.intake bufferSize reads) _ writes h]
  simp [run, step, turn, hlt, served, Connection.canClose, Connection.canDrop, Worker.serve]

/-! ## Sessions -/

/-- The moves by which a worker serves pieces to a client that takes every reply. -/
def exchanges (lease : Nat) (pieces : List Transfer.Piece) : List (Move σ) :=
  pieces.map fun piece => .exchange lease piece.bytes {}

theorem run_exchanges (client : Served) (pieces : List Transfer.Piece)
    (h : threads.connections[client.lease]? = some (serving client.record)) :
    threads.run host (exchanges client.lease pieces) =
      some { threads with
        state := (Session.servePieces host client threads.state pieces).state } := by
  induction pieces generalizing threads client with
  | nil => rfl
  | cons piece pieces ih =>
      let handled := Worker.handle host client.record piece.bytes {} threads.state
      let next : Threads σ := { threads with state := handled.state }
      have hnext : next.connections[client.lease]? = some (serving client.record) := h
      rw [exchanges, List.map_cons, run, step_exchange h, Session.handle_value,
        Session.servePieces]
      exact ih { client with
        processed := client.processed + 1
        unread := client.unread ++ [handled.trace.replies.flatten] }
        hnext

section Accepting

variable {peer : Option IpAddress} (hfree : ∀ connection ∈ threads.connections,
  connection.isPending = false)

include hfree

theorem run_rejected {error : SlotError}
    (h : threads.slots.table.allocate peer = .error error) :
    threads.run host [.accept peer] = some threads := by
  have hany : threads.connections.any Connection.isPending = false := by simpa using hfree
  simp [run, step, hany, LeasedTable.step, h]

theorem run_admitted {table : SlotTable}
    (h : threads.slots.table.allocate peer = .ok (record, table)) :
    threads.run host [.accept peer, .handOver threads.connections.length] =
      some { threads with
        slots := ⟨table, threads.slots.leases ++ [some record]⟩
        connections := threads.connections ++ [serving record] } := by
  have hany : threads.connections.any Connection.isPending = false := by simpa using hfree
  simp [run, step, turn, hany, LeasedTable.step, h, serving]

end Accepting

/-- Threads that have come as far as a session: every client that is served has its worker, and the
accepting thread waits for the next. -/
structure Follows (session : Session σ) (threads : Threads σ) : Prop where
  slots_eq : threads.slots = session.slots
  numbers_eq : threads.connections.length = threads.slots.leases.length
  state_eq : threads.state = session.state
  served : ∀ name client, session.client? name = some (.served client) →
    threads.connections[client.lease]? = some (serving client.record)
  waiting : ∀ connection ∈ threads.connections, connection.isPending = false

namespace Follows

variable {session : Session σ} {name : String} {client : Served}

theorem new (address : SocketAddress) (reachable : Bool) (config : Config) (state : σ) :
    Follows (.new address reachable config state)
      (Threads.new config.maxConnections.toNat state) where
  slots_eq := rfl
  numbers_eq := rfl
  state_eq := rfl
  served := nofun
  waiting := by simp [Threads.new]

/-- Where the served clients keep their leases, the workers are where they were. -/
theorem of_served {next : Session σ} {state : σ} (h : Follows session threads)
    (hslots : next.slots = session.slots) (hstate : state = next.state)
    (hserved : ∀ name client, next.client? name = some (.served client) →
      ∃ old, session.client? name = some (.served old) ∧ client.held = old.held) :
    Follows next { threads with state } where
  slots_eq := h.slots_eq.trans hslots.symm
  numbers_eq := h.numbers_eq
  state_eq := hstate
  served := by
    intro name client hclient
    obtain ⟨old, hold, hheld⟩ := hserved name client hclient
    obtain ⟨hlease, hrecord⟩ := Prod.mk.inj hheld
    rw [hlease, hrecord]
    exact h.served name old hold
  waiting := h.waiting

theorem update {next : Session σ} {state : σ} {old new : Served} (h : Follows session threads)
    (hslots : next.slots = session.slots) (hstate : state = next.state)
    (hclients : next.clients = (session.update name (.served new)).clients)
    (hclient : session.client? name = some (.served old)) (hheld : new.held = old.held) :
    Follows next { threads with state } := by
  refine h.of_served hslots hstate fun other served hserved => ?_
  rw [Session.client?, hclients] at hserved
  have hupdate := (Session.client?_update session (.served new)).symm.trans hserved
  by_cases hname : other = name
  · subst hname
    obtain rfl : new = served := by simpa [hclient] using hupdate
    exact ⟨old, hclient, hheld⟩
  · rw [if_neg hname] at hupdate
    exact ⟨served, hupdate, rfl⟩

theorem without (h : Follows session threads) : Follows (session.without name) threads := by
  refine h.of_served rfl h.state_eq fun other served hserved => ?_
  rw [Session.client?_without] at hserved
  split at hserved
  · cases hserved
  · exact ⟨served, hserved, rfl⟩

theorem readReply (h : Follows session threads)
    (hclient : session.client? name = some (.served client)) :
    Follows (session.readReply name client).1 threads := by
  unfold Session.readReply
  split
  · exact h
  · exact h.update rfl h.state_eq rfl hclient rfl

/-- What a worker receives it serves by its moves. -/
theorem deliver (h : Follows session threads) (bufferSize : Nat)
    (hclient : session.client? name = some (.served client)) (bytes : Bytes)
    (delivery : Delivery) :
    ∃ moves next, threads.run host moves = some next ∧
      Follows (session.deliver host bufferSize name client bytes delivery).2.session next := by
  have hheld := Session.held_deliver session host bufferSize name client bytes delivery
  let sent := client.pending ++ bytes
  let arrived := sent.length - delivery.heldBack
  let intake := Transfer.intake bufferSize (Transfer.parts delivery.arrivals (sent.take arrived))
  let receiving : Served := { client with pending := sent.drop arrived }
  refine ⟨_, _, run_exchanges receiving intake.pieces (h.served name client hclient),
    h.update rfl ?_ rfl hclient hheld⟩
  rw [h.state_eq]
  rfl

theorem connect {peer : Option IpAddress} {progress : Progress σ} (h : Follows session threads)
    (hname : session.client? name = none)
    (hconnects : Session.Connects session name peer progress) :
    ∃ moves next, threads.run host moves = some next ∧ Follows progress.session next := by
  have hslots := h.slots_eq
  cases hconnects with
  | unreachable _ | refused _ _ => exact ⟨[], threads, rfl, h⟩
  | turnedAway _ _ ha =>
      rw [← hslots] at ha
      refine ⟨_, _, run_rejected h.waiting ha, h.of_served rfl h.state_eq ?_⟩
      intro other served hserved
      by_cases hother : other = name
      · subst hother
        rw [Session.client?_connected_self session _ hname] at hserved
        cases hserved
      · rw [Session.client?_connected session _ hother] at hserved
        exact ⟨served, hserved, rfl⟩
  | @admitted record table _ _ ha =>
      rw [← hslots] at ha
      refine ⟨_, _, run_admitted h.waiting ha, ?_⟩
      refine ⟨?_, ?_, h.state_eq, ?_, ?_⟩
      · rw [hslots]
      · simp [h.numbers_eq]
      · intro other served hserved
        by_cases hother : other = name
        · subst hother
          have hself := (Session.client?_connected_self session _ hname).symm.trans hserved
          obtain rfl := Client.served.inj (Option.some.inj hself)
          simp [← hslots, ← h.numbers_eq]
        · have hold := (Session.client?_connected session _ hother).symm.trans hserved
          have hconnection := h.served other served hold
          obtain ⟨hlt, -⟩ := List.getElem?_eq_some_iff.mp hconnection
          exact (List.getElem?_append_left hlt).trans hconnection
      · intro connection hmem
        rcases List.mem_append.mp hmem with hbefore | hnew
        · exact h.waiting connection hbefore
        · obtain rfl := List.mem_singleton.mp hnew
          rfl

theorem leave {capacity : Nat} (h : Follows session threads)
    (haccounted : session.Accounted capacity) (bufferSize : Nat)
    (hclient : session.client? name = some (.served client)) (reads : ReadScript)
    (writes : WriteScript) :
    ∃ moves next, threads.run host moves = some next ∧
      Follows (session.leave host bufferSize name client reads writes).session next := by
  obtain ⟨table, hdrop⟩ := haccounted.orderly.step_drop (haccounted.lease?_eq hclient)
  refine ⟨_, _, run_leaving bufferSize reads writes (h.served name client hclient), ?_, ?_, ?_, ?_,
    ?_⟩
  · rw [h.slots_eq]
    rfl
  · simp [h.slots_eq, hdrop, h.numbers_eq]
  · rw [h.state_eq]
    rfl
  · intro other served hserved
    rw [Session.client?_leave] at hserved
    split at hserved
    next => cases hserved
    next hother =>
      -- The leases of two clients differ, so the other client's worker is left alone.
      have hlease : client.lease ≠ served.lease := by
        intro heq
        have hmem := (Session.mem_clients_iff haccounted.names_nodup).mpr hserved
        have hleft := (Session.mem_clients_iff haccounted.names_nodup).mpr hclient
        exact hother (Session.name_eq_of_lease_eq haccounted.leases_nodup hmem hleft heq.symm)
      rw [List.getElem?_set_ne hlease]
      exact h.served other served hserved
  · intro connection hmem
    rcases List.mem_or_eq_of_mem_set hmem with hold | rfl
    · exact h.waiting connection hold
    · rfl

theorem step {capacity : Nat} (h : Follows session threads)
    (haccounted : session.Accounted capacity) (bufferSize : Nat) {step : Step}
    (hrelease : ∀ slot, step ≠ .release slot)
    (hfresh : ∀ name ∈ step.connecting?, session.client? name = none) :
    ∃ moves next, threads.run host moves = some next ∧
      Follows (session.step host bufferSize step).session next := by
  have hsteps := Session.step_steps session host bufferSize step
  generalize session.step host bufferSize step = progress at hsteps
  cases hsteps with
  | connect hconnects => exact h.connect (hfresh _ rfl) hconnects
  | nothing _ => exact ⟨[], threads, rfl, h⟩
  | givenUp _ _ _ => exact ⟨[], threads, rfl, h.without⟩
  | exchange _ hclient hsent hread =>
      subst hsent hread
      obtain ⟨moves, next, hrun, hnext⟩ := h.deliver bufferSize hclient _ _
      refine ⟨moves, next, hrun, hnext.readReply ?_⟩
      simp [Session.client?_deliver, hclient]
  | leave _ _ hclient => exact h.leave haccounted bufferSize hclient _ _
  | release => exact absurd rfl (hrelease _)
  | stop _ =>
      exact ⟨[], threads, rfl, h.of_served rfl h.state_eq fun _ served hserved =>
        ⟨served, hserved, rfl⟩⟩

theorem reached {capacity : Nat} (h : Follows session threads)
    (haccounted : session.Accounted capacity) (bufferSize : Nat) {steps : List Step}
    (hrelease : ∀ slot, .release slot ∉ steps) (hfresh : session.Fresh host bufferSize steps) :
    ∃ moves next, threads.run host moves = some next ∧
      Follows (session.reached host bufferSize steps) next := by
  induction steps generalizing session threads with
  | nil => exact ⟨[], threads, rfl, h⟩
  | cons step steps ih =>
      obtain ⟨hstep, hrest⟩ := hfresh
      obtain ⟨hfirst, hnone⟩ := Step.notMem_cons hrelease
      obtain ⟨moves, between, hrun, hbetween⟩ := h.step haccounted bufferSize hfirst hstep
      obtain ⟨later, next, hlater, hnext⟩ :=
        ih hbetween (haccounted.step host bufferSize hfirst hstep) hnone hrest
      refine ⟨moves ++ later, next, ?_, ?_⟩
      · rw [run_append, hrun]
        exact hlater
      · rw [Session.reached_cons]
        exact hnext

end Follows

/-- Every session without direct releases is one of the orders in which the threads of its server
can take their steps. -/
theorem follows_reached (host : Capabilities σ) (address : SocketAddress) (reachable : Bool)
    (config : Config) (state : σ) {steps : List Step} (hrelease : ∀ slot, .release slot ∉ steps)
    (hfresh : (Session.new address reachable config state).Fresh host config.bufferSize.toNat
      steps) :
    ∃ moves threads,
      (new config.maxConnections.toNat state).run host moves = some threads ∧
        Follows ((Session.new address reachable config state).reached host
          config.bufferSize.toNat steps) threads :=
  (Follows.new address reachable config state).reached
    (.new address reachable config state) _ hrelease hfresh

end Threads

end SlotServer.Server
