import SlotServer.Proofs.Worker.Exchange
import SlotServer.Server.Session

/-!
# Steps of a session

What a step can do is said once, by rules, and the steps of a run are told apart by the clients that
make them. What the server keeps of a client, above all the replies that wait for it, is changed by
steps of this client only.
-/

namespace SlotServer.Server

namespace Step

/-- The client that makes a step, if it is a step of a client. -/
def client? : Step → Option String
  | connect client _ | send client _ _ | read client _ | finish client _ _ | disconnect client _
  | forget client => some client
  | release _ | records | stop => none

/-- Whether a step is made by the client of this name. -/
def isBy (name : String) (step : Step) : Bool :=
  step.client? == some name

/-- The bytes that a step sends. -/
def sent : Step → Bytes
  | send _ bytes _ | finish _ bytes _ => bytes
  | _ => []

theorem isBy_iff (name : String) (step : Step) :
    step.isBy name = true ↔ step.client? = some name :=
  beq_iff_eq

/-- Where a run has no step of some form, its first step has another and the rest has none. -/
theorem notMem_cons {ι : Type} {form : ι → Step} {step : Step} {steps : List Step}
    (h : ∀ i, form i ∉ step :: steps) : (∀ i, step ≠ form i) ∧ ∀ i, form i ∉ steps :=
  ⟨fun i heq => h i (heq ▸ List.mem_cons_self), fun i hmem => h i (List.mem_cons_of_mem step hmem)⟩

theorem ne_of_isBy {name other : String} {step : Step} (h : step.isBy name = false)
    (hother : step.client? = some other) : name ≠ other := by
  rintro rfl
  simp [isBy, hother] at h

end Step

/-- The bytes that a client reads with an answer. -/
def Answer.received : Answer → Bytes
  | reply bytes => bytes
  | _ => []

namespace Session

variable {σ : Type}

/-! ## Runs -/

/-- The session that a run of steps leads to. -/
def reached (host : Capabilities σ) (bufferSize : Nat) (session : Session σ) (steps : List Step) :
    Session σ :=
  session.after (session.run host bufferSize steps)

/-- The course of those steps of a run that a test picks out. -/
def picked (test : Step → Bool) (steps : List Step) (course : List (Progress σ)) :
    List (Progress σ) :=
  ((steps.zip course).filter fun made => test made.1).map Prod.snd

section Runs

variable (host : Capabilities σ) (bufferSize : Nat) (session : Session σ)

theorem reached_nil : session.reached host bufferSize [] = session := rfl

theorem reached_cons (step : Step) (steps : List Step) :
    session.reached host bufferSize (step :: steps) =
      (session.step host bufferSize step).session.reached host bufferSize steps := by
  simp only [reached, run, after, List.getLast?_cons]
  cases ((session.step host bufferSize step).session.run host bufferSize steps).getLast? <;> rfl

theorem picked_run_cons (test : Step → Bool) (step : Step) (steps : List Step) :
    picked test (step :: steps) (session.run host bufferSize (step :: steps)) =
      (if test step then [session.step host bufferSize step] else []) ++
        picked test steps
          ((session.step host bufferSize step).session.run host bufferSize steps) := by
  by_cases h : test step <;> simp [picked, run, h]

end Runs

/-! ## The list of clients -/

variable (session : Session σ) {name other : String} {client : Client}

theorem lookup_cons_eq_ite (clients : List (String × Client)) :
    ((other, client) :: clients).lookup name =
      if name = other then some client else clients.lookup name := by
  by_cases h : name = other
  · simp [h]
  · simp [h, List.lookup_cons, beq_eq_false_iff_ne.mpr h]

theorem client?_connected (client : Client) (hname : name ≠ other) :
    client? { session with clients := session.clients ++ [(other, client)] } name =
      session.client? name := by
  simp [client?, List.lookup_append, lookup_cons_eq_ite, hname]

theorem client?_connected_self (client : Client) (h : session.client? name = none) :
    client? { session with clients := session.clients ++ [(name, client)] } name = some client := by
  rw [client?] at h
  simp [client?, List.lookup_append, h]

theorem client?_update (client : Client) :
    (session.update other client).client? name =
      if name = other then (session.client? name).map fun _ => client
      else session.client? name := by
  simp only [client?, update]
  induction session.clients with
  | nil => simp
  | cons entry clients ih =>
      obtain ⟨n, old⟩ := entry
      rw [List.map_cons, lookup_cons_eq_ite, lookup_cons_eq_ite, ih]
      by_cases hn : name = n
      · subst hn
        by_cases ho : name = other <;> simp [ho]
      · simp [hn]

theorem client?_without :
    (session.without other).client? name =
      if name = other then none else session.client? name := by
  simp only [client?, without]
  induction session.clients with
  | nil => simp
  | cons entry clients ih =>
      obtain ⟨n, old⟩ := entry
      by_cases hn : n = other
      · subst hn
        rw [List.filter_cons_of_neg (by simp), ih, lookup_cons_eq_ite]
        by_cases hname : name = n <;> simp [hname]
      · rw [List.filter_cons_of_pos (by simpa using hn), lookup_cons_eq_ite, lookup_cons_eq_ite, ih]
        by_cases hname : name = n
        · subst hname
          simp [hn]
        · simp [hname]

/-! ## Connecting -/

/-- The rules of connecting: the server cannot be reached, or it refuses connections, or allocating
a slot decides between admission and being turned away. -/
inductive Connects (session : Session σ) (name : String) (peer : Option IpAddress) :
    Progress σ → Prop where
  | unreachable (hreachable : session.reachable = false) :
      Connects session name peer (session.unchanged .unreachable)
  | refused (hreachable : session.reachable = true) (haccepting : session.accepting = false) :
      Connects session name peer (session.unchanged .refused)
  | admitted {record table} (hreachable : session.reachable = true)
      (haccepting : session.accepting = true)
      (h : session.slots.table.allocate peer = .ok (record, table)) :
      Connects session name peer
        ⟨{ session with
            slots := ⟨table, session.slots.leases ++ [some record]⟩
            clients := session.clients ++
              [(name, .served { lease := session.slots.leases.length, record })] },
          .admitted, [],
          [(.accept, .slotAllocated record), (.accept, .admitted record),
            (.worker record.slot, .connectionOpened record)]⟩
  | turnedAway {error} (hreachable : session.reachable = true)
      (haccepting : session.accepting = true)
      (h : session.slots.table.allocate peer = .error error) :
      Connects session name peer
        ⟨{ session with clients := session.clients ++ [(name, .turnedAway)] }, .turnedAway, [],
          [(.accept, .rejecting error)]⟩

theorem connect_connects (session : Session σ) (name : String) (peer : Option IpAddress) :
    Connects session name peer (session.connect name peer) := by
  cases hreachable : session.reachable with
  | false => simpa [connect, hreachable] using Connects.unreachable hreachable
  | true =>
      cases haccepting : session.accepting with
      | false =>
          simpa [connect, hreachable, haccepting] using Connects.refused hreachable haccepting
      | true =>
          cases h : session.slots.table.allocate peer with
          | error error =>
              simpa [connect, hreachable, haccepting, LeasedTable.step, h] using
                Connects.turnedAway hreachable haccepting h
          | ok given =>
              simpa [connect, hreachable, haccepting, LeasedTable.step, h] using
                Connects.admitted hreachable haccepting h

/-! ## Any step -/

/-- The rules of steps, by what they do to the session: nothing, or a client that was turned away
gives up, or the server does something for a client that it serves, for whoever holds the slots or
for whoever stops it. -/
inductive Steps (host : Capabilities σ) (bufferSize : Nat) (session : Session σ) :
    Step → Progress σ → Prop where
  | connect {name : String} {peer progress} (h : Connects session name peer progress) :
      Steps host bufferSize session (.connect name peer) progress
  | nothing {step answer} (hstop : step = .stop → session.accepting = false) :
      Steps host bufferSize session step (session.unchanged answer)
  | givenUp {step answer} {name : String} (hstep : step.client? = some name) (hstop : step ≠ .stop)
      (hclient : session.client? name = some .turnedAway) :
      Steps host bufferSize session step ((session.without name).unchanged answer)
  | exchange {step bytes delivery sent read} {name : String} {served : Served}
      (hstep : step = .send name bytes delivery ∨ step = .read name delivery ∧ bytes = [])
      (hclient : session.client? name = some (.served served))
      (hsent : sent = session.deliver host bufferSize name served bytes delivery)
      (hread : read = sent.2.session.readReply name sent.1) :
      Steps host bufferSize session step { sent.2 with session := read.1, answer := read.2 }
  | leave {step reads writes answer} {name : String} {served : Served}
      (hstep : step.client? = some name) (hstop : step ≠ .stop)
      (hclient : session.client? name = some (.served served)) :
      Steps host bufferSize session step
        { session.leave host bufferSize name served reads writes with answer }
  | release {slot answer} :
      Steps host bufferSize session (.release slot)
        (unchanged { session with slots := (session.slots.step (.release slot)).1 } answer)
  | stop (haccepting : session.accepting = true) :
      Steps host bufferSize session .stop
        ⟨{ session with accepting := false }, .stopped, [],
          [(.accept, .acceptingStopped session.address)]⟩

theorem exchange_steps (host : Capabilities σ) (bufferSize : Nat) {step : Step} {name : String}
    {bytes : Bytes} {delivery : Delivery}
    (hstep : step = .send name bytes delivery ∨ step = .read name delivery ∧ bytes = []) :
    Steps host bufferSize session step
      (session.exchange host bufferSize name bytes delivery) := by
  have hstop : step = .stop → session.accepting = false := by
    rintro rfl
    simp at hstep
  unfold exchange
  split
  · exact .nothing hstop
  · exact .nothing hstop
  next client hclient => exact .exchange hstep hclient rfl rfl

theorem step_steps (host : Capabilities σ) (bufferSize : Nat) (step : Step) :
    Steps host bufferSize session step (session.step host bufferSize step) := by
  cases step with
  | connect name peer => exact .connect (connect_connects session name peer)
  | send name bytes delivery => exact exchange_steps session host bufferSize (.inl rfl)
  | read name delivery => exact exchange_steps session host bufferSize (.inr ⟨rfl, rfl⟩)
  | finish name bytes arrivals =>
      simp only [Session.step]
      split
      · exact .nothing nofun
      next hclient => exact .givenUp rfl nofun hclient
      next client hclient =>
        refine .leave ?_ ?_ hclient
        · rfl
        · nofun
  | disconnect name parting =>
      simp only [Session.step]
      split
      · exact .nothing nofun
      next hclient => exact .givenUp rfl nofun hclient
      next client hclient =>
        refine .leave ?_ ?_ hclient
        · rfl
        · nofun
  | forget name =>
      simp only [Session.step]
      split
      next hclient => exact .givenUp rfl nofun hclient
      · exact .nothing nofun
  | release slot =>
      have hrelease : ∀ answer, Steps host bufferSize session (.release slot)
          (unchanged { session with slots := (session.slots.step (.release slot)).1 } answer) :=
        fun _ => .release
      simp only [Session.step]
      split
      next heq =>
        rw [heq] at hrelease
        exact hrelease _
      next heq =>
        rw [heq] at hrelease
        exact hrelease _
  | records => exact .nothing nofun
  | stop =>
      simp only [Session.step]
      split
      next haccepting => exact .stop haccepting
      next haccepting => exact .nothing fun _ => Bool.eq_false_iff.mpr haccepting

/-! ## Accepting connections -/

theorem readReply_accepts {served : Served} :
    (session.readReply name served).1.reachable = session.reachable ∧
      (session.readReply name served).1.accepting = session.accepting := by
  unfold readReply
  split <;> exact ⟨rfl, rfl⟩

theorem accepts_step (host : Capabilities σ) (bufferSize : Nat) (step : Step) :
    (session.step host bufferSize step).session.reachable = session.reachable ∧
      ((session.step host bufferSize step).session.accepting = true ↔
        session.accepting = true ∧ step ≠ .stop) := by
  have hsteps := step_steps session host bufferSize step
  generalize session.step host bufferSize step = progress at hsteps
  cases hsteps with
  | connect hconnects => cases hconnects <;> simp [unchanged]
  | nothing hstop =>
      refine ⟨rfl, fun haccepting => ⟨haccepting, fun h => ?_⟩, And.left⟩
      exact Bool.false_ne_true ((hstop h).symm.trans haccepting)
  | givenUp _ hstop _ => exact ⟨rfl, fun haccepting => ⟨haccepting, hstop⟩, And.left⟩
  | exchange hstep _ hsent hread =>
      subst hsent hread
      rcases hstep with rfl | ⟨rfl, -⟩ <;> simp [readReply_accepts, deliver, update]
  | leave _ hstop _ =>
      exact ⟨rfl, fun haccepting => ⟨haccepting, hstop⟩, And.left⟩
  | release => simp [unchanged]
  | stop _ => simp

/-- Whether connections are accepted is decided by whether the server was stopped. -/
theorem accepts_reached (host : Capabilities σ) (bufferSize : Nat) (steps : List Step) :
    (session.reached host bufferSize steps).reachable = session.reachable ∧
      ((session.reached host bufferSize steps).accepting = true ↔
        session.accepting = true ∧ .stop ∉ steps) := by
  induction steps generalizing session with
  | nil => simp [reached_nil]
  | cons step steps ih =>
      obtain ⟨hreachable, haccepting⟩ := accepts_step session host bufferSize step
      obtain ⟨hreached, hiff⟩ := ih (session.step host bufferSize step).session
      rw [reached_cons, hreached, hiff, hreachable, haccepting, List.mem_cons, not_or, and_assoc,
        ne_comm]
      exact ⟨rfl, Iff.rfl⟩

/-! ## What becomes of a client -/

variable {served : Served}

/-- Where a reply can be sent, the worker writes the acknowledgement of the record. -/
theorem replies_handle (host : Capabilities σ) (connection : ConnectionRecord) (record : Bytes)
    (state : σ) : (Worker.handle host connection record {} state).trace.replies.flatten =
      Worker.acknowledgement connection.peerLabel record := by
  have hsent : (Transfer.send {} (Worker.acknowledgement connection.peerLabel record)).fault =
      none := by
    cases Worker.acknowledgement connection.peerLabel record <;> rfl
  have hproper := Worker.exchangeOf_proper host connection record {} state
  calc (Worker.handle host connection record {} state).trace.replies.flatten
      = (Worker.exchangeOf host connection record {} state).actions.replies.flatten := rfl
    _ = (Worker.exchangeOf host connection record {} state).reply := by
      rw [hproper.replies_actions, Worker.Exchange.reply]
    _ = _ := Worker.exchangeOf_reply host connection record state hsent

/-- Where every reply can be sent, a worker goes on to the end. -/
theorem handle_value (host : Capabilities σ) (connection : ConnectionRecord) (record : Bytes)
    (state : σ) : (Worker.handle host connection record {} state).value = (none, {}) := by
  simp only [Worker.handle, Transfer.send, Transfer.writeAll]
  cases Worker.acknowledgement connection.peerLabel record <;> rfl

theorem replies_serve (host : Capabilities σ) (connection : ConnectionRecord) (bufferSize : Nat)
    (reads : ReadScript) (state : σ) :
    (Worker.serve host connection bufferSize reads {} state).trace.replies.flatten =
      (Worker.acknowledgements connection.peerLabel
        (Transfer.intake bufferSize reads).pieces).flatten := by
  rw [Worker.serve]
  generalize (Transfer.intake bufferSize reads).pieces = pieces
  induction pieces generalizing state with
  | nil => rfl
  | cons piece pieces ih =>
      rw [Worker.servePieces, handle_value]
      dsimp only
      rw [Trace.replies_append, List.flatten_append, replies_handle, ih]
      rfl

/-- Serving pieces adds their acknowledgements to the replies that wait for the client, whatever
the commands in them do. -/
theorem servePieces_value (host : Capabilities σ) (served : Served) (state : σ)
    (pieces : List Transfer.Piece) :
    (servePieces host served state pieces).value =
      { served with
        processed := served.processed + pieces.length
        unread := served.unread ++ Worker.acknowledgements served.record.peerLabel pieces } := by
  induction pieces generalizing served state with
  | nil => simp [servePieces, Worker.acknowledgements]
  | cons piece pieces ih =>
      rw [servePieces, ih]
      simp [Worker.acknowledgements, replies_handle, Nat.add_assoc, Nat.add_comm 1]

theorem client?_deliver (host : Capabilities σ) (bufferSize : Nat) (bytes : Bytes)
    (delivery : Delivery) :
    (session.deliver host bufferSize other served bytes delivery).2.session.client? name =
      if name = other then
        (session.client? name).map fun _ =>
          .served (session.deliver host bufferSize other served bytes delivery).1
      else session.client? name :=
  client?_update session _

theorem client?_readReply_of_ne (hname : name ≠ other) :
    (session.readReply other served).1.client? name = session.client? name := by
  unfold readReply
  split
  · rfl
  · rw [client?_update, if_neg hname]

theorem client?_readReply_self (h : session.client? name = some (.served served)) :
    (session.readReply name served).1.client? name =
      some (.served { served with unread := served.unread.tail }) := by
  unfold readReply
  split
  next hunread => rw [h, hunread, List.tail_nil, ← hunread]
  next reply unread hunread => simp [client?_update, h, hunread]

theorem client?_leave (host : Capabilities σ) (bufferSize : Nat) (reads : ReadScript)
    (writes : WriteScript) :
    (session.leave host bufferSize other served reads writes).session.client? name =
      if name = other then none else session.client? name :=
  client?_without _

/-- A step leaves the clients alone that do not make it. -/
theorem client?_step_of_not_isBy (host : Capabilities σ) (bufferSize : Nat) {step : Step}
    (h : step.isBy name = false) :
    (session.step host bufferSize step).session.client? name = session.client? name := by
  have hsteps := step_steps session host bufferSize step
  generalize session.step host bufferSize step = progress at hsteps
  cases hsteps with
  | connect hconnects =>
      cases hconnects with
      | unreachable _ | refused _ _ => rfl
      | admitted _ _ _ | turnedAway _ _ _ =>
          exact client?_connected _ _ (Step.ne_of_isBy h rfl)
  | nothing _ | release | stop _ => rfl
  | givenUp hstep _ _ =>
      exact (client?_without session).trans (if_neg (Step.ne_of_isBy h hstep))
  | @exchange _ _ _ _ _ other _ hstep _ hsent hread =>
      have hname : name ≠ other := by
        rcases hstep with rfl | ⟨rfl, -⟩ <;> exact Step.ne_of_isBy h rfl
      subst hsent hread
      exact (client?_readReply_of_ne _ hname).trans
        ((client?_deliver session host bufferSize _ _).trans (if_neg hname))
  | leave hstep _ _ =>
      exact (client?_leave session host bufferSize _ _).trans (if_neg (Step.ne_of_isBy h hstep))

end Session

end SlotServer.Server
