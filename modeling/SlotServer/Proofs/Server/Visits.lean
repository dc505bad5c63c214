import SlotServer.Proofs.Server.Admission
import SlotServer.Proofs.Server.Isolation
import SlotServer.Proofs.Server.Stopping
import SlotServer.Server.Run

/-!
# The visit of a client

A client comes, sends its records and leaves. If it is admitted, it is answered to the end, even if
the server is told to stop in between; if not, nothing comes of it. Either way nobody is left when
it is gone.
-/

namespace SlotServer.Server

variable {σ : Type}

/-! ## A stop during a visit -/

namespace Session

variable (session : Session σ) (host : Capabilities σ) (bufferSize : Nat)

/-- After a stop the steps of a client go on as they would have gone. -/
theorem run_stopped_same {later : List Step} (hconnect : ∀ name peer, .connect name peer ∉ later)
    (hstop : .stop ∉ later) :
    (session.stopped.run host bufferSize later).map Progress.answer =
        (session.run host bufferSize later).map Progress.answer ∧
      (session.stopped.run host bufferSize later).map Progress.trace =
        (session.run host bufferSize later).map Progress.trace ∧
      session.stopped.reached host bufferSize later =
        (session.reached host bufferSize later).stopped := by
  induction later generalizing session with
  | nil => exact ⟨rfl, rfl, rfl⟩
  | cons step later ih =>
      rw [List.mem_cons, not_or] at hstop
      have hcons := fun name => Step.notMem_cons (hconnect name)
      obtain ⟨hanswers, htraces, hreached⟩ :=
        ih (session.step host bufferSize step).session (fun name => (hcons name).2) hstop.2
      have hafter := step_stopped session host bufferSize fun name => (hcons name).1
      have hsession : (session.stopped.step host bufferSize step).session =
          (session.step host bufferSize step).session.stopped := by
        rw [hafter]
        rfl
      rw [run, run, reached_cons, reached_cons, hsession]
      refine ⟨?_, ?_, hreached⟩
      · rw [List.map_cons, List.map_cons, hanswers, hafter]
        simp [Progress.afterStop, Ne.symm hstop.1]
      · rw [List.map_cons, List.map_cons, htraces, hafter]
        rfl

theorem reached_append (first rest : List Step) :
    session.reached host bufferSize (first ++ rest) =
      (session.reached host bufferSize first).reached host bufferSize rest := by
  induction first generalizing session with
  | nil => rfl
  | cons step first ih => rw [List.cons_append, reached_cons, reached_cons, ih]

/-! ## Clients that are gone -/

variable {session} {name : String}

theorem client?_reached_of_not_isBy {steps : List Step}
    (h : ∀ step ∈ steps, step.isBy name = false) :
    (session.reached host bufferSize steps).client? name = session.client? name := by
  induction steps generalizing session with
  | nil => rfl
  | cons step steps ih =>
      obtain ⟨hstep, hrest⟩ := List.forall_mem_cons.mp h
      rw [reached_cons, ih hrest, client?_step_of_not_isBy session host bufferSize hstep]

/-- Whoever disconnects is gone, and was not there if not. -/
theorem client?_disconnect (name : String) (parting : Parting) :
    (session.step host bufferSize (.disconnect name parting)).session.client? name = none := by
  cases hclient : session.client? name with
  | none => simp [step, hclient, unchanged]
  | some client =>
      cases client with
      | turnedAway => simp [step, hclient, unchanged, client?_without]
      | served client => simp [step, hclient, client?_leave]

theorem clients_eq_nil (h : ∀ name, session.client? name = none) : session.clients = [] := by
  have hnames : session.names = [] :=
    List.eq_nil_iff_forall_not_mem.mpr fun name => client?_eq_none_iff.mp (h name)
  exact List.map_eq_nil_iff.mp hnames

theorem trace_connect (session : Session σ) (name : String) (peer : Option IpAddress) :
    (session.connect name peer).trace = [] := by
  have hconnects := connect_connects session name peer
  generalize session.connect name peer = progress at hconnects
  cases hconnects <;> rfl

/-- Picking every step leaves nothing out of the course. -/
theorem picked_eq_self {test : Step → Bool} {steps : List Step} {course : List (Progress σ)}
    (h : ∀ step ∈ steps, test step = true) (hlength : steps.length = course.length) :
    picked test steps course = course := by
  have hall : (steps.zip course).filter (fun made => test made.1) = steps.zip course :=
    List.filter_eq_self.mpr fun made hmade => h made.1 (List.of_mem_zip hmade).1
  rw [picked, hall, List.map_snd_zip (Nat.le_of_eq hlength.symm)]

/-- Nobody has to be there for new names. -/
theorem fresh_of_not_connect {steps : List Step} (h : ∀ name peer, .connect name peer ∉ steps) :
    session.Fresh host bufferSize steps := by
  induction steps generalizing session with
  | nil => trivial
  | cons step steps ih =>
      have hcons := fun name => Step.notMem_cons (h name)
      refine ⟨fun name hname => ?_, ih fun name => (hcons name).2⟩
      cases step with
      | connect other peer => exact absurd rfl ((hcons other).1 peer)
      | _ => cases hname

/-! ## Clients that are not served -/

theorem answer_exchange_ne_admitted (name : String) (bytes : Bytes) (delivery : Delivery) :
    (session.exchange host bufferSize name bytes delivery).answer ≠ .admitted := by
  unfold exchange
  split
  · simp [unchanged]
  · simp [unchanged]
  · simp only [readReply]
    split <;> simp

theorem answer_ne_admitted {step : Step} (h : ∀ name peer, step ≠ .connect name peer) :
    (session.step host bufferSize step).answer ≠ .admitted := by
  cases step with
  | connect name peer => exact absurd rfl (h name peer)
  | send name bytes delivery =>
      exact answer_exchange_ne_admitted host bufferSize name bytes delivery
  | read name delivery => exact answer_exchange_ne_admitted host bufferSize name [] delivery
  | finish name bytes arrivals | disconnect name parting | forget name =>
      simp only [Session.step]
      split <;> simp [unchanged, leave]
  | release slot | stop =>
      simp only [Session.step]
      split <;> simp [unchanged]
  | records => simp [Session.step, unchanged]

/-- Nothing comes of the steps of a client that is outside and does not connect. -/
theorem Outside.run_idle (h : session.Outside name) {steps : List Step}
    (hby : ∀ step ∈ steps, step.isBy name = true)
    (hconnect : ∀ name peer, .connect name peer ∉ steps) :
    ∀ progress ∈ session.run host bufferSize steps,
      progress.trace = [] ∧ progress.answer.received = [] := by
  induction steps generalizing session with
  | nil => simp [Session.run]
  | cons step steps ih =>
      obtain ⟨hstep, hrest⟩ := List.forall_mem_cons.mp hby
      have hcons := fun name => Step.notMem_cons (hconnect name)
      obtain ⟨hidle, houtside, -⟩ := h.step host bufferSize hstep
        (answer_ne_admitted host bufferSize fun name => (hcons name).1)
      rw [Session.run]
      exact List.forall_mem_cons.mpr
        ⟨⟨hidle.trace_eq, hidle.received_eq⟩, ih houtside hrest fun name => (hcons name).2⟩

/-! ## What a worker writes -/

theorem replies_servePieces (client : Served) (state : σ) (pieces : List Transfer.Piece) :
    (servePieces host client state pieces).trace.replies.flatten =
      (Worker.acknowledgements client.record.peerLabel pieces).flatten := by
  induction pieces generalizing client state with
  | nil => rfl
  | cons piece pieces ih =>
      rw [servePieces, Trace.replies_append, List.flatten_append, ih, replies_handle]
      rfl

theorem replies_deliver (client : Served) (bytes : Bytes) (delivery : Delivery) :
    (session.deliver host bufferSize name client bytes delivery).2.trace.replies.flatten =
      ((delivery.pieces bufferSize (client.pending ++ bytes)).map
        (Worker.acknowledgement client.record.peerLabel)).flatten := by
  rw [deliver, replies_servePieces]
  simp [Worker.acknowledgements, Delivery.pieces, Delivery.arrived, Function.comp_def]

variable {label : String}

/-- The worker of a client writes the replies to what arrives. If the client closes its connection,
this goes for a stream that takes them all. -/
theorem Shows.written {channel : Channel} (h : session.Shows name label (some channel))
    {step : Step} (hstep : step.isBy name) (hconnect : ∀ peer, step ≠ .connect name peer)
    (hparting : ∀ parting, step = .disconnect name parting →
      parting.fault = none ∧ parting.writes = {}) :
    (session.step host bufferSize step).trace.replies.flatten =
      (step.replies bufferSize label channel.pending).flatten := by
  obtain ⟨client, hclient, hpending, -, hlabel⟩ := h
  rw [Step.isBy_iff] at hstep
  cases step with
  | connect other peer =>
      obtain rfl : other = name := Option.some.inj hstep
      exact absurd rfl (hconnect peer)
  | send other bytes delivery | read other delivery =>
      obtain rfl : other = name := Option.some.inj hstep
      simp only [Session.step, Session.exchange, hclient, replies_deliver, hpending, hlabel]
      rfl
  | finish other bytes arrivals =>
      obtain rfl : other = name := Option.some.inj hstep
      simp [Session.step, hclient, leave, replies_serve, hpending, hlabel, Step.replies,
        Step.pieces, Step.delivery?, Step.sent, Delivery.pieces_of_arrivals,
        Worker.acknowledgements, Function.comp_def]
  | disconnect other parting =>
      obtain rfl : other = name := Option.some.inj hstep
      obtain ⟨hfault, hwrites⟩ := hparting parting rfl
      simp [Session.step, hclient, leave, hfault, hwrites, replies_serve, hpending, hlabel,
        Step.replies, Step.pieces, Step.delivery?, Step.sent, Delivery.pieces_of_arrivals,
        Worker.acknowledgements, Function.comp_def]
  | forget other =>
      obtain rfl : other = name := Option.some.inj hstep
      rw [Step.replies, Step.pieces_eq_nil rfl]
      simp only [Session.step, hclient]
      rfl
  | release slot | records | stop => cases hstep

/-- A client is there until it leaves. -/
theorem alone_of_leaves {step : Step} (h : step.leaves = true) (channel : Channel) :
    (step.alone bufferSize label (some channel)).1 = none := by
  cases step with
  | finish name bytes arrivals | disconnect name parting => rfl
  | _ => cases h

/-- To all that a client sends before it leaves, the replies are written in order. -/
theorem Shows.written_run {channel : Channel} (h : session.Shows name label (some channel))
    {steps : List Step} (hby : ∀ step ∈ steps, step.isBy name = true)
    (hconnect : ∀ name peer, .connect name peer ∉ steps)
    (hparting : ∀ parting, .disconnect name parting ∈ steps →
      parting.fault = none ∧ parting.writes = {}) :
    (((session.run host bufferSize steps).map Progress.trace).flatMap Trace.replies).flatten =
      ((pieces bufferSize channel.pending (stay steps)).map
        (Worker.acknowledgement label)).flatten := by
  induction steps generalizing session channel with
  | nil => rfl
  | cons step steps ih =>
      obtain ⟨hstep, hrest⟩ := List.forall_mem_cons.mp hby
      have hcons := fun name => Step.notMem_cons (hconnect name)
      have hwritten := h.written host bufferSize hstep (hcons name).1
        fun parting hleft => hparting parting (hleft ▸ List.mem_cons_self)
      have hnext := (h.step host bufferSize hstep (hcons name).1).2
      rw [Session.run, List.map_cons, List.flatMap_cons, List.flatten_append, hwritten]
      cases hleaves : step.leaves with
      | true =>
          -- The client is gone, so nothing is written from here on.
          rw [alone_of_leaves bufferSize hleaves] at hnext
          have hnone : (session.step host bufferSize step).session.client? name = none := hnext
          have houtside : (session.step host bufferSize step).session.Outside name := by
            simp [Outside, hnone]
          have hidle := houtside.run_idle host bufferSize hrest fun other => (hcons other).2
          have htraces : (((session.step host bufferSize step).session.run host bufferSize
              steps).map Progress.trace).flatMap Trace.replies = [] := by
            refine List.flatMap_eq_nil_iff.mpr fun trace htrace => ?_
            obtain ⟨progress, hprogress, rfl⟩ := List.mem_map.mp htrace
            rw [(hidle progress hprogress).1]
            rfl
          rw [stay_cons_of_leaves hleaves, htraces]
          simp [pieces, Step.replies]
      | false =>
          obtain ⟨next, hstays, hpending, -⟩ := alone_of_stays bufferSize label hleaves channel
          rw [hstays] at hnext
          rw [stay_cons_of_stays hleaves, pieces, List.map_append, List.flatten_append, ← hpending,
            ih hnext hrest (fun other => (hcons other).2) fun parting hmem =>
              hparting parting (List.mem_cons_of_mem step hmem)]
          rfl

end Session

/-! ## Visits -/

/-- A client that comes from some address, sends and leaves. The stream hands out as it likes what
the client sends, and what is left of it in the end. -/
structure Visit where
  name : String
  peer : IpAddress
  sends : List (Bytes × Delivery)
  arrivals : List Nat := []

namespace Visit

/-- What the client does once it is there. -/
def calls (visit : Visit) : List Step :=
  visit.sends.map (fun send => .send visit.name send.1 send.2) ++
    [.disconnect visit.name { arrivals := visit.arrivals }]

def steps (visit : Visit) : List Step :=
  .connect visit.name (some visit.peer) :: visit.calls

end Visit

/-- Whoever has records to send comes for a visit, on the same machine. -/
theorem visit_eq (records : List Bytes) :
    visit records = if records.isEmpty then [] else
      Visit.steps { name := "visitor", peer := localPeer, sends := records.map (·, {}) } := by
  simp [visit, Visit.steps, Visit.calls, Function.comp_def]

/-- How a client fares that is admitted with what it sends. -/
structure Answered (bufferSize : Nat) (visit : Visit) (answers : List Answer)
    (traces : List Trace) : Prop where
  /-- It is isolated from whatever its own commands bring about. -/
  isolated : ∃ rest, answers = .admitted :: rest ∧
    Isolated bufferSize visit.peer.text visit.calls rest
  /-- All that it sent arrives at its worker. -/
  arrived : (pieces bufferSize [] visit.calls).flatten = visit.sends.flatMap Prod.fst
  /-- Its worker writes the acknowledgements of all that arrived. -/
  written : (traces.flatMap Trace.replies).flatten =
    ((pieces bufferSize [] visit.calls).map (Worker.acknowledgement visit.peer.text)).flatten
  /-- It reads the acknowledgement of each record that arrives at once and in one piece. -/
  read : (∀ send ∈ visit.sends,
      (0 < send.1.length ∧ send.1.length ≤ max bufferSize 1) ∧ send.2 = {}) →
    answers = .admitted ::
      (visit.sends.map fun send => .reply (Worker.acknowledgement visit.peer.text send.1)) ++
        [.gone]

/-- What came of the visit of a client, which is gone at the end. -/
structure Visited (bufferSize : Nat) (visit : Visit) (admitted : Prop) (answers : List Answer)
    (traces : List Trace) (last : Session σ) : Prop where
  clients_eq : last.clients = []
  active_eq : last.active = 0
  free : ∀ slot, last.slots.table.record? slot = none
  answered : admitted → Answered bufferSize visit answers traces
  unanswered : ¬admitted →
    (∀ trace ∈ traces, trace = []) ∧ ∀ answer ∈ answers, answer.received = []

namespace Visit

variable (visit : Visit) (bufferSize : Nat)

theorem isBy_calls : ∀ step ∈ visit.calls, step.isBy visit.name = true := by
  intro step hstep
  rw [Step.isBy_iff]
  rcases List.mem_append.mp hstep with hsend | hleave
  · obtain ⟨send, -, rfl⟩ := List.mem_map.mp hsend
    rfl
  · rw [List.mem_singleton.mp hleave]
    rfl

theorem isBy_steps : ∀ step ∈ visit.steps, step.isBy visit.name = true := by
  refine List.forall_mem_cons.mpr ⟨?_, visit.isBy_calls⟩
  rw [Step.isBy_iff]
  rfl

theorem not_connect_calls (name : String) (peer : Option IpAddress) :
    .connect name peer ∉ visit.calls := by
  simp [calls]

theorem parting_of_mem_calls {name : String} {parting : Parting}
    (h : .disconnect name parting ∈ visit.calls) :
    parting.fault = none ∧ parting.writes = {} := by
  obtain ⟨-, rfl⟩ : name = visit.name ∧ parting = { arrivals := visit.arrivals } := by
    simpa [calls] using h
  exact ⟨rfl, rfl⟩

theorem stay_calls : stay visit.calls = visit.calls := by
  rw [calls]
  induction visit.sends with
  | nil => rfl
  | cons send sends ih => exact congrArg (_ :: ·) ih

theorem sent_calls : visit.calls.flatMap Step.sent = visit.sends.flatMap Prod.fst := by
  simp [calls, List.flatMap_map, Step.sent]

/-- A record that fits into the buffer arrives in one piece. -/
theorem pieces_send {name : String} {record : Bytes}
    (h : 0 < record.length ∧ record.length ≤ max bufferSize 1) :
    (Step.send name record).pieces bufferSize [] = [record] := by
  obtain ⟨b, more, rfl⟩ := List.exists_cons_of_length_pos h.1
  have hmore : more.length ≤ bufferSize - 1 := by
    have hfits : more.length + 1 ≤ max bufferSize 1 := h.2
    omega
  simp [Step.pieces, Step.delivery?, Step.sent, Delivery.pieces_of_arrivals, Transfer.parts,
    Transfer.intake, Transfer.cut, List.take_of_length_le hmore, List.drop_eq_nil_of_le hmore]

theorem conversation_calls (label : String) (h : ∀ send ∈ visit.sends,
      (0 < send.1.length ∧ send.1.length ≤ max bufferSize 1) ∧ send.2 = {}) :
    conversation bufferSize label (some {}) visit.calls =
      (visit.sends.map fun send => .reply (Worker.acknowledgement label send.1)) ++
        [.gone] := by
  rw [calls]
  revert h
  induction visit.sends with
  | nil => exact fun _ => rfl
  | cons send sends ih =>
      intro h
      obtain ⟨⟨hfits, hat⟩, hrest⟩ := List.forall_mem_cons.mp h
      obtain ⟨record, _⟩ := send
      obtain rfl := hat
      have hpieces : (Step.send visit.name record).pieces bufferSize [] = [record] :=
        pieces_send bufferSize hfits
      have hpending : (Step.send visit.name record).rest [] = [] :=
        Step.rest_of_delivered (by simp [Step.delivery?])
      rw [List.map_cons, List.cons_append, conversation]
      simp [Step.alone, Step.replies, hpieces, hpending, firstReply, ih hrest]

end Visit

namespace Session

variable (host : Capabilities σ) (address : SocketAddress) (reachable : Bool) (config : Config)
  (state : σ) (visit : Visit)

/-- A client that finds room is admitted. -/
theorem answered_visit (hreachable : reachable = true) (hroom : 0 < config.maxConnections.toNat) :
    let bufferSize := config.bufferSize.toNat
    let course := (new address reachable config state).run host bufferSize visit.steps
    Answered bufferSize visit (course.map Progress.answer) (course.map Progress.trace) := by
  intro bufferSize course
  let first := new address reachable config state
  have hdecides : Decides config.maxConnections.toNat first visit.name (some visit.peer)
      (first.connect visit.name (some visit.peer)) :=
    decides_connect (.new _) hreachable rfl visit.name (some visit.peer)
  have hactive : first.active = 0 := (Accounted.new address reachable config state).active_eq
  have hadmitted : (first.step host bufferSize
      (.connect visit.name (some visit.peer))).answer = .admitted :=
    hdecides.answer_eq.trans (if_pos (by omega))
  have htrace : (first.step host bufferSize
      (.connect visit.name (some visit.peer))).trace = [] :=
    trace_connect first visit.name (some visit.peer)
  have hshows := Shows.admitted host bufferSize (rfl : first.client? visit.name = none) hadmitted
  have hby := visit.isBy_calls
  have hconnect := visit.not_connect_calls
  have hanswers := hshows.run host bufferSize (hconnect visit.name)
  rw [picked_eq_self hby (length_run _ host bufferSize _).symm,
    List.filter_eq_self.mpr hby] at hanswers
  have hwritten := hshows.written_run host bufferSize hby hconnect
    fun _ => visit.parting_of_mem_calls
  rw [visit.stay_calls] at hwritten
  have hcourse : course.map Progress.answer =
      .admitted :: conversation bufferSize visit.peer.text (some {}) visit.calls := by
    rw [← hanswers, ← hadmitted]
    rfl
  have hisolated := isolated_conversation bufferSize visit.peer.text visit.calls
  refine ⟨⟨_, hcourse, hisolated⟩, ?_, ?_, fun hfits => ?_⟩
  · have harrived := hisolated.pieces_whole
    rw [visit.stay_calls, visit.sent_calls] at harrived
    exact harrived (.inl ⟨_, List.mem_append_right _ (List.mem_singleton_self _), rfl⟩)
  · rw [← hwritten]
    change ((_ :: List.map _ _).flatMap _).flatten = _
    rw [List.flatMap_cons, htrace]
    rfl
  · rw [hcourse, visit.conversation_calls bufferSize visit.peer.text hfits]
    rfl

/-- Nothing comes of a client that finds no room, or that cannot reach the server. -/
theorem unanswered_visit (h : ¬(reachable = true ∧ 0 < config.maxConnections.toNat)) :
    ∀ progress ∈ (new address reachable config state).run host config.bufferSize.toNat
        visit.steps,
      progress.trace = [] ∧ progress.answer.received = [] := by
  let first := new address reachable config state
  have hnot : (first.connect visit.name (some visit.peer)).answer ≠ .admitted := by
    have hconnects := connect_connects first visit.name (some visit.peer)
    generalize hprogress : first.connect visit.name (some visit.peer) = progress at hconnects
    cases hconnects with
    | unreachable _ | refused _ _ | turnedAway _ _ _ => simp [unchanged]
    | admitted hreachable _ ha =>
        have horderly := LeasedTable.Orderly.new config.maxConnections.toNat
        have hroom := (horderly.allocate_isOk_iff (some visit.peer)).mp ⟨_, _, ha⟩
        exact absurd ⟨hreachable, by omega⟩ h
  have houtside : first.Outside visit.name := fun served => by simp [first, new, client?]
  obtain ⟨hidle, hnext, -⟩ := houtside.connect hnot
  exact List.forall_mem_cons.mpr ⟨⟨hidle.trace_eq, hidle.received_eq⟩,
    hnext.run_idle host _ visit.isBy_calls visit.not_connect_calls⟩

/-- After the visit of a client nobody is left. -/
theorem clients_visit :
    ((new address reachable config state).reached host config.bufferSize.toNat
      visit.steps).clients = [] := by
  refine clients_eq_nil fun name => ?_
  by_cases hname : name = visit.name
  · subst hname
    have hsteps : visit.steps = (.connect visit.name (some visit.peer) ::
        visit.sends.map fun send => .send visit.name send.1 send.2) ++
          [.disconnect visit.name { arrivals := visit.arrivals }] := rfl
    rw [hsteps, reached_append]
    exact client?_disconnect host _ visit.name { arrivals := visit.arrivals }
  · refine client?_reached_of_not_isBy host _ fun step hstep => ?_
    have hvisitor := (Step.isBy_iff visit.name step).mp (visit.isBy_steps step hstep)
    simp [Step.isBy, hvisitor, Ne.symm hname]

/-- The visit of a client, without a stop. -/
theorem visited_visit :
    let bufferSize := config.bufferSize.toNat
    let course := (new address reachable config state).run host bufferSize visit.steps
    Visited bufferSize visit (reachable = true ∧ 0 < config.maxConnections.toNat)
      (course.map Progress.answer) (course.map Progress.trace)
      ((new address reachable config state).reached host bufferSize visit.steps) := by
  intro bufferSize course
  have hclients := clients_visit host address reachable config state visit
  have haccounted : Accounted config.maxConnections.toNat
      ((new address reachable config state).reached host bufferSize visit.steps) := by
    refine (Accounted.new address reachable config state).reached host _ (fun slot => ?_) ?_
    · intro hrelease
      cases visit.isBy_steps _ hrelease
    · exact ⟨fun name _ => rfl, fresh_of_not_connect host _ visit.not_connect_calls⟩
  have hserved : served ((new address reachable config state).reached host bufferSize
      visit.steps) = [] := by
    rw [served, hclients]
    rfl
  refine ⟨hclients, ?_, fun slot => ?_, ?_, ?_⟩
  · rw [haccounted.active_eq, hserved]
    rfl
  · refine Option.eq_none_iff_forall_ne_some.mpr fun record hrecord => ?_
    obtain ⟨-, client, hclient, -⟩ := (haccounted.record?_eq_some_iff slot record).mp hrecord
    rw [hserved] at hclient
    cases hclient
  · rintro ⟨hreachable, hroom⟩
    exact answered_visit host address reachable config state visit hreachable hroom
  · intro hnot
    have hidle := unanswered_visit host address reachable config state visit hnot
    refine ⟨fun trace htrace => ?_, fun answer hanswer => ?_⟩
    · obtain ⟨progress, hprogress, rfl⟩ := List.mem_map.mp htrace
      exact (hidle progress hprogress).1
    · obtain ⟨progress, hprogress, rfl⟩ := List.mem_map.mp hanswer
      exact (hidle progress hprogress).2

/-- A stop that falls into the visit of a client makes no difference to it. -/
theorem visited_stopped {before later : List Step} (hvisit : visit.steps = before ++ later)
    (hconnect : ∀ name peer, .connect name peer ∉ later) :
    let bufferSize := config.bufferSize.toNat
    let first := new address reachable config state
    let stopped := ((first.reached host bufferSize before).step host bufferSize .stop).session
    let course := first.run host bufferSize before ++ stopped.run host bufferSize later
    Visited bufferSize visit (reachable = true ∧ 0 < config.maxConnections.toNat)
      (course.map Progress.answer) (course.map Progress.trace)
      (stopped.reached host bufferSize later) := by
  intro bufferSize first stopped course
  have hstop : ∀ steps, steps ⊆ visit.steps → .stop ∉ steps := fun steps hsteps hmem => by
    cases visit.isBy_steps _ (hsteps hmem)
  have hbefore : .stop ∉ before := hstop before (hvisit ▸ List.subset_append_left before later)
  have hlater : .stop ∉ later := hstop later (hvisit ▸ List.subset_append_right before later)
  have haccepting : (first.reached host bufferSize before).accepting = true :=
    (accepts_reached first host bufferSize before).2.mpr ⟨rfl, hbefore⟩
  have hstopped : stopped = (first.reached host bufferSize before).stopped := by
    simp only [stopped, step, if_pos haccepting]
    rfl
  -- The steps after the stop go as they would have gone, so this is the visit without a stop.
  obtain ⟨hanswers, htraces, hreached⟩ := run_stopped_same
    (first.reached host bufferSize before) host bufferSize hconnect hlater
  obtain ⟨hclients, hactive, hfree, hadmitted, hnot⟩ :=
    visited_visit host address reachable config state visit
  rw [hvisit, reached_append] at hclients hactive hfree
  rw [hvisit, run_append_steps] at hadmitted hnot
  simp only [course, hstopped, List.map_append, hanswers, htraces, hreached]
  rw [← List.map_append, ← List.map_append]
  exact ⟨hclients, hactive, hfree, hadmitted, hnot⟩

end Session

end SlotServer.Server
