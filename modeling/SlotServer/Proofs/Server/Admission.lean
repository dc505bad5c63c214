import SlotServer.Capability.Scripted
import SlotServer.Proofs.Server.Leases

/-!
# Admission of clients

A client is admitted as long as fewer clients are served than the server can serve at once. One that
is turned away is as good as absent: without its steps, everything else goes as it went.
-/

namespace SlotServer.Server

variable {σ : Type}

/-- The course of a step as it is without a client. -/
def Progress.without (progress : Progress σ) (name : String) : Progress σ :=
  { progress with session := progress.session.without name }

/-- A step by which nothing comes about: its client reads nothing, and neither the slots nor the
machine notice it. -/
structure Progress.Idle (session : Session σ) (progress : Progress σ) : Prop where
  received_eq : progress.answer.received = []
  trace_eq : progress.trace = []
  slots_eq : progress.session.slots = session.slots
  state_eq : progress.session.state = session.state

namespace Session

variable {session : Session σ} {name other : String} {capacity : Nat}

/-! ## Sessions without a client -/

theorem without_of_client?_eq_none (h : session.client? name = none) :
    session.without name = session := by
  have hclients : session.clients.filter (fun entry => entry.1 != name) = session.clients := by
    refine List.filter_eq_self.mpr fun entry hentry => ?_
    rw [bne_iff_ne]
    rintro rfl
    exact client?_eq_none_iff.mp h (List.mem_map_of_mem hentry)
  rw [without, hclients]

theorem without_comm (session : Session σ) (name other : String) :
    (session.without name).without other = (session.without other).without name := by
  simp [without, Bool.and_comm]

theorem update_without (client : Client) :
    (session.without name).update other client = (session.update other client).without name := by
  simp [update, without, List.filter_map, Function.comp_def]

variable {served : Served}

theorem connect_without {peer : Option IpAddress} (hname : name ≠ other) :
    (session.without name).connect other peer = (session.connect other peer).without name := by
  have hconnected : ∀ client : Client,
      (session.clients ++ [(other, client)]).filter (fun entry => entry.1 != name) =
        session.clients.filter (fun entry => entry.1 != name) ++ [(other, client)] := by
    intro client
    simp [List.filter_append, hname.symm]
  have hconnects := connect_connects session other peer
  generalize session.connect other peer = progress at hconnects
  cases hconnects with
  | unreachable hreachable => simp [connect, without, Progress.without, unchanged, hreachable]
  | refused hreachable haccepting =>
      simp [connect, without, Progress.without, unchanged, hreachable, haccepting]
  | admitted hreachable haccepting h | turnedAway hreachable haccepting h =>
      simp [connect, without, Progress.without, LeasedTable.step, hreachable, haccepting, h,
        hconnected]

theorem deliver_without (host : Capabilities σ) (bufferSize : Nat) (bytes : Bytes)
    (delivery : Delivery) :
    (session.without name).deliver host bufferSize other served bytes delivery =
      ((session.deliver host bufferSize other served bytes delivery).1,
        (session.deliver host bufferSize other served bytes delivery).2.without name) := by
  simp only [deliver, update_without]
  rfl

theorem readReply_without :
    (session.without name).readReply other served =
      ((session.readReply other served).1.without name,
        (session.readReply other served).2) := by
  unfold readReply
  split
  · rfl
  · rw [update_without]

theorem exchange_without (host : Capabilities σ) (bufferSize : Nat)
    (hclient : (session.without name).client? other = session.client? other) (bytes : Bytes)
    (delivery : Delivery) :
    (session.without name).exchange host bufferSize other bytes delivery =
      (session.exchange host bufferSize other bytes delivery).without name := by
  simp only [exchange, hclient]
  split
  · rfl
  · rfl
  · simp only [deliver_without, Progress.without, readReply_without]

theorem leave_without (host : Capabilities σ) (bufferSize : Nat) (reads : ReadScript)
    (writes : WriteScript) :
    (session.without name).leave host bufferSize other served reads writes =
      (session.leave host bufferSize other served reads writes).without name := by
  simp only [leave, Progress.without]
  rw [without_comm]
  rfl

/-- The steps of other clients go without a client as they go with it. -/
theorem step_without (session : Session σ) (host : Capabilities σ) (bufferSize : Nat) {step : Step}
    (h : step.isBy name = false) :
    (session.without name).step host bufferSize step =
      (session.step host bufferSize step).without name := by
  have hclient : ∀ {other}, step.client? = some other →
      (session.without name).client? other = session.client? other := by
    intro other hother
    rw [client?_without, if_neg (Step.ne_of_isBy h hother).symm]
  cases step with
  | connect other peer => exact connect_without (Step.ne_of_isBy h rfl)
  | send other bytes delivery =>
      exact exchange_without host bufferSize (hclient rfl) bytes delivery
  | read other delivery => exact exchange_without host bufferSize (hclient rfl) [] delivery
  | finish other bytes arrivals =>
      simp only [step, hclient rfl]
      split
      · rfl
      · rw [without_comm]
        rfl
      · simp only [leave_without]
        rfl
  | disconnect other parting =>
      simp only [step, hclient rfl]
      split
      · rfl
      · rw [without_comm]
        rfl
      · exact leave_without host bufferSize _ _
  | forget other =>
      simp only [step, hclient rfl]
      split
      · rw [without_comm]
        rfl
      · rfl
  | release slot =>
      simp only [step]
      split <;> simp_all [without, Progress.without, unchanged]
  | records => rfl
  | stop =>
      simp only [step]
      split <;> simp_all [without, Progress.without, unchanged]

/-! ## Clients that are turned away -/

/-- A client that is not served, whether it is there or not. -/
def Outside (session : Session σ) (name : String) : Prop :=
  ∀ served, session.client? name ≠ some (.served served)

theorem Outside.cases (h : session.Outside name) :
    session.client? name = none ∨ session.client? name = some .turnedAway := by
  cases hclient : session.client? name with
  | none => exact .inl rfl
  | some client =>
      cases client with
      | served served => exact absurd hclient (h served)
      | turnedAway => exact .inr rfl

theorem Outside.without (name : String) : (session.without name).Outside name := by
  intro served
  simp [client?_without]

theorem without_without : (session.without name).without name = session.without name := by
  simp [Session.without]

theorem Outside.connect {peer : Option IpAddress} (h : session.Outside name)
    (hanswer : (session.connect name peer).answer ≠ .admitted) :
    (session.connect name peer).Idle session ∧
      (session.connect name peer).session.Outside name ∧
      (session.connect name peer).session.without name = session.without name := by
  have hconnects := connect_connects session name peer
  generalize session.connect name peer = progress at hconnects hanswer
  cases hconnects with
  | unreachable _ | refused _ _ => exact ⟨⟨rfl, rfl, rfl, rfl⟩, h, rfl⟩
  | admitted _ _ _ => exact absurd rfl hanswer
  | turnedAway _ _ _ =>
      refine ⟨⟨rfl, rfl, rfl, rfl⟩, ?_, by simp [Session.without]⟩
      intro served
      rcases h.cases with hclient | hclient
      · simp [client?_connected_self session _ hclient]
      · rw [client?] at hclient
        simp [client?, List.lookup_append, hclient]

/-- Nothing comes of the steps of a client that is not admitted. -/
theorem Outside.step (h : session.Outside name) (host : Capabilities σ) (bufferSize : Nat)
    {step : Step} (hstep : step.isBy name = true)
    (hanswer : (session.step host bufferSize step).answer ≠ .admitted) :
    (session.step host bufferSize step).Idle session ∧
      (session.step host bufferSize step).session.Outside name ∧
      (session.step host bufferSize step).session.without name = session.without name := by
  rw [Step.isBy_iff] at hstep
  cases step with
  | connect other peer =>
      obtain rfl : other = name := Option.some.inj hstep
      exact h.connect hanswer
  | send other bytes delivery | read other delivery =>
      obtain rfl : other = name := Option.some.inj hstep
      rcases h.cases with hclient | hclient <;>
        simp only [Session.step, Session.exchange, hclient] <;>
        exact ⟨⟨rfl, rfl, rfl, rfl⟩, h, rfl⟩
  | finish other bytes arrivals | disconnect other parting | forget other =>
      obtain rfl : other = name := Option.some.inj hstep
      rcases h.cases with hclient | hclient <;> simp only [Session.step, hclient]
      · exact ⟨⟨rfl, rfl, rfl, rfl⟩, h, rfl⟩
      · exact ⟨⟨rfl, rfl, rfl, rfl⟩, .without other, without_without⟩
  | release slot | records | stop => cases hstep

section Runs

variable (host : Capabilities σ) (bufferSize : Nat)

/-- What remains of a run, and of its course, without the steps of a client that is not admitted. -/
structure Unnoticed (session : Session σ) (name : String) (steps : List Step) : Prop where
  idle : ∀ before step later, steps = before ++ step :: later → step.isBy name = true →
    ((session.reached host bufferSize before).step host bufferSize step).Idle
      (session.reached host bufferSize before)
  run_eq : (session.without name).run host bufferSize (steps.filter fun step => !step.isBy name) =
    (picked (fun step => !step.isBy name) steps (session.run host bufferSize steps)).map
      fun progress => progress.without name
  reached_eq : (session.without name).reached host bufferSize
      (steps.filter fun step => !step.isBy name) =
    (session.reached host bufferSize steps).without name

theorem Unnoticed.idle_cons {step : Step} {steps : List Step}
    (h : (session.step host bufferSize step).session.Unnoticed host bufferSize name steps)
    (hstep : step.isBy name = true → (session.step host bufferSize step).Idle session) :
    ∀ before made later, step :: steps = before ++ made :: later → made.isBy name = true →
      ((session.reached host bufferSize before).step host bufferSize made).Idle
        (session.reached host bufferSize before) := by
  intro before made later hsplit hmade
  cases before with
  | nil =>
      obtain ⟨rfl, rfl⟩ := List.cons.inj hsplit
      exact hstep hmade
  | cons first before =>
      obtain ⟨rfl, rfl⟩ := List.cons.inj hsplit
      rw [reached_cons]
      exact h.idle before made later rfl hmade

/-- A client that is not admitted goes unnoticed. -/
theorem Outside.run (h : session.Outside name) {steps : List Step}
    (hanswers : ∀ progress ∈ picked (Step.isBy name) steps (session.run host bufferSize steps),
      progress.answer ≠ .admitted) :
    session.Unnoticed host bufferSize name steps := by
  induction steps generalizing session with
  | nil => exact ⟨by simp, rfl, rfl⟩
  | cons step steps ih =>
      rw [picked_run_cons] at hanswers
      have hrest := fun progress hmem => hanswers progress (List.mem_append_right _ hmem)
      cases hstep : step.isBy name with
      | true =>
          -- Without the client its own step leaves no difference, so the run goes on from there.
          have hanswer := hanswers _ (List.mem_append_left _ (by rw [if_pos hstep]; exact .head _))
          obtain ⟨hidle, houtside, hwithout⟩ := h.step host bufferSize hstep hanswer
          have hlater := ih houtside hrest
          have hfilter : (step :: steps).filter (fun step => !step.isBy name) =
              steps.filter fun step => !step.isBy name :=
            List.filter_cons_of_neg (by simp [hstep])
          refine ⟨hlater.idle_cons host bufferSize fun _ => hidle, ?_, ?_⟩
          · rw [hfilter, ← hwithout, hlater.run_eq, picked_run_cons, if_neg (by simp [hstep])]
            rfl
          · rw [hfilter, ← hwithout, hlater.reached_eq, reached_cons]
      | false =>
          -- The same step is made on both sides, and the client is as far outside as before.
          have houtside : (session.step host bufferSize step).session.Outside name := by
            intro served
            rw [client?_step_of_not_isBy session host bufferSize hstep]
            exact h served
          have hlater := ih houtside hrest
          have hwithout := session.step_without host bufferSize hstep
          have hfilter : (step :: steps).filter (fun step => !step.isBy name) =
              step :: steps.filter fun step => !step.isBy name :=
            List.filter_cons_of_pos (by simp [hstep])
          refine ⟨hlater.idle_cons host bufferSize fun hby => by simp [hstep] at hby, ?_, ?_⟩
          · rw [hfilter, Session.run, hwithout, picked_run_cons, if_pos (by simp [hstep]),
              List.map_append, ← hlater.run_eq]
            rfl
          · rw [hfilter, reached_cons, hwithout, reached_cons, ← hlater.reached_eq]
            rfl

end Runs

/-! ## Room for clients -/

/-- How a client fares that connects. It is admitted where slots are free, and takes the lowest one;
otherwise it is turned away, and nothing comes of it. -/
structure Decides (capacity : Nat) (session : Session σ) (name : String)
    (peer : Option IpAddress) (progress : Progress σ) : Prop where
  answer_eq : progress.answer = if session.active < capacity then .admitted else .turnedAway
  takesLowest : session.active < capacity → ∃ slot,
    session.slots.table.TakesLowest peer slot progress.session.slots.table ∧
      progress.session.clients = session.clients ++
        [(name, .served { lease := session.slots.leases.length, record := .new slot peer })]
  idle : capacity ≤ session.active → progress.Idle session

theorem decides_connect (h : session.slots.Orderly capacity) (hreachable : session.reachable = true)
    (haccepting : session.accepting = true) (name : String) (peer : Option IpAddress) :
    Decides capacity session name peer (session.connect name peer) := by
  have hroom := h.allocate_isOk_iff peer
  have hconnects := connect_connects session name peer
  generalize session.connect name peer = progress at hconnects
  cases hconnects with
  | unreachable hnot => simp [hnot] at hreachable
  | refused _ hnot => simp [hnot] at haccepting
  | @admitted record table _ _ ha =>
      have hactive : session.active < capacity := hroom.mp ⟨record, table, ha⟩
      obtain ⟨hslot, hrecord, htable⟩ := (SlotTable.allocate_eq_ok_iff ..).mp ha
      refine ⟨(if_pos hactive).symm, fun _ => ⟨record.slot, ?_, ?_⟩, fun hfull => by omega⟩
      · have htakes := SlotTable.takesLowest_of_firstFree? peer hslot
        rwa [← hrecord, ← htable] at htakes
      · rw [← hrecord]
  | turnedAway _ _ ha =>
      have hactive : ¬session.active < capacity := by
        intro hactive
        obtain ⟨record, table, hok⟩ := hroom.mpr hactive
        rw [hok] at ha
        cases ha
      exact ⟨(if_neg hactive).symm, fun hlt => absurd hlt hactive, fun _ => ⟨rfl, rfl, rfl, rfl⟩⟩

/-- As many clients can come one after another as there are free slots. -/
theorem admitted_of_room (host : Capabilities σ) (bufferSize : Nat)
    (h : session.slots.Orderly capacity) (hreachable : session.reachable = true)
    (haccepting : session.accepting = true) (clients : List (String × Option IpAddress))
    (hroom : session.active + clients.length ≤ capacity) :
    (session.run host bufferSize (clients.map fun client => .connect client.1 client.2)).map
        Progress.answer = List.replicate clients.length .admitted := by
  induction clients generalizing session with
  | nil => rfl
  | cons client clients ih =>
      obtain ⟨name, peer⟩ := client
      rw [List.length_cons] at hroom
      have hanswer := (decides_connect h hreachable haccepting name peer).answer_eq
      rw [if_pos (by omega)] at hanswer
      have hconnects := connect_connects session name peer
      rw [List.map_cons, run, step, List.map_cons, List.length_cons, List.replicate_succ]
      generalize session.connect name peer = progress at hconnects hanswer
      cases hconnects with
      | unreachable _ | refused _ _ | turnedAway _ _ _ => cases hanswer
      | @admitted record table _ _ ha =>
          refine congrArg _ (ih (h.performs (.leased ha) rfl) hreachable haccepting ?_)
          obtain ⟨-, -, rfl⟩ := (SlotTable.allocate_eq_ok_iff ..).mp ha
          simp only [active] at hroom ⊢
          omega

/-! ## Who is there -/

/-- The names of the clients that are served. -/
def servedNames (session : Session σ) : List String :=
  session.clients.filterMap fun entry => entry.2.served?.map fun _ => entry.1

theorem length_servedNames (session : Session σ) :
    session.servedNames.length = session.served.length := by
  simp only [servedNames, served, List.length_filterMap_eq_countP, Option.isSome_map]

theorem servedNames_connected {peer : Option IpAddress} {progress : Progress σ}
    (h : Connects session name peer progress) :
    progress.session.servedNames =
      if progress.answer = .admitted then session.servedNames ++ [name]
      else session.servedNames := by
  cases h <;> simp [servedNames, unchanged, Client.served?]

theorem servedNames_without :
    (session.without name).servedNames = session.servedNames.filter (· != name) := by
  simp only [servedNames, without, List.filterMap_filter, List.filter_filterMap]
  refine List.filterMap_congr ?_
  rintro ⟨n, entry⟩ -
  by_cases hn : n = name <;> cases entry.served? <;> simp [hn, Option.filter]

theorem servedNames_exchange (host : Capabilities σ) (bufferSize : Nat)
    (hnodup : session.names.Nodup) (name : String) (bytes : Bytes) (delivery : Delivery) :
    (session.exchange host bufferSize name bytes delivery).session.servedNames =
      session.servedNames := by
  have hupdate : ∀ {session : Session σ} {old new : Served}, session.names.Nodup →
      session.client? name = some (.served old) →
      (session.update name (.served new)).servedNames = session.servedNames := by
    intro session old new hnodup hclient
    exact filterMap_update _ hnodup hclient rfl
  unfold exchange
  split
  · rfl
  · rfl
  next client hclient =>
    have hsent :
        (session.deliver host bufferSize name client bytes delivery).2.session.client? name =
          some (.served (session.deliver host bufferSize name client bytes delivery).1) := by
      rw [client?_deliver, if_pos rfl, hclient, Option.map_some]
    have hdelivered : (session.deliver host bufferSize name client bytes delivery).2.session.names =
        session.names := names_update
    have hread : ∀ {session : Session σ} {client : Served}, session.names.Nodup →
        session.client? name = some (.served client) →
        (session.readReply name client).1.servedNames = session.servedNames := by
      intro session client hnodup hclient
      unfold readReply
      split
      · rfl
      · exact hupdate hnodup hclient
    exact (hread (hdelivered ▸ hnodup) hsent).trans (hupdate hnodup hclient)

/-- Who is there after a step that is answered like this, going by steps and answers alone: whoever
is admitted is there until it ends its side or disconnects. -/
def present (names : List String) (step : Step) (answer : Answer) : List String :=
  match step with
  | .connect name _ => if answer = .admitted then names ++ [name] else names
  | .finish name _ _ | .disconnect name _ => names.filter (· != name)
  | _ => names

/-- Who is there after steps that are answered like this. -/
def presentAfter (steps : List Step) (answers : List Answer) : List String :=
  (steps.zip answers).foldl (fun names made => present names made.1 made.2) []

/-- Whom the server serves is told by steps and answers. -/
theorem servedNames_step (host : Capabilities σ) (bufferSize : Nat) (step : Step)
    (hnodup : session.names.Nodup) :
    (session.step host bufferSize step).session.servedNames =
      present session.servedNames step (session.step host bufferSize step).answer := by
  cases step with
  | connect name peer =>
      exact servedNames_connected (connect_connects session name peer)
  | send name bytes delivery =>
      exact servedNames_exchange host bufferSize hnodup name bytes delivery
  | read name delivery => exact servedNames_exchange host bufferSize hnodup name [] delivery
  | finish name bytes arrivals | disconnect name parting =>
      simp only [Session.step, present]
      split
      next hclient =>
        rw [← servedNames_without, without_of_client?_eq_none hclient]
        rfl
      · exact servedNames_without
      · exact servedNames_without
  | forget name =>
      simp only [Session.step, present]
      split
      next hclient => exact filterMap_without _ hnodup hclient rfl
      · rfl
  | release slot | stop =>
      simp only [Session.step, present]
      split <;> rfl
  | records => rfl

theorem servedNames_reached (host : Capabilities σ) (bufferSize : Nat) {steps : List Step}
    (h : session.Accounted capacity) (hrelease : ∀ slot, .release slot ∉ steps)
    (hfresh : session.Fresh host bufferSize steps) :
    (session.reached host bufferSize steps).servedNames =
      (steps.zip ((session.run host bufferSize steps).map Progress.answer)).foldl
        (fun names made => present names made.1 made.2) session.servedNames := by
  induction steps generalizing session with
  | nil => rfl
  | cons step steps ih =>
      obtain ⟨hstep, hrest⟩ := hfresh
      obtain ⟨hfirst, hlater⟩ := Step.notMem_cons hrelease
      rw [reached_cons, run, List.map_cons, List.zip_cons_cons, List.foldl_cons,
        ← servedNames_step host bufferSize step h.names_nodup]
      exact ih (h.step host bufferSize hfirst hstep) hlater hrest

/-- The state of affairs in which a server admits clients, of which these are there; `serving` says
whether it can be reached and was not stopped. -/
structure Admission (host : Capabilities σ) (bufferSize capacity : Nat) (serving : Prop)
    (present : List String) (session : Session σ) : Prop where
  /-- Those that were admitted and have not left are the clients that are served. -/
  served_eq : session.servedNames = present
  /-- The slots are held by the clients that are served. -/
  holds_iff : ∀ slot record, session.slots.table.record? slot = some record ↔
    record.slot = slot ∧ ∃ client ∈ session.served, client.record = record
  active_eq : session.active = present.length
  active_eq_served : session.active = session.served.length
  active_le : session.active ≤ capacity
  decides : serving → ∀ name peer,
    Decides capacity session name peer (session.connect name peer)
  /-- Whoever is not admitted does nothing and is not missed. -/
  unnoticed : ∀ name steps, session.client? name = none →
    (∀ progress ∈ picked (Step.isBy name) steps (session.run host bufferSize steps),
      progress.answer ≠ .admitted) →
    session.without name = session ∧ session.Unnoticed host bufferSize name steps
  /-- After all have left, there is room for as many as at first. -/
  room : present = [] → session.active = 0 ∧
    (serving → ∀ clients : List (String × Option IpAddress), clients.length = capacity →
      (session.run host bufferSize (clients.map fun client => .connect client.1 client.2)).map
        Progress.answer = List.replicate capacity .admitted)

/-- Whatever clients do, as long as nobody releases their slots directly, a server admits as many
clients as it can serve at once, and the others go unnoticed. -/
theorem run_admission (host : Capabilities σ) (address : SocketAddress) (reachable : Bool)
    (config : Config) (state : σ) (steps : List Step)
    (hrelease : ∀ slot, .release slot ∉ steps)
    (hfresh : (new address reachable config state).Fresh host config.bufferSize.toNat steps) :
    let start := new address reachable config state
    let bufferSize := config.bufferSize.toNat
    Admission host bufferSize config.maxConnections.toNat (reachable = true ∧ .stop ∉ steps)
      (presentAfter steps ((start.run host bufferSize steps).map Progress.answer))
      (start.reached host bufferSize steps) := by
  intro start bufferSize
  have haccounted : Accounted config.maxConnections.toNat (start.reached host bufferSize steps) :=
    (Accounted.new address reachable config state).reached host _ hrelease hfresh
  have hpresent : (start.reached host bufferSize steps).servedNames =
      presentAfter steps ((start.run host bufferSize steps).map Progress.answer) := 
    servedNames_reached host bufferSize (.new address reachable config state) hrelease hfresh
  obtain ⟨hreachable, haccepting⟩ := accepts_reached start host bufferSize steps
  generalize start.reached host bufferSize steps = session at *
  generalize presentAfter steps _ = names at hpresent ⊢
  have hserving : reachable = true ∧ .stop ∉ steps →
      session.reachable = true ∧ session.accepting = true := by
    rintro ⟨hserver, hstop⟩
    exact ⟨hreachable.trans hserver, haccepting.mpr ⟨rfl, hstop⟩⟩
  have hactive : session.active = names.length := by
    rw [haccounted.active_eq, ← length_servedNames, hpresent]
  refine ⟨hpresent, haccounted.record?_eq_some_iff, hactive, haccounted.active_eq,
    haccounted.active_le, ?_, ?_, ?_⟩
  · intro hopen name peer
    obtain ⟨hreached, haccepted⟩ := hserving hopen
    exact decides_connect haccounted.orderly hreached haccepted name peer
  · intro name steps hname hanswers
    refine ⟨without_of_client?_eq_none hname, Outside.run host _ (fun served => ?_) hanswers⟩
    simp [hname]
  · rintro rfl
    refine ⟨hactive, fun hopen clients hclients => ?_⟩
    obtain ⟨hreached, haccepted⟩ := hserving hopen
    rw [← hclients]
    refine admitted_of_room host _ haccounted.orderly hreached haccepted clients ?_
    rw [hactive, List.length_nil, Nat.zero_add]
    exact Nat.le_of_eq hclients

/-- One slot: the second client is turned away, and the third is admitted after the first has
left. -/
theorem run_admission_one_slot :
    let host : Capabilities Unit := (Script.mk [] .echo).capabilities
    let config : Config := { Config.default with maxConnections := 1, bufferSize := 4 }
    let start := new ⟨localPeer, 8080, 0⟩ true config ()
    let steps : List Step := [.connect "alpha", .connect "beta", .send "alpha" [1, 2],
      .disconnect "alpha", .forget "beta", .connect "gamma"]
    (∀ slot, .release slot ∉ steps) ∧ start.Fresh host 4 steps ∧
      (start.run host 4 steps).map Progress.answer = [.admitted, .turnedAway,
        .reply (Worker.acknowledgement "127.0.0.1" [1, 2]), .gone, .gone, .admitted] ∧
      Admission host 4 1 (true = true ∧ .stop ∉ steps) ["gamma"] (start.reached host 4 steps) := by
  intro host config start steps
  have hrelease : ∀ slot, .release slot ∉ steps := by simp [steps]
  have hfresh : start.Fresh host 4 steps := by decide +kernel
  have hanswers : (start.run host 4 steps).map Progress.answer = [.admitted, .turnedAway,
      .reply (Worker.acknowledgement "127.0.0.1" [1, 2]), .gone, .gone, .admitted] := by
    decide +kernel
  have hadmission := run_admission host ⟨localPeer, 8080, 0⟩ true config () steps hrelease hfresh
  refine ⟨hrelease, hfresh, hanswers, ?_⟩
  have hpresent : presentAfter steps ((start.run host 4 steps).map Progress.answer) =
      ["gamma"] := by
    rw [hanswers]
    decide
  rw [← hpresent]
  exact hadmission

end Session

end SlotServer.Server
