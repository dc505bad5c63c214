import SlotServer.Capability.Scripted
import SlotServer.Proofs.Net.Listening
import SlotServer.Proofs.Server.Visits

/-!
# The life of a server

A run of a server reports one ending, and it is the one that its result tells of: the server could
not be started, waiting for the stop or stopping itself failed, or it was stopped. What its clients
do has no part in this. A client that was there before the stop has its slot until it leaves, and is
answered to the end.
-/

namespace SlotServer

/-- Whether a report is of the end of a run. -/
def Report.isEnding {ε : Type} : Report ε → Bool
  | stopped | failed _ => true
  | starting _ | listening _ _ | stopping _ => false

namespace Server

variable {σ ε : Type}

/-! ## Starting -/

/-- The rules by which a server cannot be started. -/
inductive Unstarted (network : Network) (config : Config) (thread : AcceptThread) :
    ServerError → Prop where
  | unresolved {error} (h : resolve network config.listen = .error error) :
      Unstarted network config thread error
  | unbound {address fault} (hresolve : resolve network config.listen = .ok address)
      (h : network.bind address = .error fault) :
      Unstarted network config thread (.bind address fault)
  | unpolled {address bound fault} (hresolve : resolve network config.listen = .ok address)
      (hbind : network.bind address = .ok bound) (h : network.poll bound = .error fault) :
      Unstarted network config thread (.nonBlocking fault)
  | unspawned {address bound fault} (hresolve : resolve network config.listen = .ok address)
      (hbind : network.bind address = .ok bound) (hpoll : network.poll bound = .ok ())
      (h : thread.spawn = .error fault) : Unstarted network config thread (.spawn fault)

/-- A server that can be started, and accepts connections at an address that is bound then. -/
structure Starts (network : Network) (config : Config) (thread : AcceptThread)
    (bound : SocketAddress) : Prop where
  binds : ∃ address, resolve network config.listen = .ok address ∧
    network.bind address = .ok bound
  polls : network.poll bound = .ok ()
  spawns : thread.spawn = .ok ()

section Starting

variable {network : Network} {config : Config} {thread : AcceptThread} (state : σ)

theorem Unstarted.start_eq {error : ServerError} (h : Unstarted network config thread error) :
    start network config state thread = .error error := by
  cases h with
  | unresolved h =>
      simp only [start, bind, h]
      rfl
  | unbound hresolve h =>
      simp only [start, bind, hresolve, h, Except.mapError, Except.bind, Bind.bind]
  | unpolled hresolve hbind h =>
      simp only [start, bind, hresolve, hbind, h, Except.mapError, Except.bind, Bind.bind]
  | unspawned hresolve hbind hpoll h =>
      simp only [start, bind, hresolve, hbind, hpoll, h, Except.mapError, Except.bind, Bind.bind]

theorem Starts.start_eq {bound : SocketAddress} (h : Starts network config thread bound) :
    start network config state thread =
      .ok (.new bound network.reachable config state,
        [(.accept, .accepting bound (SlotTable.new config.maxConnections.toNat).capacity)]) := by
  obtain ⟨⟨address, hresolve, hbind⟩, hpoll, hspawn⟩ := h
  simp only [start, bind, hresolve, hbind, hpoll, hspawn, Except.mapError, Except.bind, Bind.bind]
  rfl

/-- A server can be started or not, and only one of both. -/
theorem starts_or_unstarted (network : Network) (config : Config) (thread : AcceptThread) :
    (∃ bound, Starts network config thread bound) ∨
      ∃ error, Unstarted network config thread error := by
  cases hresolve : resolve network config.listen with
  | error error => exact .inr ⟨error, .unresolved hresolve⟩
  | ok address =>
      cases hbind : network.bind address with
      | error fault => exact .inr ⟨_, .unbound hresolve hbind⟩
      | ok bound =>
          cases hpoll : network.poll bound with
          | error fault => exact .inr ⟨_, .unpolled hresolve hbind hpoll⟩
          | ok _ =>
              cases hspawn : thread.spawn with
              | error fault => exact .inr ⟨_, .unspawned hresolve hbind hpoll hspawn⟩
              | ok _ => exact .inl ⟨bound, ⟨address, hresolve, hbind⟩, hpoll, hspawn⟩

end Starting

/-! ## Reports and result -/

/-- The ways in which a run can go, by its result and its reports. -/
inductive Ends (network : Network) (config : Config) (waited : Except ε ShutdownCause)
    (thread : AcceptThread) : Except (RunError ε) Unit → List (Report ε) → Prop where
  | unstarted {error} (h : Unstarted network config thread error) :
      Ends network config waited thread (.error (.listener error))
        [.starting config, .failed (.listener error)]
  /-- Nothing could be waited for. Whether the thread then came to its end is not told. -/
  | unwaited {bound error} (hstart : Starts network config thread bound)
      (h : waited = .error error) :
      Ends network config waited thread (.error (.shutdown error))
        [.starting config, .listening config bound, .failed (.shutdown error)]
  | died {bound cause} (hstart : Starts network config thread bound) (h : waited = .ok cause)
      (hdied : thread.panics = true) :
      Ends network config waited thread (.error (.listener .acceptThreadPanicked))
        [.starting config, .listening config bound, .stopping cause,
          .failed (.listener .acceptThreadPanicked)]
  | stopped {bound cause} (hstart : Starts network config thread bound) (h : waited = .ok cause)
      (hends : thread.panics = false) :
      Ends network config waited thread (.ok ())
        [.starting config, .listening config bound, .stopping cause, .stopped]

/-- A run that reports its end at the end, once, and as its result has it. -/
def Run.EndsOnce (run : Run σ ε) : Prop :=
  ∃ earlier, run.reports = earlier ++ [.ofResult run.result] ∧
    ∀ report ∈ earlier, report.isEnding = false

/-- A run that could not be started: it reports why, and nobody is served. -/
structure Run.Failed (run : Run σ ε) (config : Config) (error : ServerError) : Prop where
  result_eq : run.result = .error (.listener error)
  reports_eq : run.reports = [.starting config, .failed (.listener error)]
  unserved : run.course = [] ∧ run.session = none

/-- A run that was started, at an address that was bound, and stopped for a cause. -/
structure Run.Completed (run : Run σ ε) (config : Config) (bound : SocketAddress)
    (cause : ShutdownCause) : Prop where
  result_eq : run.result = .ok ()
  reports_eq : run.reports = [.starting config, .listening config bound, .stopping cause, .stopped]

section Reports

variable {network : Network} (host : Capabilities σ) {config : Config} (steps : List Step)
  (waited : Except ε ShutdownCause) (state : σ) {thread : AcceptThread}

theorem report?_notes (record : Log.Record) :
    (notes record : List (Note ε)).filterMap Note.report? = [] := by
  simp [notes, Note.report?]

/-- A server that is started serves. -/
theorem runUntil_of_start {session : Session σ} {log : Log.Record}
    (h : start network config state thread = .ok (session, log)) :
    runUntil network host config steps waited state thread =
      serveUntil host config session log steps waited thread := by
  unfold runUntil
  rw [h]

theorem runUntil_unstarted {error : ServerError} (h : Unstarted network config thread error) :
    (runUntil network host config steps waited state thread).Failed config error := by
  have hrun : runUntil network host config steps waited state thread =
      ⟨.error (.listener error),
        [.report (.starting config), .report (.failed (.listener error))], [], none⟩ := by
    unfold runUntil
    rw [h.start_eq]
  rw [hrun]
  exact ⟨rfl, rfl, rfl, rfl⟩

theorem reports_notesOfStop (stopped : Except ServerError Unit) (log : Log.Record) :
    (notesOfStop waited stopped log).filterMap Note.report? =
      (waited.toOption.map Report.stopping).toList := by
  have hlog : (if stopped.isOk then notes log else []).filterMap (Note.report? (ε := ε)) = [] := by
    split <;> simp [report?_notes]
  rw [notesOfStop, List.filterMap_append, hlog, List.append_nil]
  cases waited <;> rfl

/-- What is told of serving: where, what was waited for, if anything was, and what came of it. -/
theorem reports_serveUntil (session : Session σ) (log : Log.Record) :
    (serveUntil host config session log steps waited thread).reports =
      [.starting config, .listening config session.address] ++
        (waited.toOption.map Report.stopping).toList ++
          [.ofResult (conclude waited (join thread))] := by
  simp [serveUntil, Run.reports, List.filterMap_append, List.filterMap_flatMap, report?_notes,
    reports_notesOfStop, Note.report?]

/-- However a run goes, its result and its reports go together. -/
theorem runUntil_ends :
    Ends network config waited thread
      (runUntil network host config steps waited state thread).result
      (runUntil network host config steps waited state thread).reports := by
  rcases starts_or_unstarted network config thread with ⟨bound, hstart⟩ | ⟨error, herror⟩
  · rw [runUntil_of_start host steps waited state (hstart.start_eq state), reports_serveUntil]
    cases hwaited : waited with
    | error error => exact .unwaited hstart rfl
    | ok cause =>
        cases hpanics : thread.panics with
        | true =>
            have hjoin : join thread = .error .acceptThreadPanicked := by rw [join, if_pos hpanics]
            rw [hjoin]
            simp only [serveUntil, hjoin]
            exact .died hstart rfl hpanics
        | false =>
            have hjoin : join thread = .ok () := by rw [join, if_neg (by simp [hpanics])]
            rw [hjoin]
            simp only [serveUntil, hjoin]
            exact .stopped hstart rfl hpanics
  · obtain ⟨hresult, hreports, -⟩ := runUntil_unstarted host steps waited state herror
    rw [hresult, hreports]
    exact .unstarted herror

theorem Ends.once {result : Except (RunError ε) Unit} {reports : List (Report ε)}
    (h : Ends network config waited thread result reports) :
    ∃ earlier, reports = earlier ++ [.ofResult result] ∧
      ∀ report ∈ earlier, report.isEnding = false := by
  cases h with
  | @unstarted error _ => exact ⟨[.starting config], rfl, by simp [Report.isEnding]⟩
  | @unwaited bound error _ _ =>
      exact ⟨[.starting config, .listening config bound], rfl, by simp [Report.isEnding]⟩
  | @died bound cause _ _ _ =>
      exact ⟨[.starting config, .listening config bound, .stopping cause], rfl,
        by simp [Report.isEnding]⟩
  | @stopped bound cause _ _ _ =>
      exact ⟨[.starting config, .listening config bound, .stopping cause], rfl,
        by simp [Report.isEnding]⟩

theorem runUntil_completed {bound : SocketAddress} {cause : ShutdownCause}
    (h : Starts network config thread bound) (hends : thread.panics = false) :
    (runUntil (ε := ε) network host config steps (.ok cause) state thread).Completed config bound
      cause := by
  have hconclude : conclude (.ok cause : Except ε ShutdownCause) (join thread) = .ok () := by
    rw [join, if_neg (by simp [hends])]
    rfl
  rw [runUntil_of_start host steps _ state (h.start_eq state)]
  refine ⟨hconclude, ?_⟩
  rw [reports_serveUntil, hconclude]
  rfl

end Reports

/-! ## Runs -/

/-- However a run goes, it reports one ending, which agrees with its result. If its address cannot
be bound, it fails with this. If connections are accepted and a cause to stop is waited for, it is
stopped for this cause whatever steps its clients made. Wherever the stop falls into the visit of a
client that came before, the client is answered to the end, and its slot is free again. -/
theorem run_ends_once (network : Network) (host : Capabilities σ) (config : Config)
    (waited : Except ε ShutdownCause) (thread : AcceptThread) (state : σ) {ip : IpAddress}
    (hhost : IpAddress.parse? config.listen.host = some ip) :
    let address : SocketAddress := { ip, port := config.listen.port }
    let bufferSize := config.bufferSize.toNat
    let run := fun steps => runUntil network host config steps waited state thread
    (∀ steps, (run steps).EndsOnce ∧
      Ends network config waited thread (run steps).result (run steps).reports) ∧
    (∀ fault, network.bind address = .error fault →
      ∀ steps, (run steps).Failed config (.bind address fault)) ∧
    ∀ bound cause, network.bind address = .ok bound → network.poll bound = .ok () →
      thread.spawn = .ok () → thread.panics = false → waited = .ok cause →
        (∀ steps, (run steps).Completed config bound cause) ∧
        ∀ (visit : Visit) before later, visit.steps = before ++ later →
          (∀ name peer, .connect name peer ∉ later) →
          ∃ stopped, (run before).session = some stopped ∧
            let course := (run before).course ++ stopped.run host bufferSize later
            Visited bufferSize visit
              (network.reachable = true ∧ 0 < config.maxConnections.toNat)
              (course.map Progress.answer) (course.map Progress.trace)
              (stopped.reached host bufferSize later) := by
  intro address bufferSize run
  have hresolve : resolve network config.listen = .ok address :=
    ListenAddress.resolve_eq_of_literal network hhost
  refine ⟨fun steps => ?_, fun fault hfault steps => ?_, ?_⟩
  · have hends : Ends network config waited thread (run steps).result (run steps).reports :=
      runUntil_ends host steps waited state
    exact ⟨hends.once, hends⟩
  · exact runUntil_unstarted host steps waited state (.unbound hresolve hfault)
  · rintro bound cause hbound hpoll hspawn hpanics rfl
    have hstart : Starts network config thread bound :=
      ⟨⟨address, hresolve, hbound⟩, hpoll, hspawn⟩
    refine ⟨fun steps => runUntil_completed host steps state hstart hpanics, ?_⟩
    intro visit before later hvisit hconnect
    simp only [run, runUntil_of_start host before _ state (hstart.start_eq state)]
    refine ⟨_, rfl, ?_⟩
    exact Session.visited_stopped host bound network.reachable config state visit hvisit hconnect

/-- Two records with a stop between them, and an address that is in use. -/
theorem run_ends_once_stopped :
    let network : Network :=
      { bind := fun address => .ok { address with port := 4000 }, reachable := true }
    let busy : Network :=
      { bind := fun _ => .error (.system .addressInUse), reachable := true }
    let host : Capabilities Unit := (Script.mk [] .echo).capabilities
    let config : Config := { Config.default with maxConnections := 1, bufferSize := 4 }
    let waited : Except ShutdownError ShutdownCause := .ok .requested
    let before : List Step := [.connect "visitor", .send "visitor" [0x47, 0x45]]
    let later : List Step := [.send "visitor" [0x50], .disconnect "visitor"]
    IpAddress.parse? config.listen.host = some localPeer ∧
      (runUntil busy host config before waited () {}).Failed config
        (.bind ⟨localPeer, 8080, 0⟩ (.system .addressInUse)) ∧
      (runUntil network host config before waited () {}).Completed config ⟨localPeer, 4000, 0⟩
        .requested ∧
      ∃ stopped, (runUntil network host config before waited () {}).session = some stopped ∧
        ((runUntil network host config before waited () {}).course ++
            stopped.run host 4 later).map Progress.answer =
          [.admitted, .reply (Worker.acknowledgement localPeer.text [0x47, 0x45]),
            .reply (Worker.acknowledgement localPeer.text [0x50]), .gone] ∧
        (stopped.reached host 4 later).active = 0 := by
  intro network busy host config waited before later
  have hhost : IpAddress.parse? config.listen.host = some localPeer := by decide +kernel
  obtain ⟨-, hfailed, -⟩ := run_ends_once busy host config waited {} () hhost
  obtain ⟨-, -, hbound⟩ := run_ends_once network host config waited {} () hhost
  obtain ⟨hcompleted, hvisits⟩ := hbound _ .requested rfl rfl rfl rfl rfl
  let visit : Visit :=
    { name := "visitor", peer := localPeer, sends := [([0x47, 0x45], {}), ([0x50], {})] }
  obtain ⟨stopped, hsession, hvisited⟩ := hvisits visit before later rfl (by simp [later])
  refine ⟨hhost, hfailed _ rfl before, hcompleted before, stopped, hsession, ?_,
    hvisited.active_eq⟩
  exact (hvisited.answered ⟨rfl, by decide⟩).read (by decide)

end Server

end SlotServer
