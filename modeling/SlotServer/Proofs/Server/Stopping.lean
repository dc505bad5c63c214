import SlotServer.Capability.Scripted
import SlotServer.Proofs.Server.Steps

/-!
# Stopping a server

A server that is stopped no longer accepts connections, and that is all: the clients that it serves
go on as if nothing had happened. So a stop can be moved about in a run, as long as nobody connects
after it, and whoever connects later is refused without a trace.
-/

namespace SlotServer.Server

variable {σ : Type}

/-- The session in which connections are no longer accepted. -/
def Session.stopped (session : Session σ) : Session σ :=
  { session with accepting := false }

/-- The course of a step as it is if the server was stopped before: a stop finds nothing left to
do, and every other step goes as it goes. -/
def Progress.afterStop (progress : Progress σ) (step : Step) : Progress σ where
  session := progress.session.stopped
  answer := if step = .stop then .alreadyStopped else progress.answer
  trace := progress.trace
  log := if step = .stop then [] else progress.log

/-- Whether a step is for the server as a whole: a new client, or a stop. -/
def Step.isAccess : Step → Bool
  | connect _ _ | stop => true
  | _ => false

namespace Session

variable (session : Session σ) (host : Capabilities σ) (bufferSize : Nat)

/-! ## Runs one after another -/

theorem run_append_steps (first rest : List Step) :
    session.run host bufferSize (first ++ rest) = session.run host bufferSize first ++
      (session.reached host bufferSize first).run host bufferSize rest := by
  induction first generalizing session with
  | nil => rfl
  | cons step first ih => rw [List.cons_append, run, run, ih, reached_cons, List.cons_append]

/-! ## Steps of a stopped server -/

theorem readReply_stopped (name : String) (client : Served) :
    session.stopped.readReply name client =
      ((session.readReply name client).1.stopped, (session.readReply name client).2) := by
  unfold readReply
  split <;> rfl

theorem deliver_stopped (name : String) (client : Served) (bytes : Bytes) (delivery : Delivery) :
    session.stopped.deliver host bufferSize name client bytes delivery =
      ((session.deliver host bufferSize name client bytes delivery).1,
        { (session.deliver host bufferSize name client bytes delivery).2 with
          session :=
            (session.deliver host bufferSize name client bytes delivery).2.session.stopped }) :=
  rfl

theorem exchange_stopped (name : String) (bytes : Bytes) (delivery : Delivery) :
    session.stopped.exchange host bufferSize name bytes delivery =
      { session.exchange host bufferSize name bytes delivery with
        session := (session.exchange host bufferSize name bytes delivery).session.stopped } := by
  have hclient : session.stopped.client? name = session.client? name := rfl
  simp only [exchange, hclient]
  split
  · rfl
  · rfl
  · rw [deliver_stopped, readReply_stopped]

/-- Stopping does not matter to any step but a connection. -/
theorem step_stopped {step : Step} (h : ∀ name peer, step ≠ .connect name peer) :
    session.stopped.step host bufferSize step =
      (session.step host bufferSize step).afterStop step := by
  have hclient : ∀ name, session.stopped.client? name = session.client? name := fun _ => rfl
  cases step with
  | connect name peer => exact absurd rfl (h name peer)
  | send name bytes delivery => exact exchange_stopped session host bufferSize name bytes delivery
  | read name delivery => exact exchange_stopped session host bufferSize name [] delivery
  | finish name bytes arrivals | disconnect name parting | forget name =>
      simp only [step, hclient]
      split <;> rfl
  | release slot =>
      have hslots : session.stopped.slots = session.slots := rfl
      simp only [step, hslots]
      split <;> rfl
  | records => rfl
  | stop =>
      cases haccepting : session.accepting <;>
        simp [step, stopped, unchanged, Progress.afterStop, haccepting]

theorem run_stopped (steps : List Step) (h : ∀ name peer, .connect name peer ∉ steps) :
    session.stopped.run host bufferSize steps =
      List.zipWith Progress.afterStop (session.run host bufferSize steps) steps := by
  induction steps generalizing session with
  | nil => rfl
  | cons step steps ih =>
      have hcons := fun name => Step.notMem_cons (h name)
      have hrest := ih (session.step host bufferSize step).session fun name => (hcons name).2
      rw [run, run, step_stopped session host bufferSize fun name => (hcons name).1, List.zipWith_cons_cons, ← hrest]
      rfl

theorem length_run (steps : List Step) :
    (session.run host bufferSize steps).length = steps.length := by
  induction steps generalizing session with
  | nil => rfl
  | cons step steps ih => rw [run, List.length_cons, ih, List.length_cons]

/-- What two runs have in common step by step they have in common as a whole. -/
theorem map_zipWith_afterStop {α : Type} (f g : Progress σ → α)
    (h : ∀ progress step, f (progress.afterStop step) = g progress)
    {course : List (Progress σ)} {steps : List Step} (hlength : course.length = steps.length) :
    (List.zipWith Progress.afterStop course steps).map f = course.map g := by
  induction course generalizing steps with
  | nil => rfl
  | cons progress course ih =>
      cases steps with
      | nil => cases hlength
      | cons step steps =>
          rw [List.zipWith_cons_cons, List.map_cons, List.map_cons, h, ih (by simpa using hlength)]

/-- All steps but stops are answered the same. -/
theorem answers_zipWith_afterStop (course : List (Progress σ)) (steps : List Step) :
    (picked (· != .stop) steps (List.zipWith Progress.afterStop course steps)).map
        Progress.answer =
      (picked (· != .stop) steps course).map Progress.answer := by
  induction course generalizing steps with
  | nil => rfl
  | cons progress course ih =>
      cases steps with
      | nil => rfl
      | cons step steps =>
          have hrest := ih steps
          simp only [picked, List.zipWith_cons_cons, List.zip_cons_cons, List.filter_cons] at *
          by_cases hstep : step = .stop
          · simpa [hstep] using hrest
          · simpa [hstep, Progress.afterStop] using hrest

/-! ## Connections to a stopped server -/

variable {session}

/-- A stopped server has no use for new clients and further stops. -/
theorem step_access (h : session.accepting = false) {step : Step} (hstep : step.isAccess = true) :
    ∃ answer, session.step host bufferSize step = session.unchanged answer := by
  cases step with
  | connect name peer =>
      cases hreachable : session.reachable with
      | false => exact ⟨.unreachable, by simp [step, connect, hreachable]⟩
      | true => exact ⟨.refused, by simp [step, connect, hreachable, h]⟩
  | stop => exact ⟨.alreadyStopped, by simp [step, h]⟩
  | _ => cases hstep

theorem accepting_reached (h : session.accepting = false) (steps : List Step) :
    (session.reached host bufferSize steps).accepting = false := by
  refine Bool.eq_false_iff.mpr fun haccepting => ?_
  have hbefore := (accepts_reached session host bufferSize steps).2.mp haccepting
  rw [h] at hbefore
  exact Bool.false_ne_true hbefore.1

/-- What becomes of a stopped server does not depend on who tries to connect to it or to stop it. -/
theorem run_without_access (h : session.accepting = false) (steps : List Step) :
    picked (!·.isAccess) steps (session.run host bufferSize steps) =
        session.run host bufferSize (steps.filter (!·.isAccess)) ∧
      session.reached host bufferSize steps =
        session.reached host bufferSize (steps.filter (!·.isAccess)) := by
  induction steps generalizing session with
  | nil => exact ⟨rfl, rfl⟩
  | cons step steps ih =>
      rw [picked_run_cons, reached_cons]
      cases hstep : step.isAccess with
      | true =>
          -- The session is the same afterwards, so the rest runs as if this step were not there.
          obtain ⟨answer, hunchanged⟩ := step_access host bufferSize h hstep
          rw [hunchanged, List.filter_cons_of_neg (by simp [hstep])]
          exact ih h
      | false =>
          have hnext : (session.step host bufferSize step).session.accepting = false :=
            accepting_reached host bufferSize h [step]
          obtain ⟨hrun, hreached⟩ := ih hnext
          rw [List.filter_cons_of_pos (by simp [hstep]), hrun, hreached, reached_cons]
          exact ⟨rfl, rfl⟩

/-! ## Stopping at any point of a run -/

variable (session)

/-- A stop that nobody notices: the course of the later steps is the same without it and with it. -/
structure StopUnseen (later : List Step) (stop : Progress σ) (course rest : List (Progress σ)) :
    Prop where
  answer_eq : stop.answer = .stopped
  trace_eq : stop.trace = []
  session_eq : stop.session = session.stopped
  /-- All that the stop changes later is what another stop comes to. -/
  rest_eq : rest = List.zipWith Progress.afterStop course later
  /-- Each step calls and replies what it would call and reply. -/
  traces : rest.map Progress.trace = course.map Progress.trace
  answers : (picked (· != .stop) later rest).map Progress.answer =
    (picked (· != .stop) later course).map Progress.answer
  /-- Slots, leases, clients and the machine are after each step as they would be. -/
  sessions : rest.map Progress.session = course.map fun progress => progress.session.stopped
  actives : (rest.map fun progress => progress.session.active) =
    course.map fun progress => progress.session.active

/-- A server that was stopped: it refuses clients, it cannot be stopped again, and neither attempt
makes a difference to anybody else. -/
structure Closed : Prop where
  connect_eq : session.reachable = true →
    ∀ name peer, session.step host bufferSize (.connect name peer) = session.unchanged .refused
  stop_eq : session.step host bufferSize .stop = session.unchanged .alreadyStopped
  access : ∀ steps before step later, steps = before ++ step :: later → step.isAccess = true →
    ((session.reached host bufferSize before).step host bufferSize step).session =
      session.reached host bufferSize before
  run_eq : ∀ steps, picked (!·.isAccess) steps (session.run host bufferSize steps) =
    session.run host bufferSize (steps.filter (!·.isAccess))
  reached_eq : ∀ steps, session.reached host bufferSize steps =
    session.reached host bufferSize (steps.filter (!·.isAccess))

variable {session}

theorem closed_of_accepting (h : session.accepting = false) : session.Closed host bufferSize := by
  refine ⟨?_, by simp [step, h], ?_, fun steps => (run_without_access host bufferSize h steps).1,
    fun steps => (run_without_access host bufferSize h steps).2⟩
  · intro hreachable name peer
    simp [step, connect, hreachable, h]
  · intro _ before step _ _ hstep
    obtain ⟨answer, hunchanged⟩ :=
      step_access host bufferSize (accepting_reached host bufferSize h before) hstep
    rw [hunchanged]
    rfl

/-- A stop can be put anywhere into a run, as long as nobody connects after it: nothing else
changes. After it, connections are refused, and this makes no difference either. -/
theorem run_stop_unseen (host : Capabilities σ) (address : SocketAddress) (reachable : Bool)
    (config : Config) (state : σ) (before later : List Step) (hstop : .stop ∉ before)
    (hconnect : ∀ name peer, .connect name peer ∉ later) :
    let bufferSize := config.bufferSize.toNat
    let start := new address reachable config state
    let session := start.reached host bufferSize before
    (∃ stop course rest,
      start.run host bufferSize (before ++ later) =
          start.run host bufferSize before ++ course ∧
        start.run host bufferSize (before ++ .stop :: later) =
          start.run host bufferSize before ++ stop :: rest ∧
        session.StopUnseen later stop course rest) ∧
      ∀ more, (start.reached host bufferSize (before ++ .stop :: more)).Closed host bufferSize := by
  intro bufferSize start session
  have haccepting : session.accepting = true :=
    (accepts_reached start host bufferSize before).2.mpr ⟨rfl, hstop⟩
  have hstep : session.step host bufferSize .stop =
      ⟨session.stopped, .stopped, [], [(.accept, .acceptingStopped session.address)]⟩ :=
    if_pos haccepting
  have hlength := length_run session host bufferSize later
  refine ⟨⟨session.step host bufferSize .stop, session.run host bufferSize later,
    session.stopped.run host bufferSize later,
    run_append_steps start host bufferSize before later, ?_, ?_⟩, ?_⟩
  · rw [run_append_steps, run, hstep]
  · rw [hstep, run_stopped session host bufferSize later hconnect]
    exact ⟨rfl, rfl, rfl, rfl, map_zipWith_afterStop _ _ (fun _ _ => rfl) hlength,
      answers_zipWith_afterStop _ _, map_zipWith_afterStop _ _ (fun _ _ => rfl) hlength,
      map_zipWith_afterStop _ _ (fun _ _ => rfl) hlength⟩
  · intro more
    refine closed_of_accepting host bufferSize (Bool.eq_false_iff.mpr fun hlater => ?_)
    have hmem := ((accepts_reached start host bufferSize (before ++ .stop :: more)).2.mp hlater).2
    exact hmem (List.mem_append_right before List.mem_cons_self)

theorem run_stop_unseen_one_slot :
    let host : Capabilities Unit := (Script.mk [] .echo).capabilities
    let config : Config := { Config.default with maxConnections := 1, bufferSize := 4 }
    let start := new ⟨localPeer, 8080, 0⟩ true config ()
    let before : List Step := [.connect "alpha", .send "alpha" [0x47, 0x45]]
    let later : List Step := [.send "alpha" [0x54, 0x20], .release 0, .finish "alpha" [0x61]]
    .stop ∉ before ∧ (∀ name peer, .connect name peer ∉ later) ∧
      ∃ stop course rest,
        start.run host 4 (before ++ later) = start.run host 4 before ++ course ∧
          start.run host 4 (before ++ .stop :: later) = start.run host 4 before ++ stop :: rest ∧
          (start.reached host 4 before).StopUnseen later stop course rest := by
  intro host config start before later
  have hstop : .stop ∉ before := by decide
  have hconnect : ∀ name peer, .connect name peer ∉ later := by simp [later]
  exact ⟨hstop, hconnect, (run_stop_unseen host ⟨localPeer, 8080, 0⟩ true config () before later
    hstop hconnect).1⟩

end Session

end SlotServer.Server
