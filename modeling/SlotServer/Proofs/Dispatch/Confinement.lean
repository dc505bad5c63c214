import SlotServer.Proofs.Command.Layout
import SlotServer.Proofs.Dispatch.Local

/-!
# Confinement of commands

A command makes use of one capability only, that of its kind: a retrieve command opens a file, a
store command creates one and writes to it, a run command starts a process, and any other command
does nothing at all. This holds whatever the machine answers, so nothing that goes wrong can lead a
command into the branch of another kind.
-/

namespace SlotServer

/-- The kind of command that an action is left to. Announcements, replies and events are left to no
kind. -/
def Action.kind? : Action → Option CommandKind
  | opened _ | retrieved _ => some .retrieve
  | created _ | wrote _ | flushed => some .store
  | ran _ | output _ => some .run
  | began _ | replied _ | logged _ => none

/-- The calls of a trace: its actions less announcements, replies and events. -/
def Trace.calls (trace : Trace) : Trace :=
  trace.filter fun action => action.kind?.isSome

/-- The messages of the events of a trace. -/
def Trace.messages (trace : Trace) : List String :=
  trace.events.map fun event => event.entry.message

theorem Trace.messages_append (first rest : Trace) :
    messages (first ++ rest) = first.messages ++ rest.messages := by
  rw [messages, events, List.filterMap_append, List.map_append]
  rfl

namespace Dispatch

variable {σ : Type} (host : Capabilities σ)

/-! ## Calls and failures -/

/-- A trace of calls, and then perhaps an event of what went wrong. -/
structure Course (calls : Trace) (failure : Option Log.Event) (trace : Trace) : Prop where
  trace_eq : trace = calls ++ (failure.map Action.logged).toList
  calls_only : ∀ action ∈ calls, action.kind?.isSome
  failure_debug : ∀ event ∈ failure, event.entry.level = .debug

variable {calls trace : Trace} {failure : Option Log.Event}

theorem Course.calls_eq (h : Course calls failure trace) : trace.calls = calls := by
  have hcalls : calls.filter (fun action => action.kind?.isSome) = calls :=
    List.filter_eq_self.mpr h.calls_only
  have hfailure : (failure.map Action.logged).toList.filter
      (fun action => action.kind?.isSome) = [] := by
    cases failure <;> rfl
  rw [h.trace_eq, Trace.calls, List.filter_append, hcalls, hfailure, List.append_nil]

theorem Course.events_eq (h : Course calls failure trace) : trace.events = failure.toList := by
  have hcalls : calls.filterMap Action.event? = [] := by
    rw [List.filterMap_eq_nil_iff]
    intro action haction
    have hcall := h.calls_only action haction
    cases action with
    | logged event => cases hcall
    | _ => rfl
  have hfailure : (failure.map Action.logged).toList.filterMap Action.event? =
      failure.toList := by
    cases failure <;> rfl
  rw [h.trace_eq, Trace.events, List.filterMap_append, hcalls, hfailure, List.nil_append]

theorem Course.messages_eq (h : Course calls failure trace) :
    trace.messages = (failure.map fun event => event.entry.message).toList := by
  rw [Trace.messages, h.events_eq]
  cases failure <;> rfl

/-- Without calls, a trace is the event of what went wrong. -/
theorem course_of_failure {event : Log.Event} (h : event.entry.level = .debug) :
    Course [] (some event) [.logged event] :=
  ⟨rfl, by simp, by simpa using h⟩

/-! ## Each kind of command -/

theorem kind?_retrieving (path : String) (chunks : List Bytes) :
    ∀ action ∈ Action.opened path :: chunks.map .retrieved,
      action.kind? = some .retrieve := by
  intro action haction
  rcases List.mem_cons.mp haction with rfl | haction
  · rfl
  · obtain ⟨chunk, -, rfl⟩ := List.mem_map.mp haction
    rfl

theorem kind?_storing (path : String) (accepted : List Bytes) (flushes : Nat) :
    ∀ action ∈ Action.created path ::
      (accepted.map .wrote ++ List.replicate flushes .flushed), action.kind? = some .store := by
  intro action haction
  rcases List.mem_cons.mp haction with rfl | haction
  · rfl
  rcases List.mem_append.mp haction with haction | haction
  · obtain ⟨bytes, -, rfl⟩ := List.mem_map.mp haction
    rfl
  · rw [List.eq_of_mem_replicate haction]
    rfl

theorem isSome_of_kind? {kind : CommandKind} (h : ∀ action ∈ calls, action.kind? = some kind) :
    ∀ action ∈ calls, action.kind?.isSome := by
  intro action haction
  rw [h action haction]
  rfl

theorem retrieve_course (path : String) (state : σ) :
    ∃ (chunks : List Bytes) (failure : Option Log.Event),
      Course (.opened path :: chunks.map .retrieved) failure (retrieve host path state).trace := by
  have honly := fun chunks => isSome_of_kind? (kind?_retrieving path chunks)
  cases ho : (host.openFile path state).1 with
  | error fault =>
      exact ⟨[], some (.retrieveSkipped path fault), by simp [retrieve, ho], honly [], by simp; rfl⟩
  | ok script =>
      let chunking := Transfer.chunks (some chunkBytes) script
      refine ⟨chunking.chunks, chunking.fault.map (.retrieveInterrupted path), ?_, honly _, ?_⟩
      · simp [retrieve, ho, chunking, Function.comp_def]
      · intro event hevent
        obtain ⟨fault, -, rfl⟩ := Option.map_eq_some_iff.mp hevent
        rfl

/-- Filling a file makes write calls, and at most one flush. -/
theorem fill_calls (path : String) (script : WriteScript) (body : Bytes) (state : σ) :
    ∃ (accepted : List Bytes) (flushes : Nat), flushes ≤ 1 ∧
      (fill host path script body state).trace =
        accepted.map Action.wrote ++ List.replicate flushes .flushed ∧
      (fill host path script body state).state =
        accepted.foldl (fun state bytes => host.append path bytes state) state := by
  let written := Transfer.writeAll script body
  cases hf : (Transfer.writeAll script body).fault with
  | some fault => exact ⟨written.accepted, 0, Nat.zero_le 1, by simp [fill, hf, written]⟩
  | none => exact ⟨written.accepted, 1, Nat.le_refl 1, by simp [fill, hf, written]⟩

/-- An argument has no path if it has no blank; otherwise the path ends before the first one. -/
theorem splitBody?_cases (argument : String) :
    (∀ c ∈ argument.toList, Text.isBlank c = false) ∧ splitBody? argument = none ∨
      ∃ (path body : String) (blank : Char), splitBody? argument = some (path, body) ∧
        argument.toList = path.toList ++ blank :: body.toList ∧ Text.isBlank blank ∧
        ∀ c ∈ path.toList, Text.isBlank c = false := by
  have hsplit := Text.firstWord_append_afterWord argument.toList
  have hword : ∀ c ∈ Text.firstWord argument.toList, Text.isBlank c = false := by
    intro c hc
    simpa using Text.of_mem_takeWhile c hc
  cases hafter : Text.afterWord argument.toList with
  | nil =>
      rw [hafter, List.append_nil] at hsplit
      rw [hsplit] at hword
      exact .inl ⟨hword, by simp [splitBody?, hafter]⟩
  | cons blank body =>
      refine .inr ⟨String.ofList (Text.firstWord argument.toList), String.ofList body, blank, ?_,
        ?_, ?_, ?_⟩
      · simp [splitBody?, hafter]
      · rw [String.toList_ofList, String.toList_ofList, ← hafter, hsplit]
      · exact Text.isBlank_of_mem_head?_afterWord argument.toList blank (by rw [hafter]; rfl)
      · rwa [String.toList_ofList]

/-- A word, a blank and any rest are taken apart at this blank. -/
theorem splitBody?_eq_some {argument path body : String} {blank : Char}
    (hargument : argument.toList = path.toList ++ blank :: body.toList)
    (hblank : Text.isBlank blank) (hsolid : ∀ c ∈ path.toList, Text.isBlank c = false) :
    splitBody? argument = some (path, body) := by
  have hword : ∀ c ∈ path.toList, (!Text.isBlank c) = true := by
    intro c hc
    rw [hsolid c hc]
    rfl
  have hend : ∀ c ∈ (blank :: body.toList).head?, (!Text.isBlank c) = false := by
    rintro c ⟨⟩
    rw [hblank]
    rfl
  simp only [splitBody?, hargument, Text.afterWord, Text.firstWord,
    Text.dropWhile_append_eq_right hword hend, Text.takeWhile_append_eq_left hword hend,
    String.ofList_toList]

/-- What a store command does that names this path: it creates the path, and if that succeeds it
writes and flushes what it created. -/
structure Stores (path : String) (accepted : List Bytes) (flushes : Nat) (state : σ)
    (calls : Trace) (left : σ) : Prop where
  flushes_le : flushes ≤ 1
  calls_eq : calls =
    .created path :: (accepted.map Action.wrote ++ List.replicate flushes .flushed)
  state_eq : left = accepted.foldl (fun state bytes => host.append path bytes state)
    (host.createFile path state).2
  of_error : ∀ fault, (host.createFile path state).1 = .error fault →
    accepted = [] ∧ flushes = 0

theorem store_course {argument path body : String} (h : splitBody? argument = some (path, body))
    (state : σ) : ∃ accepted flushes calls failure,
      Stores host path accepted flushes state calls (store host argument state).state ∧
        Course calls failure (store host argument state).trace := by
  have honly := fun accepted flushes => isSome_of_kind? (kind?_storing path accepted flushes)
  cases hc : (host.createFile path state).1 with
  | error fault =>
      refine ⟨[], 0, _, some (.storeFailed path fault), ⟨Nat.zero_le 1, rfl, ?_, ?_⟩,
        ?_, honly [] 0, by simp; rfl⟩
      · simp [store, h, hc]
      · simp
      · simp [store, h, hc]
  | ok script =>
      let filled := fill host path script (Utf8.encodeString body) (host.createFile path state).2
      obtain ⟨accepted, flushes, hflushes, htrace, hstate⟩ :=
        fill_calls host path script (Utf8.encodeString body) (host.createFile path state).2
      refine ⟨accepted, flushes, _, filled.value.map (.storeFailed path),
        ⟨hflushes, rfl, ?_, ?_⟩, ?_, honly accepted flushes, ?_⟩
      · simp only [store, h, hc]
        exact hstate
      · simp [hc]
      · simp only [store, h, hc, htrace, filled, Option.map_map]
        rfl
      · intro event hevent
        obtain ⟨fault, -, rfl⟩ := Option.map_eq_some_iff.mp hevent
        rfl

theorem run_course (commandLine : String) (state : σ) :
    ∃ failure, Course [.ran commandLine] failure (run host commandLine state).trace := by
  have honly : ∀ action ∈ [Action.ran commandLine], action.kind?.isSome := by
    simp [Action.kind?]
  cases hr : (host.run commandLine state).1 with
  | error fault => exact ⟨some (.runFailed fault), by simp [run, hr], honly, by simp; rfl⟩
  | ok lines => exact ⟨none, by simp [run, hr], honly, by simp⟩

/-! ## Any command -/

/-- The rules of what a command may call: what it calls, how it leaves the machine and which output
it has. Each kind of command has rules of its own. -/
inductive Keeps (command : Command) (state : σ) : Trace → σ → Option String → Prop where
  /-- A retrieve command opens the file that its whole argument names. -/
  | retrieve (hkind : command.kind = .retrieve) (chunks : List Bytes) :
      Keeps command state (.opened command.argument :: chunks.map .retrieved)
        (host.openFile command.argument state).2 none
  /-- A store command without a blank in its argument calls nothing. -/
  | bodiless (hkind : command.kind = .store)
      (hsolid : ∀ c ∈ command.argument.toList, Text.isBlank c = false) :
      Keeps command state [] state none
  /-- The path of a store command stands before the first blank of its argument. -/
  | store (hkind : command.kind = .store) {path body : String} {blank : Char}
      (hargument : command.argument.toList = path.toList ++ blank :: body.toList)
      (hblank : Text.isBlank blank) (hsolid : ∀ c ∈ path.toList, Text.isBlank c = false)
      {accepted flushes calls left} (h : Stores host path accepted flushes state calls left) :
      Keeps command state calls left none
  /-- A run command whose process cannot be started has no output. -/
  | unstarted (hkind : command.kind = .run) {fault : Fault}
      (h : (host.run command.argument state).1 = .error fault) :
      Keeps command state [.ran command.argument] (host.run command.argument state).2 (some "")
  /-- A run command starts the process that its whole argument names. -/
  | run (hkind : command.kind = .run) {lines : List String}
      (h : (host.run command.argument state).1 = .ok lines) :
      Keeps command state [.ran command.argument] (host.run command.argument state).2
        (some (String.join lines))
  /-- Any other command calls nothing. -/
  | unknown (hkind : command.kind = .unknown) : Keeps command state [] state none

theorem execute_keeps (command : Command) (state : σ) : ∃ calls failure,
    Course calls failure (execute host command state).trace ∧
      Keeps host command state calls (execute host command state).state
        (execute host command state).value := by
  cases hkind : command.kind with
  | retrieve =>
      obtain ⟨chunks, failure, hcourse⟩ := retrieve_course host command.argument state
      refine ⟨_, failure, by simpa only [execute, hkind] using hcourse, ?_⟩
      simp only [execute, hkind]
      exact .retrieve hkind chunks
  | store =>
      simp only [execute, hkind]
      rcases splitBody?_cases command.argument with
        ⟨hsolid, hsplit⟩ | ⟨path, body, blank, hsplit, hargument, hblank, hsolid⟩
      · simp only [Dispatch.store, hsplit]
        exact ⟨[], _, course_of_failure rfl, .bodiless hkind hsolid⟩
      · obtain ⟨accepted, flushes, calls, failure, hstores, hcourse⟩ :=
          store_course host hsplit state
        exact ⟨calls, failure, hcourse, .store hkind hargument hblank hsolid hstores⟩
  | run =>
      obtain ⟨failure, hcourse⟩ := run_course host command.argument state
      refine ⟨_, failure, by simpa only [execute, hkind] using hcourse, ?_⟩
      cases hrun : (host.run command.argument state).1 with
      | error fault =>
          simp only [execute, hkind, Dispatch.run, hrun]
          exact .unstarted hkind hrun
      | ok lines =>
          simp only [execute, hkind, Dispatch.run, hrun]
          exact .run hkind hrun
  | unknown =>
      simp only [execute, hkind]
      exact ⟨[], _, course_of_failure rfl, .unknown hkind⟩

/-- What a command may do, whatever the machine answers. It is announced by an event, and at most
one other event says what went wrong. Its output is left to whoever executes it. -/
structure Confined (command : Command) (state : σ) (outcome : Outcome σ (Option String)) :
    Prop where
  calls : Keeps host command state outcome.trace.calls outcome.state outcome.value
  events : ∃ failure : Option Log.Event, outcome.trace.events =
    .dispatching command.kind (Utf8.encodeString command.argument).length :: failure.toList
  events_debug : ∀ event ∈ outcome.trace.events, event.entry.level = .debug
  value_isSome : outcome.value.isSome ↔ command.kind = .run
  output_notMem : ∀ text, .output text ∉ outcome.trace

theorem dispatch_confined (command : Command) (state : σ) :
    Confined host command state (dispatch host command state) := by
  obtain ⟨calls, failure, hcourse, hkeeps⟩ := execute_keeps host command state
  have hevents : (dispatch host command state).trace.events =
      .dispatching command.kind (Utf8.encodeString command.argument).length ::
        failure.toList := by
    rw [← hcourse.events_eq]
    rfl
  refine ⟨?_, ⟨failure, hevents⟩, ?_, dispatch_value_isSome host command state, ?_⟩
  · rw [← hcourse.calls_eq] at hkeeps
    exact hkeeps
  · intro event hevent
    rw [hevents, List.mem_cons, Option.mem_toList] at hevent
    rcases hevent with rfl | hevent
    · rfl
    · exact hcourse.failure_debug event hevent
  · intro text hmem
    obtain ⟨rest, htrace, hlocal⟩ := dispatch_begun host command state
    rw [htrace, List.mem_cons] at hmem
    rcases hmem with hmem | hmem
    · cases hmem
    · exact Bool.false_ne_true (hlocal _ hmem)

/-- Every call of a command is left to its kind. -/
theorem Keeps.kind?_eq {command : Command} {state left : σ} {value : Option String}
    (h : Keeps host command state calls left value) :
    ∀ action ∈ calls, action.kind? = some command.kind := by
  cases h with
  | retrieve hkind chunks =>
      rw [hkind]
      exact kind?_retrieving command.argument chunks
  | bodiless | unknown => nofun
  | store hkind _ _ _ hstores =>
      rw [hkind, hstores.calls_eq]
      exact kind?_storing _ _ _
  | unstarted hkind | run hkind => simp [hkind, Action.kind?]

/-- The capabilities of two machines are the same as far as commands of one kind go. -/
def Agree (host other : Capabilities σ) : CommandKind → Prop
  | .retrieve => host.openFile = other.openFile
  | .store => host.createFile = other.createFile ∧ host.append = other.append
  | .run => host.run = other.run
  | .unknown => True

/-- A command goes the same way on machines that differ in what is left to other kinds only. -/
theorem dispatch_congr {other : Capabilities σ} {command : Command}
    (h : Agree host other command.kind) (state : σ) :
    dispatch host command state = dispatch other command state := by
  have hexecute : execute host command state = execute other command state := by
    cases hkind : command.kind with
    | retrieve =>
        rw [hkind] at h
        have hopen : host.openFile = other.openFile := h
        simp only [execute, hkind, retrieve, hopen]
    | store =>
        rw [hkind] at h
        obtain ⟨hcreate, happend⟩ := h
        simp only [execute, hkind, store, fill, hcreate, happend]
    | run =>
        rw [hkind] at h
        have hrun : host.run = other.run := h
        simp only [execute, hkind, Dispatch.run, hrun]
    | unknown => simp only [execute, hkind]
  simp only [dispatch, hexecute]

end Dispatch

end SlotServer
