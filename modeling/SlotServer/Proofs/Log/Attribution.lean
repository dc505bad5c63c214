import SlotServer.Capability.Scripted
import SlotServer.Command.Record
import SlotServer.Proofs.Log.Lines
import SlotServer.Proofs.Worker.Exchange

/-!
# Events and what they are about

While records of peers are carried out, every event that is logged can be told the command that is
being executed and the path that was opened or created for it. What the event says of either is
true, and its line says it without loss; so no record can put anything into the log but one line
for each event that it causes.
-/

namespace SlotServer.Log

/-! ## Attribution -/

/-- An event with what was being done when it was logged: the command that was being executed, and
the path that was last opened or created for it. -/
structure Attributed where
  event : Event
  command : Option Command
  path : Option String
  deriving DecidableEq, Repr

/-- The events of a trace, each with what was being done; `command` and `path` are what was being
done before. -/
def attributed (command : Option Command) (path : Option String) : Trace → List Attributed
  | [] => []
  | .began command :: rest => attributed (some command) none rest
  | .opened path :: rest | .created path :: rest => attributed command (some path) rest
  | .logged event :: rest => ⟨event, command, path⟩ :: attributed command path rest
  | _ :: rest => attributed command path rest

/-- The path that a command names: the argument of a retrieve command, and what stands before the
first blank of the argument of a store command. -/
def pathOf? (command : Command) : Option String :=
  match command.kind with
  | .retrieve => some command.argument
  | .store => (Dispatch.splitBody? command.argument).map Prod.fst
  | .run | .unknown => none

/-- The command that was being executed named this path, and it was executed with this path. -/
structure Attributed.ExecutedWith (made : Attributed) (path : String) : Prop where
  used : made.path = some path
  named : made.command.bind pathOf? = some path

/-- What an event says of a command and of a path is true of the command that was being executed and
of the path that it was executed with. -/
structure Attributed.Truthful (made : Attributed) : Prop where
  service : made.event.isService = true
  keyword : ∀ value, ("keyword", value) ∈ made.event.entry.fields →
    ∃ text, made.command.map Command.keyword = some text ∧ value = .quoted text
  path : ∀ value, ("path", value) ∈ made.event.entry.fields →
    ∃ text, made.ExecutedWith text ∧ value = .quoted text

/-- All events of a trace are truthful, whatever was being done before. -/
def Faithful (trace : Trace) : Prop :=
  ∀ command path, ∀ made ∈ attributed command path trace, made.Truthful

section Attribution

variable {command : Option Command} {path : Option String} {trace rest : Trace}

/-- The events are those of the trace. -/
theorem map_event_attributed (command : Option Command) (path : Option String) (trace : Trace) :
    (attributed command path trace).map Attributed.event = trace.events := by
  induction trace generalizing command path with
  | nil => rfl
  | cons action trace ih =>
      cases action with
      | logged event => exact congrArg (event :: ·) (ih command path)
      | began command => exact ih (some command) none
      | opened path | created path => exact ih command (some path)
      | wrote _ | flushed | ran _ | retrieved _ | output _ | replied _ => exact ih command path

theorem attributed_append (command : Option Command) (path : Option String) (trace rest : Trace) :
    ∃ next last, attributed command path (trace ++ rest) =
      attributed command path trace ++ attributed next last rest := by
  induction trace generalizing command path with
  | nil => exact ⟨command, path, rfl⟩
  | cons action trace ih =>
      cases action with
      | logged event =>
          obtain ⟨next, last, hrest⟩ := ih command path
          exact ⟨next, last, congrArg (_ :: ·) hrest⟩
      | began command => exact ih (some command) none
      | opened path | created path => exact ih command (some path)
      | wrote _ | flushed | ran _ | retrieved _ | output _ | replied _ => exact ih command path

theorem Faithful.append (h : Faithful trace) (hrest : Faithful rest) :
    Faithful (trace ++ rest) := by
  intro command path made hmade
  obtain ⟨next, last, hsplit⟩ := attributed_append command path trace rest
  rw [hsplit, List.mem_append] at hmade
  rcases hmade with hmade | hmade
  · exact h command path made hmade
  · exact hrest next last made hmade

/-- Whether an action leaves no trace in the log and changes nothing about what is being done. -/
def isSilent : Action → Bool
  | .wrote _ | .flushed | .ran _ | .retrieved _ | .output _ | .replied _ => true
  | .began _ | .opened _ | .created _ | .logged _ => false

theorem attributed_silent (h : ∀ action ∈ trace, isSilent action = true) :
    attributed command path (trace ++ rest) = attributed command path rest := by
  induction trace with
  | nil => rfl
  | cons action trace ih =>
      obtain ⟨haction, htrace⟩ := List.forall_mem_cons.mp h
      cases action with
      | wrote _ | flushed | ran _ | retrieved _ | output _ | replied _ => exact ih htrace
      | began _ | opened _ | created _ | logged _ => cases haction

theorem faithful_silent (h : ∀ action ∈ trace, isSilent action = true) : Faithful trace := by
  intro command path made hmade
  rw [← List.append_nil trace, attributed_silent h] at hmade
  cases hmade

/-- Whether an event names neither a keyword nor a path. -/
def isNameless : Event → Bool
  | .ignoring _ | .retrieveSkipped _ _ | .retrieveInterrupted _ _ | .storeFailed _ _ => false
  | _ => true

theorem notMem_of_isNameless {event : Event} (h : isNameless event = true) :
    "keyword" ∉ event.entry.fields.map Prod.fst ∧ "path" ∉ event.entry.fields.map Prod.fst := by
  cases event with
  | ignoring _ | retrieveSkipped _ _ | retrieveInterrupted _ _ | storeFailed _ _ => cases h
  | _ => simp [Event.entry]

/-- An event that names neither a keyword nor a path is truthful at any time. -/
theorem truthful_of_isNameless {event : Event} (hservice : event.isService = true)
    (h : isNameless event = true) : Attributed.Truthful ⟨event, command, path⟩ where
  service := hservice
  keyword _ hmem := absurd (List.mem_map_of_mem hmem) (notMem_of_isNameless h).1
  path _ hmem := absurd (List.mem_map_of_mem hmem) (notMem_of_isNameless h).2

theorem truthful_path {event : Event} {text : String} {fault : Fault}
    (hnamed : command.bind pathOf? = some text) (hservice : event.isService = true)
    (hfields : event.entry.fields = [("path", .quoted text), ("error", .plain fault.message)]) :
    Attributed.Truthful ⟨event, command, some text⟩ where
  service := hservice
  keyword value hmem := by
    rw [hfields] at hmem
    simp at hmem
  path value hmem := by
    rw [hfields] at hmem
    exact ⟨text, ⟨rfl, hnamed⟩, by simpa using hmem⟩

end Attribution

/-! ## Executing a command -/

section Execution

variable {σ : Type} (host : Capabilities σ)

theorem silent_map_retrieved (chunks : List Bytes) :
    ∀ action ∈ chunks.map Action.retrieved, isSilent action = true := by
  simp [isSilent]

theorem silent_fill (path : String) (script : WriteScript) (body : Bytes) (state : σ) :
    ∀ action ∈ (Dispatch.fill host path script body state).trace, isSilent action = true := by
  intro action ha
  cases hf : (Transfer.writeAll script body).fault with
  | some fault =>
      simp only [Dispatch.fill, hf, List.mem_map] at ha
      obtain ⟨bytes, -, rfl⟩ := ha
      rfl
  | none =>
      simp only [Dispatch.fill, hf, List.mem_append, List.mem_map, List.mem_singleton] at ha
      rcases ha with ⟨bytes, -, rfl⟩ | rfl <;> rfl

/-- The failure of an operation on a path, if it fails, says which path that was. -/
theorem truthful_failure {command : Option Command} {path : String} {fault? : Option Fault}
    {event : Fault → Event} (hnamed : command.bind pathOf? = some path)
    (hservice : ∀ fault, (event fault).isService = true)
    (hfields : ∀ fault, (event fault).entry.fields =
      [("path", .quoted path), ("error", .plain fault.message)]) :
    ∀ made ∈ attributed command (some path)
      (fault?.map fun fault => Action.logged (event fault)).toList, made.Truthful := by
  cases fault? with
  | none => simp [attributed]
  | some fault =>
      intro made hmade
      obtain rfl := List.mem_singleton.mp hmade
      exact truthful_path hnamed (hservice fault) (hfields fault)

theorem truthful_retrieve {path : String} {command : Option Command}
    (hnamed : command.bind pathOf? = some path) (state : σ) (before : Option String) :
    ∀ made ∈ attributed command before (Dispatch.retrieve host path state).trace,
      made.Truthful := by
  intro made hmade
  cases hopen : (host.openFile path state).1 with
  | error fault =>
      simp only [Dispatch.retrieve, hopen, attributed, List.mem_singleton] at hmade
      subst hmade
      exact truthful_path hnamed rfl rfl
  | ok script =>
      simp only [Dispatch.retrieve, hopen, attributed] at hmade
      rw [attributed_silent (silent_map_retrieved _)] at hmade
      exact truthful_failure hnamed (fun _ => rfl) (fun _ => rfl) made hmade

theorem truthful_store {argument : String} {command : Option Command}
    (hnamed : command.bind pathOf? = (Dispatch.splitBody? argument).map Prod.fst) (state : σ)
    (before : Option String) :
    ∀ made ∈ attributed command before (Dispatch.store host argument state).trace,
      made.Truthful := by
  intro made hmade
  cases hsplit : Dispatch.splitBody? argument with
  | none =>
      simp only [Dispatch.store, hsplit, attributed, List.mem_singleton] at hmade
      subst hmade
      exact truthful_of_isNameless rfl rfl
  | some parts =>
      obtain ⟨path, body⟩ := parts
      rw [hsplit] at hnamed
      cases hcreate : (host.createFile path state).1 with
      | error fault =>
          simp only [Dispatch.store, hsplit, hcreate, attributed, List.mem_singleton] at hmade
          subst hmade
          exact truthful_path hnamed rfl rfl
      | ok script =>
          simp only [Dispatch.store, hsplit, hcreate, List.cons_append, attributed] at hmade
          rw [attributed_silent (silent_fill host path script _ _)] at hmade
          exact truthful_failure hnamed (fun _ => rfl) (fun _ => rfl) made hmade

theorem truthful_run (commandLine : String) (state : σ) (command : Option Command)
    (before : Option String) :
    ∀ made ∈ attributed command before (Dispatch.run host commandLine state).trace,
      made.Truthful := by
  intro made hmade
  cases hrun : (host.run commandLine state).1 with
  | error fault =>
      simp only [Dispatch.run, hrun, attributed, List.mem_singleton] at hmade
      subst hmade
      exact truthful_of_isNameless rfl rfl
  | ok lines =>
      simp only [Dispatch.run, hrun, attributed] at hmade
      cases hmade

/-- While a command is executed, what is logged is true of this command. -/
theorem truthful_execute (command : Command) (state : σ) (before : Option String) :
    ∀ made ∈ attributed (some command) before (Dispatch.execute host command state).trace,
      made.Truthful := by
  intro made hmade
  cases hkind : command.kind with
  | retrieve =>
      simp only [Dispatch.execute, hkind] at hmade
      have hnamed : (some command).bind pathOf? = some command.argument := by
        simp [pathOf?, hkind]
      exact truthful_retrieve host hnamed state _ made hmade
  | store =>
      simp only [Dispatch.execute, hkind] at hmade
      have hnamed : (some command).bind pathOf? =
          (Dispatch.splitBody? command.argument).map Prod.fst := by
        simp [pathOf?, hkind]
      exact truthful_store host hnamed state _ made hmade
  | run =>
      simp only [Dispatch.execute, hkind] at hmade
      exact truthful_run host command.argument state _ _ made hmade
  | unknown =>
      simp only [Dispatch.execute, hkind, attributed, List.mem_singleton] at hmade
      subst hmade
      refine ⟨rfl, fun value hmem => ⟨command.keyword, rfl, ?_⟩, fun value hmem => ?_⟩
      · simpa [Event.entry] using hmem
      · simp [Event.entry] at hmem

theorem faithful_dispatch (command : Command) (state : σ) :
    Faithful (dispatch host command state).trace := by
  intro before path made hmade
  simp only [dispatch, List.cons_append, List.nil_append, attributed, List.mem_cons] at hmade
  rcases hmade with rfl | hmade
  · exact truthful_of_isNameless rfl rfl
  · exact truthful_execute host command state _ made hmade

/-! ## Serving a connection -/

/-- A worker's own events name neither a keyword nor a path. -/
theorem faithful_logged {event : Event} (hservice : event.isService = true)
    (h : isNameless event = true) : Faithful [.logged event] := by
  intro command path made hmade
  obtain rfl := List.mem_singleton.mp hmade
  exact truthful_of_isNameless hservice h

theorem faithful_handle (connection : ConnectionRecord) (record : Bytes) (writes : WriteScript)
    (state : σ) : Faithful (Worker.handle host connection record writes state).trace := by
  refine Faithful.append (Faithful.append (faithful_dispatch host _ state) ?_) ?_
  · exact faithful_silent (by simp [isSilent])
  · exact faithful_silent (by simp [isSilent])

theorem faithful_servePieces (connection : ConnectionRecord) (intake : Transfer.Intake)
    (pieces : List Transfer.Piece) (writes : WriteScript) (state : σ) :
    Faithful (Worker.servePieces host connection intake pieces writes state).trace := by
  induction pieces generalizing writes state with
  | nil =>
      cases hending : intake.ending <;> simp only [Worker.servePieces, hending] <;>
        exact faithful_logged rfl rfl
  | cons piece pieces ih =>
      have hfirst := faithful_handle host connection piece.bytes writes state
      simp only [Worker.servePieces]
      split
      next fault _ _ =>
        exact hfirst.append (faithful_logged rfl rfl)
      next => exact hfirst.append (ih _ _)

theorem faithful_serve (connection : ConnectionRecord) (bufferSize : Nat) (reads : ReadScript)
    (writes : WriteScript) (state : σ) :
    Faithful (Worker.serve host connection bufferSize reads writes state).trace :=
  faithful_servePieces host connection _ _ writes state

end Execution

/-! ## The local sink -/

/-- A trace in which the sink logs each call that fails; `answers` tells, call by call, why it does
if it does. -/
def withSink : List (Option Fault) → Trace → Trace
  | _, [] => []
  | answers, action :: rest =>
    match action, answers with
    | .retrieved _, answer :: answers | .output _, answer :: answers =>
      action :: (answer.map fun fault => Action.logged (.sinkFailed fault)).toList ++
        withSink answers rest
    | _, answers => action :: withSink answers rest

theorem mem_attributed_withSink {made : Attributed} {command : Option Command}
    {path : Option String} {answers : List (Option Fault)} {trace : Trace}
    (h : made ∈ attributed command path (withSink answers trace)) :
    made ∈ attributed command path trace ∨ ∃ fault, made.event = .sinkFailed fault := by
  induction trace generalizing answers command path with
  | nil => cases h
  | cons action trace ih =>
      cases action with
      | logged event =>
          rcases List.mem_cons.mp h with rfl | hrest
          · exact .inl List.mem_cons_self
          · exact (ih hrest).imp_left (List.mem_cons_of_mem _)
      | began _ | opened _ | created _ | wrote _ | flushed | ran _ | replied _ => exact ih h
      | retrieved _ | output _ =>
          match answers with
          | [] | none :: answers => exact ih h
          | some fault :: answers =>
              rcases List.mem_cons.mp h with rfl | hrest
              · exact .inr ⟨fault, rfl⟩
              · exact ih hrest

theorem Faithful.withSink {trace : Trace} (h : Faithful trace) (answers : List (Option Fault)) :
    Faithful (withSink answers trace) := by
  intro command path made hmade
  rcases mem_attributed_withSink hmade with hmade | ⟨fault, hevent⟩
  · exact h command path made hmade
  · obtain ⟨event, command, path⟩ := made
    obtain rfl : event = .sinkFailed fault := hevent
    exact truthful_of_isNameless rfl rfl

/-! ## Activities -/

/-- A way in which records of a peer are carried out. -/
inductive Work (σ : Type) where
  /-- A command is executed, on a machine in this state. -/
  | dispatched (command : Command) (state : σ)
  /-- A connection is served. -/
  | served (connection : ConnectionRecord) (bufferSize : Nat) (reads : ReadScript)
    (writes : WriteScript) (state : σ)
  /-- A connection is served by a worker that says when it begins and when it is done. -/
  | handled (connection : ConnectionRecord) (bufferSize : Nat) (reads : ReadScript)
    (writes : WriteScript) (state : σ)

/-- What is done. -/
def Work.trace {σ : Type} (host : Capabilities σ) : Work σ → Trace
  | dispatched command state => (dispatch host command state).trace
  | served connection bufferSize reads writes state =>
    (Worker.serve host connection bufferSize reads writes state).trace
  | handled connection bufferSize reads writes state =>
    let outcome := Worker.serve host connection bufferSize reads writes state
    [.logged (.connectionOpened connection)] ++ outcome.trace ++
      [.logged (.connectionClosed connection.slot outcome.value.processed)]

/-- Work that a thread does. -/
structure Activity (σ : Type) where
  thread : Thread
  work : Work σ
  /-- Of each call of the local sink, why it fails, if it does. -/
  sink : List (Option Fault)

variable {σ : Type}

/-- What is done in an activity, the log of the local sink included. -/
def Activity.trace (host : Capabilities σ) (activity : Activity σ) : Trace :=
  withSink activity.sink (activity.work.trace host)

/-- The events that an activity causes. -/
def Activity.log (host : Capabilities σ) (activity : Activity σ) : List (Thread × Attributed) :=
  (attributed none none (activity.trace host)).map fun made => (activity.thread, made)

theorem Work.faithful (host : Capabilities σ) (work : Work σ) : Faithful (work.trace host) := by
  cases work with
  | dispatched command state => exact faithful_dispatch host command state
  | served connection bufferSize reads writes state =>
      exact faithful_serve host connection bufferSize reads writes state
  | handled connection bufferSize reads writes state =>
      refine Faithful.append (Faithful.append ?_ (faithful_serve host _ _ _ _ _)) ?_
      · exact faithful_logged rfl rfl
      · exact faithful_logged rfl rfl

theorem Activity.truthful (host : Capabilities σ) (activity : Activity σ) :
    ∀ made ∈ activity.log host, made.2.Truthful := by
  intro made hmade
  obtain ⟨event, hevent, rfl⟩ := List.mem_map.mp hmade
  exact (activity.work.faithful host).withSink activity.sink none none event hevent

/-- What a subscriber is told of an event that a thread logs. -/
def told (made : Thread × Attributed) : String × Event :=
  (made.1.name, made.2.event)

/-- Whether an event that a thread logs passes a filter. -/
def passes (filter : Filter) (made : Thread × Attributed) : Bool :=
  filter.enables made.2.event.entry

/-- The events that activities cause are those in their traces. -/
theorem map_event_log (host : Capabilities σ) (activities : List (Activity σ)) :
    (activities.flatMap (Activity.log host)).map (fun made => made.2.event) =
      activities.flatMap fun activity => (activity.trace host).events := by
  rw [List.map_flatMap]
  refine List.flatMap_congr fun activity _ => ?_
  rw [← map_event_attributed none none, Activity.log, List.map_map]
  rfl

/-! ## Lines -/

/-- What a line says by a name: a true text if the entry has a field of this name, and nothing
otherwise. -/
def Tells (entry : Entry) (line name : String) (truth : String → Prop) : Prop :=
  if name ∈ entry.fields.map Prod.fst then
    ∃ text, truth text ∧ JsonText.stringOf name line = .ok (some text)
  else JsonText.stringOf name line = .ok none

/-- The line that is written for an event. In JSON it is an object that says the keyword of the
command and the path it was executed with, where the event has them. -/
structure Attributed.Line (format : LogFormat) (thread : Thread) (made : Attributed)
    (line : String) : Prop where
  oneLine : OneLine line
  written : Entry.WrittenAs format (thread.name, made.event.entry) line
  object : format = .json → ∃ members, JsonText.ObjectText members line.toList ∧
    (members.map Prod.fst).Nodup ∧ ∀ member ∈ members, JsonText.Scalar member.2
  keyword : format = .json → Tells made.event.entry line "keyword" fun text =>
    made.command.map Command.keyword = some text
  path : format = .json → Tells made.event.entry line "path" made.ExecutedWith

/-- What a log adds to the standard error, behind what stands there: a line for each event that
passes the filter, and nothing else. -/
structure Unforged (filter : Filter) (format : LogFormat) (earlier : List (String × Event))
    (log : List (Thread × Attributed)) (lines : List String) : Prop where
  written_eq :
    let telemetry := Telemetry.installed filter format
    writtenLines (telemetry.lines (earlier ++ log.map told)) =
      writtenLines (telemetry.lines earlier) ++ writtenLines lines
  cut_eq : Text.splitAt '\n' (writtenLines lines) = lines.map String.toList ++ [[]]
  length_eq : lines.length = log.countP (passes filter)
  each : List.Forall₂ (fun made line => made.2.Line format made.1 line)
    (log.filter (passes filter)) lines

/-- A field that is true is told by the object of its entry. -/
theorem tells_of_readFrom {entry : Entry} {line name : String} {truth : String → Prop}
    (h : entry.ReadFrom line) (hown : name ∉ ["level", "message", "target", "threadName"])
    (htrue : ∀ value, (name, value) ∈ entry.fields → ∃ text, truth text ∧ value = .quoted text) :
    Tells entry line name truth := by
  unfold Tells
  split
  next hmem =>
    obtain ⟨⟨_, value⟩, hfield, rfl⟩ := List.mem_map.mp hmem
    obtain ⟨text, htext, rfl⟩ := htrue value hfield
    exact ⟨text, htext, h.quoted _ _ hfield⟩
  next hmem => exact h.absent name hown hmem

theorem Attributed.Truthful.line {made : Attributed} (h : made.Truthful) {format : LogFormat}
    {thread : Thread} {line : String}
    (hwritten : Entry.WrittenAs format (thread.name, made.event.entry) line) :
    made.Line format thread line := by
  have hread : format = .json → made.event.entry.ReadFrom line := by
    rintro rfl
    obtain rfl : line = _ := hwritten
    exact made.event.readFrom_toJson thread.name
  exact ⟨hwritten.oneLine (Event.tidy h.service) (oneLine_thread thread), hwritten,
    fun hjson => (hread hjson).object,
    fun hjson => tells_of_readFrom (hread hjson) (by simp) h.keyword,
    fun hjson => tells_of_readFrom (hread hjson) (by simp) h.path⟩

/-- Every line has one event before it, so it has what all lines of events have. -/
theorem oneLine_of_forall₂ {log : List (Thread × Attributed)} {format : LogFormat}
    {lines : List String}
    (h : List.Forall₂ (fun made line => made.2.Line format made.1 line) log lines) :
    ∀ line ∈ lines, OneLine line := by
  induction h with
  | nil => simp
  | cons hline _ ih => exact List.forall_mem_cons.mpr ⟨hline.oneLine, ih⟩

/-- An installed subscriber writes the lines of the entries whose events pass the filter. -/
theorem installed_lines (filter : Filter) (format : LogFormat) (events : List (String × Event)) :
    (Telemetry.installed filter format).lines events =
      Entry.lines format 0 ((events.filter fun made => filter.enables made.2.entry).map
        fun made => (made.1, made.2.entry)) := by
  simp only [Telemetry.lines, List.filter_map]
  rfl

/-- What an installed subscriber writes for later events stands behind what it wrote before, one
line for each event that passes the filter. -/
theorem installed_lines_append (filter : Filter) (format : LogFormat)
    (earlier : List (String × Event)) (log : List (Thread × Attributed)) :
    ∃ lines, (Telemetry.installed filter format).lines (earlier ++ log.map told) =
        (Telemetry.installed filter format).lines earlier ++ lines ∧
      List.Forall₂ (fun made line =>
          Entry.WrittenAs format (made.1.name, made.2.event.entry) line)
        (log.filter (passes filter)) lines := by
  let entryOf (made : Thread × Attributed) : String × Entry := (made.1.name, made.2.event.entry)
  let kept := (log.filter (passes filter)).map entryOf
  have hlater : ((log.map told).filter fun made => filter.enables made.2.entry).map
      (fun made => (made.1, made.2.entry)) = kept := by
    rw [List.filter_map, List.map_map]
    rfl
  obtain ⟨width, hlines⟩ := Entry.lines_append format 0
    ((earlier.filter fun made => filter.enables made.2.entry).map
      fun made => (made.1, made.2.entry)) kept
  refine ⟨Entry.lines format width kept, ?_, ?_⟩
  · rw [installed_lines, installed_lines, List.filter_append, List.map_append, hlater, hlines]
  · exact List.forall₂_map_left_iff.mp (Entry.forall₂_lines format width kept)

/-- However records of peers are carried out, and in whatever order the threads get to log, they add
exactly one line for each event that passes the filter, and each line tells the truth. So they add
as many lines as they cause such events. -/
theorem exists_unforged (host : Capabilities σ) (filter : Filter) (format : LogFormat)
    (earlier : List (String × Event)) (activities : List (Activity σ))
    (log : List (Thread × Attributed))
    (hlog : log.Perm (activities.flatMap (Activity.log host))) :
    ∃ lines, Unforged filter format earlier log lines ∧
      lines.length = (activities.flatMap fun activity => (activity.trace host).events).countP
        fun event => filter.enables event.entry := by
  have htruthful : ∀ made ∈ log.filter (passes filter), made.2.Truthful := by
    intro made hmade
    have hmem := hlog.mem_iff.mp (List.mem_of_mem_filter hmade)
    obtain ⟨activity, -, hactivity⟩ := List.mem_flatMap.mp hmem
    exact activity.truthful host made hactivity
  obtain ⟨lines, hlines, hwritten⟩ := installed_lines_append filter format earlier log
  have heach := ((List.forall₂_and_left _ lines).mpr ⟨htruthful, hwritten⟩).imp
    fun _ _ hmade => hmade.1.line hmade.2
  have hlength : lines.length = log.countP (passes filter) := by
    rw [← heach.length_eq, List.countP_eq_length_filter]
  refine ⟨lines, ⟨?_, splitAt_writtenLines (oneLine_of_forall₂ heach), hlength, heach⟩, ?_⟩
  · simp [hlines, writtenLines]
  · rw [hlength, hlog.countP_eq, ← map_event_log host, List.countP_map]
    rfl

/-- A path with a newline and a quotation mark in it, of a file that does not exist. -/
theorem exists_unforged_newline :
    let host : Capabilities Unit := Script.capabilities ⟨[], .echo⟩
    let command := Command.parse [0x47, 0x45, 0x54, 0x20, 0x61, 0x0A, 0x22, 0x62, 0x0A]
    let path := "a\n\"b"
    let log : List (Thread × Attributed) :=
      [(.main, ⟨.dispatching .retrieve 4, some command, none⟩),
        (.main, ⟨.retrieveSkipped path (.bare .notFound), some command, some path⟩)]
    log.Perm ([⟨.main, .dispatched command (), []⟩].flatMap (Activity.log host)) ∧
      ∃ lines, Unforged ⟨[{}]⟩ .json [] log lines ∧ lines.length = 2 := by
  intro host command path log
  have hlog : log.Perm ([⟨.main, .dispatched command (), []⟩].flatMap (Activity.log host)) :=
    List.Perm.of_eq (by decide +kernel)
  refine ⟨hlog, ?_⟩
  obtain ⟨lines, hlines, -⟩ := exists_unforged host ⟨[{}]⟩ .json [] _ log hlog
  exact ⟨lines, hlines, hlines.length_eq.trans (by decide +kernel)⟩

end SlotServer.Log
