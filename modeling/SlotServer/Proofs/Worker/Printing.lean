import Mathlib.Data.List.Basic
import SlotServer.Capability.Scripted
import SlotServer.Proofs.Dispatch.Confinement
import SlotServer.Proofs.Worker.Exchange
import SlotServer.Server.Run

/-!
# What is printed

The sink prints every chunk with its label, and every line of an output with its own. A text has
only one list of lines, so how the machine cut an output on the way does not show: what is printed
of a connection depends on the outputs of its command lines as a whole.
-/

namespace SlotServer

namespace Sink

/-! ## Lines -/

/-- The lines of a text: each ends with its only newline, but for a last one that may have none. -/
structure Lined (text : List Char) (parts : List (List Char)) : Prop where
  flatten_eq : parts.flatten = text
  nonempty : ∀ line ∈ parts, line ≠ []
  newline_last : ∀ line ∈ parts, '\n' ∉ line.dropLast
  complete : ∀ line ∈ parts.dropLast, line.getLast? = some '\n'

theorem lines_line {line : List Char} (h : '\n' ∉ line) (rest : List Char) :
    lines (line ++ '\n' :: rest) = (line ++ ['\n']) :: lines rest := by
  induction line with
  | nil => simp [lines]
  | cons c line ih =>
      obtain ⟨hc, hline⟩ := not_or.mp (mt List.mem_cons.mpr h)
      rw [List.cons_append, lines, if_neg (Ne.symm hc), ih hline]
      rfl

theorem lines_of_notMem {line : List Char} (h : '\n' ∉ line) (hne : line ≠ []) :
    lines line = [line] := by
  induction line with
  | nil => exact absurd rfl hne
  | cons c line ih =>
      obtain ⟨hc, hline⟩ := not_or.mp (mt List.mem_cons.mpr h)
      rw [lines, if_neg (Ne.symm hc)]
      cases line with
      | nil => rfl
      | cons d line => rw [ih hline (List.cons_ne_nil d line)]

/-- A line is its characters before the newline and the newline. -/
theorem dropLast_append_of_getLast? {line : List Char} (h : line.getLast? = some '\n') :
    line.dropLast ++ ['\n'] = line := by
  have hne : line ≠ [] := by
    rintro rfl
    cases h
  have hlast : line.getLast hne = '\n' := by
    rw [List.getLast?_eq_some_getLast hne] at h
    exact Option.some.inj h
  rw [← hlast]
  exact List.dropLast_concat_getLast hne

/-- A text has no other lines than those that are computed. -/
theorem Lined.eq_lines {text : List Char} {parts : List (List Char)} (h : Lined text parts) :
    lines text = parts := by
  obtain ⟨rfl, hnonempty, hlast, hcomplete⟩ := h
  induction parts with
  | nil => rfl
  | cons line parts ih =>
      obtain ⟨hne, hrest⟩ := List.forall_mem_cons.mp hnonempty
      obtain ⟨hline, hlines⟩ := List.forall_mem_cons.mp hlast
      rw [List.flatten_cons]
      by_cases hnewline : line.getLast? = some '\n'
      · have hparts : ∀ other ∈ parts.dropLast, other.getLast? = some '\n' := by
          intro other hother
          cases parts with
          | nil => cases hother
          | cons first rest => exact hcomplete other (List.mem_cons_of_mem line hother)
        rw [← dropLast_append_of_getLast? hnewline, List.append_assoc, List.singleton_append,
          lines_line hline, ih hrest hlines hparts]
      · -- Only the last line of all has no newline.
        have hnone : '\n' ∉ line := fun hmem =>
          hline (List.mem_dropLast_of_mem_of_ne_getLast? hmem (Ne.symm hnewline))
        cases parts with
        | nil => rw [List.flatten_nil, List.append_nil, lines_of_notMem hnone hne]
        | cons first rest => exact absurd (hcomplete line List.mem_cons_self) hnewline

theorem Lined.newline {text : List Char} {parts : List (List Char)} (h : Lined text parts) :
    Lined ('\n' :: text) (['\n'] :: parts) where
  flatten_eq := by rw [List.flatten_cons, h.flatten_eq, List.singleton_append]
  nonempty := List.forall_mem_cons.mpr ⟨List.cons_ne_nil _ _, h.nonempty⟩
  newline_last := List.forall_mem_cons.mpr ⟨List.not_mem_nil, h.newline_last⟩
  complete := by
    cases parts with
    | nil => simp
    | cons line rest => exact List.forall_mem_cons.mpr ⟨rfl, h.complete⟩

/-- A character that is no newline goes into the first line. -/
theorem Lined.character {text line : List Char} {parts : List (List Char)}
    (h : Lined text (line :: parts)) {c : Char} (hc : c ≠ '\n') :
    Lined (c :: text) ((c :: line) :: parts) := by
  obtain ⟨hne, hnonempty⟩ := List.forall_mem_cons.mp h.nonempty
  obtain ⟨hline, hlines⟩ := List.forall_mem_cons.mp h.newline_last
  have hlast : (c :: line).getLast? = line.getLast? := List.getLast?_cons_of_ne_nil hne
  refine ⟨by simp [← h.flatten_eq], ?_, ?_, ?_⟩
  · exact List.forall_mem_cons.mpr ⟨List.cons_ne_nil c line, hnonempty⟩
  · refine List.forall_mem_cons.mpr ⟨?_, hlines⟩
    rw [List.dropLast_cons_of_ne_nil hne, List.mem_cons, not_or]
    exact ⟨Ne.symm hc, hline⟩
  · cases parts with
    | nil => simp
    | cons first rest =>
        obtain ⟨hfirst, hrest⟩ := List.forall_mem_cons.mp h.complete
        exact List.forall_mem_cons.mpr ⟨hlast.trans hfirst, hrest⟩

theorem lined_lines (text : List Char) : Lined text (lines text) := by
  induction text with
  | nil => constructor <;> simp [lines]
  | cons c text ih =>
      rw [lines]
      by_cases hc : c = '\n'
      · rw [if_pos hc, hc]
        exact ih.newline
      · rw [if_neg hc]
        cases hlines : lines text with
        | nil =>
            have htext : text = [] := by simpa [hlines] using ih.flatten_eq.symm
            constructor <;> simp [htext]
        | cons line parts => exact (hlines ▸ ih).character hc

/-! ## Calls -/

/-- What a sink prints for one call after another. -/
inductive Prints : List SinkCall → Bytes → Prop
  | nil : Prints [] []
  | retrieved {calls later} (chunk : Bytes) (h : Prints calls later) :
      Prints (.retrieved chunk :: calls) (Utf8.encodeString "Sending: " ++ chunk ++ later)
  | output {calls later text parts} (hparts : Lined text.toList parts) (h : Prints calls later) :
      Prints (.output text :: calls)
        (parts.flatMap (fun line => Utf8.encodeString "Result: " ++ Utf8.encode line) ++ later)

theorem printed_retrieved (chunk : Bytes) :
    printed (.retrieved chunk) = Utf8.encodeString "Sending: " ++ chunk :=
  rfl

theorem printed_output (text : String) :
    printed (.output text) = (lines text.toList).flatMap fun line =>
      Utf8.encodeString "Result: " ++ Utf8.encode line := by
  simp [printed, Utf8.encode, Utf8.encodeString, lineLabel]

theorem Prints.flatMap_printed {calls : List SinkCall} {bytes : Bytes} (h : Prints calls bytes) :
    calls.flatMap printed = bytes := by
  induction h with
  | nil => rfl
  | retrieved chunk _ ih => rw [List.flatMap_cons, ih, printed_retrieved]
  | output hparts _ ih => rw [List.flatMap_cons, ih, printed_output, hparts.eq_lines]

theorem prints_flatMap_printed (calls : List SinkCall) :
    Prints calls (calls.flatMap printed) := by
  induction calls with
  | nil => exact .nil
  | cons call calls ih =>
      rw [List.flatMap_cons]
      cases call with
      | retrieved chunk => exact .retrieved chunk ih
      | output text =>
          rw [printed_output]
          exact .output (lined_lines text.toList) ih

theorem prints_iff (calls : List SinkCall) (bytes : Bytes) :
    Prints calls bytes ↔ calls.flatMap printed = bytes := by
  refine ⟨Prints.flatMap_printed, ?_⟩
  rintro rfl
  exact prints_flatMap_printed calls

end Sink

/-! ## What is handed to the sink -/

/-- What an action hands to the sink. -/
def Action.sinkCall? : Action → Option SinkCall
  | retrieved chunk => some (.retrieved chunk)
  | output text => some (.output text)
  | _ => none

namespace Trace

/-- What is handed to the sink, in order. -/
def sinkCalls (trace : Trace) : List SinkCall :=
  trace.filterMap Action.sinkCall?

theorem sinkCalls_append (first rest : Trace) :
    sinkCalls (first ++ rest) = first.sinkCalls ++ rest.sinkCalls :=
  List.filterMap_append

theorem printed_eq (trace : Trace) :
    Server.printed trace = trace.sinkCalls.flatMap Sink.printed :=
  rfl

end Trace

variable {σ τ : Type}

/-- All that a command line puts out on a machine. If it cannot be started, this is nothing. -/
def Capabilities.output (host : Capabilities σ) (commandLine : String) (state : σ) : String :=
  match (host.run commandLine state).1 with
  | .error _ => ""
  | .ok items => String.join items

/-- The second machine does what the first one does, but may cut outputs in other places. -/
structure Capabilities.Recut (host other : Capabilities σ) : Prop where
  openFile : host.openFile = other.openFile
  createFile : host.createFile = other.createFile
  append : host.append = other.append
  output : ∀ commandLine state, host.output commandLine state = other.output commandLine state
  state : ∀ commandLine state, (host.run commandLine state).2 = (other.run commandLine state).2

/-! ## Commands -/

/-- Outcomes that only differ in what the sink does not see. -/
structure Outcome.Alike {α : Type} (outcome other : Outcome σ α) : Prop where
  value : outcome.value = other.value
  state : outcome.state = other.state
  sinkCalls : outcome.trace.sinkCalls = other.trace.sinkCalls

theorem dispatch_run_output (host : Capabilities σ) {command : Command}
    (hkind : command.kind = .run) (state : σ) :
    (dispatch host command state).value = some (host.output command.argument state) ∧
      (dispatch host command state).state = (host.run command.argument state).2 ∧
      (dispatch host command state).trace.sinkCalls = [] := by
  have hexecute : Dispatch.execute host command state =
      { Dispatch.run host command.argument state with
        value := some (Dispatch.run host command.argument state).value } := by
    simp only [Dispatch.execute, hkind]
  rw [dispatch, hexecute]
  cases hrun : (host.run command.argument state).1 with
  | error fault =>
      simp [Dispatch.run, Capabilities.output, hrun, Trace.sinkCalls, Action.sinkCall?]
  | ok items =>
      simp [Dispatch.run, Capabilities.output, hrun, Trace.sinkCalls, Action.sinkCall?]

theorem dispatch_recut {host other : Capabilities σ} (h : host.Recut other) (command : Command)
    (state : σ) : (dispatch host command state).Alike (dispatch other command state) := by
  by_cases hkind : command.kind = .run
  · obtain ⟨hvalue, hstate, hcalls⟩ := dispatch_run_output host hkind state
    obtain ⟨hvalue', hstate', hcalls'⟩ := dispatch_run_output other hkind state
    refine ⟨?_, ?_, ?_⟩
    · rw [hvalue, hvalue', h.output]
    · rw [hstate, hstate', h.state]
    · rw [hcalls, hcalls']
  · -- Only run commands are left to what the machines differ in.
    have hagree : Dispatch.Agree host other command.kind := by
      cases hcommand : command.kind with
      | retrieve => exact h.openFile
      | store => exact ⟨h.createFile, h.append⟩
      | run => exact absurd hcommand hkind
      | unknown => trivial
    rw [Dispatch.dispatch_congr host hagree state]
    exact ⟨rfl, rfl, rfl⟩

/-! ## Connections -/

namespace Worker

/-- Of a run command, its output is printed. -/
theorem printed_perform_run (host : Capabilities σ) {record : Bytes}
    (hkind : (Command.parse record).kind = .run) (state : σ) :
    Server.printed (perform host record state).trace =
      Sink.printed (.output (host.output (Command.parse record).argument state)) := by
  obtain ⟨hvalue, -, hcalls⟩ := dispatch_run_output host hkind state
  rw [Trace.printed_eq, perform, Trace.sinkCalls_append, hcalls, hvalue]
  simp [Trace.sinkCalls, Action.sinkCall?]

theorem sinkCalls_actions (exchange : Exchange σ) :
    exchange.actions.sinkCalls = exchange.execution.trace.sinkCalls ++
      (exchange.execution.value.map SinkCall.output).toList := by
  have hreplies : Trace.sinkCalls (exchange.replies.map Action.replied) = [] := by
    simp [Trace.sinkCalls, Action.sinkCall?]
  have houtput : Trace.sinkCalls (exchange.execution.value.map Action.output).toList =
      (exchange.execution.value.map SinkCall.output).toList := by
    cases exchange.execution.value <;> rfl
  rw [Exchange.actions, Trace.sinkCalls_append, Trace.sinkCalls_append, hreplies, houtput,
    List.append_nil]

theorem sinkCalls_exchangeOf {host other : Capabilities σ} (h : host.Recut other)
    (connection : ConnectionRecord) (record : Bytes) (writes : WriteScript) (state : σ) :
    (exchangeOf host connection record writes state).actions.sinkCalls =
      (exchangeOf other connection record writes state).actions.sinkCalls := by
  have halike := dispatch_recut h (Command.parse record) state
  rw [sinkCalls_actions, sinkCalls_actions]
  simp only [exchangeOf, halike.sinkCalls, halike.value]

theorem sinkCalls_servePieces {host other : Capabilities σ} (h : host.Recut other)
    (connection : ConnectionRecord) (intake : Transfer.Intake) (pieces : List Transfer.Piece)
    (writes : WriteScript) (state : σ) :
    (servePieces host connection intake pieces writes state).trace.sinkCalls =
      (servePieces other connection intake pieces writes state).trace.sinkCalls := by
  induction pieces generalizing writes state with
  | nil => rfl
  | cons piece pieces ih =>
      have hexchange := sinkCalls_exchangeOf h connection piece.bytes writes state
      have hstate := (dispatch_recut h (Command.parse piece.bytes) state).state
      cases hsent : (Transfer.send writes
          (acknowledgement connection.peerLabel piece.bytes)).fault with
      | some fault =>
          rw [servePieces_of_fault host connection intake piece pieces state hsent,
            servePieces_of_fault other connection intake piece pieces state hsent,
            Trace.sinkCalls_append, Trace.sinkCalls_append, hexchange]
      | none =>
          rw [servePieces_of_sent host connection intake piece pieces state hsent,
            servePieces_of_sent other connection intake piece pieces state hsent,
            Exchange.before, Exchange.before, Trace.sinkCalls_append, Trace.sinkCalls_append,
            hexchange, hstate, ih]

/-- The sink prints chunks and lines with their labels and nothing else, and where an output was
cut on the way does not show: neither of one run command, on whatever machine, nor of a connection
that is served on two machines which differ in this. -/
theorem printed_content :
    (∀ calls bytes, Sink.Prints calls bytes ↔ calls.flatMap Sink.printed = bytes) ∧
    (∀ {σ : Type} (host : Capabilities σ) record state items,
      (Command.parse record).kind = .run →
      (host.run (Command.parse record).argument state).1 = .ok items →
      Sink.Prints [.output (String.join items)]
        (Server.printed (perform host record state).trace)) ∧
    (∀ {σ τ : Type} (host : Capabilities σ) (other : Capabilities τ) record state otherState
      items otherItems, (Command.parse record).kind = .run →
      (host.run (Command.parse record).argument state).1 = .ok items →
      (other.run (Command.parse record).argument otherState).1 = .ok otherItems →
      String.join items = String.join otherItems →
      Server.printed (perform host record state).trace =
        Server.printed (perform other record otherState).trace) ∧
    ∀ {σ : Type} (host other : Capabilities σ), host.Recut other →
      ∀ connection bufferSize reads writes state,
        Server.printed (serve host connection bufferSize reads writes state).trace =
          Server.printed (serve other connection bufferSize reads writes state).trace := by
  have hperform : ∀ {σ : Type} (host : Capabilities σ) record state items,
      (Command.parse record).kind = .run →
      (host.run (Command.parse record).argument state).1 = .ok items →
      Server.printed (perform host record state).trace =
        Sink.printed (.output (String.join items)) := by
    intro σ host record state items hkind hrun
    rw [printed_perform_run host hkind, Capabilities.output, hrun]
  refine ⟨Sink.prints_iff, ?_, ?_, ?_⟩
  · intro σ host record state items hkind hrun
    rw [hperform host record state items hkind hrun, Sink.prints_iff]
    exact List.flatMap_singleton ..
  · intro σ τ host other record state otherState items otherItems hkind hrun hother hjoin
    rw [hperform host record state items hkind hrun,
      hperform other record otherState otherItems hkind hother, hjoin]
  · intro σ host other h connection bufferSize reads writes state
    rw [Trace.printed_eq, Trace.printed_eq, serve, serve, sinkCalls_servePieces h]

/-- Cut inside of lines, between them and at nothing, an output with an empty line comes out as its
three lines. -/
theorem printed_content_recut :
    let record : Bytes := Utf8.encodeString "EXEC x"
    let host : Capabilities Unit := Script.capabilities ⟨[], .lines ["a\n", "\nb"]⟩
    let other : Capabilities Unit := Script.capabilities ⟨[], .lines ["", "a", "\n\n", "b"]⟩
    let reads : ReadScript := [.data record]
    let connection : ConnectionRecord := ⟨0, "client_0", "127.0.0.1"⟩
    (Command.parse record).kind = .run ∧ host.Recut other ∧
      Sink.Prints [.output "a\n\nb"] (Server.printed (perform host record ()).trace) ∧
      Server.printed (perform host record ()).trace =
        Server.printed (perform other record ()).trace ∧
      Server.printed (serve host connection 2048 reads {} ()).trace =
        Server.printed (serve other connection 2048 reads {} ()).trace ∧
      Server.printed (serve host connection 2048 reads {} ()).trace =
        Utf8.encodeString "Result: a\nResult: \nResult: b" := by
  intro record host other reads connection
  have hkind : (Command.parse record).kind = .run := by decide +kernel
  have hjoin : String.join ["a\n", "\nb"] = String.join ["", "a", "\n\n", "b"] := by
    decide +kernel
  have hrecut : host.Recut other := ⟨rfl, rfl, rfl, fun _ _ => hjoin, fun _ _ => rfl⟩
  obtain ⟨-, hprints, hcut, hserve⟩ := printed_content
  exact ⟨hkind, hrecut, hprints host record () _ hkind rfl,
    hcut host other record () () _ _ hkind rfl rfl hjoin,
    hserve host other hrecut connection 2048 reads {} (), by decide +kernel⟩

end Worker

end SlotServer
