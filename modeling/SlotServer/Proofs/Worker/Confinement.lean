import Mathlib.Data.List.TakeWhile
import SlotServer.Proofs.Command.Writing
import SlotServer.Proofs.Dispatch.Confinement
import SlotServer.Proofs.Worker.Exchange

/-!
# Confinement of connections

Whatever is done for a connection is authorized by a record of it: a file is opened, created or
written and a process is started only for a record whose first word asks for just that. The first
word is taken from the record as it was received, however long it is, so that neither cutting
keywords nor line terminators can make one record pass for another.
-/

namespace SlotServer

/-! ## First words -/

/-- The first word of a record: what stands between the blanks at its start and the next blank. -/
def Record.firstWord (record : Bytes) : String :=
  String.ofList (Text.firstWord (Text.dropBlank (Utf8.decode record)))

/-- Blanks at the end of a line are no part of its first word. -/
theorem Text.firstWord_append_blanks (line : List Char) {blanks : List Char}
    (h : ∀ c ∈ blanks, isBlank c) :
    firstWord (dropBlank (line ++ blanks)) = firstWord (dropBlank line) := by
  have hdrop : blanks.dropWhile isBlank = [] := List.dropWhile_eq_nil_iff.mpr h
  have htake : blanks.takeWhile (fun c => !isBlank c) = [] := by
    cases blanks with
    | nil => rfl
    | cons c blanks => simp [h c List.mem_cons_self]
  rw [dropBlank, dropBlank, List.dropWhile_append]
  split
  next hline => rw [hdrop, List.isEmpty_iff.mp hline]
  next =>
    rw [firstWord, firstWord, List.takeWhile_append]
    split
    next hlength =>
      have hwhole := (List.takeWhile_prefix fun c => !isBlank c).eq_of_length hlength
      rw [htake, List.append_nil, hwhole]
    next => rfl

/-- The first word of a record, and nothing else, decides which kind of command it carries. -/
theorem Record.firstWord_eq_iff (record : Bytes) {kind : CommandKind} (h : kind ≠ .unknown) :
    Record.firstWord record = kind.keyword ↔ (Command.parse record).kind = kind := by
  have hword := Text.firstWord_append_blanks (Record.dropTerminator (Utf8.decode record))
    (Record.isBlank_of_mem_terminator (Utf8.decode record))
  rw [Record.dropTerminator_append_terminator] at hword
  rw [Command.parse, Command.kind_ofParts_eq_iff _ _ h, ← String.toList_inj, Record.firstWord,
    String.toList_ofList, hword]
  rfl

/-! ## One exchange -/

/-- The command that an action announces. -/
def Action.command? : Action → Option Command
  | began command => some command
  | _ => none

/-- The commands whose execution a trace shows. -/
def Trace.commands (trace : Trace) : List Command :=
  trace.filterMap Action.command?

theorem Trace.commands_append (first rest : Trace) :
    commands (first ++ rest) = first.commands ++ rest.commands :=
  List.filterMap_append

/-- No action is left to commands of unknown kind. -/
theorem Action.ne_unknown_of_kind? {action : Action} {kind : CommandKind}
    (h : action.kind? = some kind) : kind ≠ .unknown := by
  rintro rfl
  cases action <;> cases h

namespace Worker

variable {σ : Type} (host : Capabilities σ)

theorem Exchange.Proper.commands_actions {exchange : Exchange σ} (h : exchange.Proper) :
    exchange.actions.commands = [Command.parse exchange.record] := by
  obtain ⟨rest, htrace, hlocal⟩ := h.begun
  have hrest : Trace.commands rest = [] := by
    rw [Trace.commands, List.filterMap_eq_nil_iff]
    intro action haction
    cases action with
    | began command => cases hlocal _ haction
    | _ => rfl
  have houtput : Trace.commands (exchange.execution.value.map Action.output).toList = [] := by
    cases exchange.execution.value <;> rfl
  have hreplies : Trace.commands (exchange.replies.map Action.replied) = [] := by
    simp [Trace.commands, Action.command?]
  rw [Exchange.actions, Trace.commands_append, Trace.commands_append, houtput, hreplies, htrace,
    List.append_nil, List.append_nil, ← hrest]
  rfl

/-- Every action of an exchange that is left to a kind of command is left to that of its record. -/
theorem kind_of_mem_exchangeOf (connection : ConnectionRecord) (record : Bytes)
    (writes : WriteScript) (state : σ) {action : Action} {kind : CommandKind}
    (haction : action ∈ (exchangeOf host connection record writes state).actions)
    (hkind : action.kind? = some kind) : (Command.parse record).kind = kind := by
  have hconfined := Dispatch.dispatch_confined host (Command.parse record) state
  rcases List.mem_append.mp haction with haction | haction
  · rcases List.mem_append.mp haction with haction | haction
    · have hcall : action ∈ (dispatch host (Command.parse record) state).trace.calls :=
        List.mem_filter.mpr ⟨haction, by rw [hkind]; rfl⟩
      exact Option.some.inj ((hconfined.calls.kind?_eq host action hcall).symm.trans hkind)
    · rw [Option.mem_toList, Option.map_eq_some_iff] at haction
      obtain ⟨text, hvalue, rfl⟩ := haction
      have hrun : (Command.parse record).kind = .run :=
        hconfined.value_isSome.mp (Option.isSome_iff_exists.mpr ⟨text, hvalue⟩)
      exact hrun.trans (Option.some.inj hkind)
  · obtain ⟨bytes, -, rfl⟩ := List.mem_map.mp haction
    cases hkind

theorem exchangeOf_congr {other : Capabilities σ} {record : Bytes}
    (h : Dispatch.Agree host other (Command.parse record).kind) (connection : ConnectionRecord)
    (writes : WriteScript) (state : σ) :
    exchangeOf host connection record writes state =
      exchangeOf other connection record writes state := by
  rw [exchangeOf, exchangeOf, Dispatch.dispatch_congr host h state]

/-! ## A whole connection -/

/-- What serving does is authorized by the records that were received: their commands are executed
one after another, and nothing is done that is not left to the kind of one of them. -/
structure Authorized (received : List Bytes) (outcome : Outcome σ Served) : Prop where
  commands : outcome.trace.commands = received.map Command.parse
  kinds : ∀ action ∈ outcome.trace, ∀ kind, action.kind? = some kind →
    ∃ record ∈ received, (Command.parse record).kind = kind

variable (connection : ConnectionRecord) (intake : Transfer.Intake)

theorem authorized_single {record : Bytes} (writes : WriteScript) (state left : σ)
    (served : Served) (event : Log.Event) :
    Authorized [record] ⟨served, left,
      (exchangeOf host connection record writes state).actions ++ [.logged event]⟩ := by
  have hproper := exchangeOf_proper host connection record writes state
  refine ⟨?_, ?_⟩
  · rw [Trace.commands_append, hproper.commands_actions]
    rfl
  · intro action haction kind hkind
    rcases List.mem_append.mp haction with haction | haction
    · exact ⟨record, List.mem_singleton_self record,
        kind_of_mem_exchangeOf host connection record writes state haction hkind⟩
    · rw [List.mem_singleton.mp haction] at hkind
      cases hkind

theorem Authorized.before {record : Bytes} {received : List Bytes} {later : Outcome σ Served}
    (h : Authorized received later) (writes : WriteScript) (state : σ) :
    Authorized (record :: received)
      ((exchangeOf host connection record writes state).before later) := by
  have hproper := exchangeOf_proper host connection record writes state
  refine ⟨?_, ?_⟩
  · rw [Exchange.before, Trace.commands_append, hproper.commands_actions, h.commands]
    rfl
  · intro action haction kind hkind
    rcases List.mem_append.mp haction with haction | haction
    · exact ⟨record, List.mem_cons_self,
        kind_of_mem_exchangeOf host connection record writes state haction hkind⟩
    · obtain ⟨cause, hcause, hparse⟩ := h.kinds action haction kind hkind
      exact ⟨cause, List.mem_cons_of_mem record hcause, hparse⟩

/-- The records among some pieces that were received, if serving them came to this: those that were
acknowledged, and the one after them if there is one. -/
def received (pieces : List Transfer.Piece) (served : Served) : List Bytes :=
  (pieces.take (served.processed + 1)).map Transfer.Piece.bytes

theorem servePieces_authorized (pieces : List Transfer.Piece) (writes : WriteScript) (state : σ) :
    Authorized
      (received pieces (servePieces host connection intake pieces writes state).value)
      (servePieces host connection intake pieces writes state) := by
  -- A piece counts as received even if its acknowledgement fails; nothing after it does.
  induction pieces generalizing writes state with
  | nil => exact ⟨rfl, by simp [servePieces, Action.kind?]⟩
  | cons piece pieces ih =>
      cases h : (Transfer.send writes
          (acknowledgement connection.peerLabel piece.bytes)).fault with
      | some fault =>
          rw [servePieces_of_fault host connection intake piece pieces state h]
          exact authorized_single host connection writes state _ _ _
      | none =>
          rw [servePieces_of_sent host connection intake piece pieces state h]
          exact (ih _ _).before host connection writes state

/-- Serving goes the same way on machines that differ in what no received record asks for. -/
theorem servePieces_congr {other : Capabilities σ} (pieces : List Transfer.Piece)
    (writes : WriteScript) (state : σ)
    (h : ∀ record ∈ received pieces (servePieces host connection intake pieces writes state).value,
      Dispatch.Agree host other (Command.parse record).kind) :
    servePieces other connection intake pieces writes state =
      servePieces host connection intake pieces writes state := by
  induction pieces generalizing writes state with
  | nil => rfl
  | cons piece pieces ih =>
      cases hsent : (Transfer.send writes
          (acknowledgement connection.peerLabel piece.bytes)).fault with
      | some fault =>
          rw [servePieces_of_fault host connection intake piece pieces state hsent] at h ⊢
          have hagree := h piece.bytes List.mem_cons_self
          rw [servePieces_of_fault other connection intake piece pieces state hsent,
            exchangeOf_congr host hagree, Dispatch.dispatch_congr host hagree]
      | none =>
          rw [servePieces_of_sent host connection intake piece pieces state hsent] at h ⊢
          have hagree := h piece.bytes List.mem_cons_self
          have hlater := ih _ _ fun record hrecord => h record (List.mem_cons_of_mem _ hrecord)
          rw [servePieces_of_sent other connection intake piece pieces state hsent,
            exchangeOf_congr host hagree, ← Dispatch.dispatch_congr host hagree, hlater]

/-- What holds of a connection that is served, in terms of the records that were received. -/
structure Confined (received : List Bytes) (serving : Capabilities σ → Outcome σ Served) :
    Prop where
  /-- The commands that are executed are those of the records that were received. -/
  commands : (serving host).trace.commands = received.map Command.parse
  /-- Whatever is left to a kind of command is done for a record whose first word is the keyword of
  this kind. -/
  authorized : ∀ action ∈ (serving host).trace, ∀ kind, action.kind? = some kind →
    kind.keyword ∈ received.map Record.firstWord
  /-- Capabilities that no first word asks for are not used: any others would do as well. -/
  unused : ∀ other, (∀ kind : CommandKind, kind.keyword ∈ received.map Record.firstWord →
    Dispatch.Agree host other kind) → serving other = serving host
  no_process : "EXEC" ∉ received.map Record.firstWord →
    ∀ commandLine, .ran commandLine ∉ (serving host).trace
  no_file : "PUT" ∉ received.map Record.firstWord →
    ∀ path bytes, .created path ∉ (serving host).trace ∧ .wrote bytes ∉ (serving host).trace ∧
      .flushed ∉ (serving host).trace

/-- A command keeps to the capability of its kind, whatever the machine answers; and a connection
keeps to the capabilities that the first words of its records ask for. -/
theorem serve_confined (host : Capabilities σ) :
    (∀ command state, Dispatch.Confined host command state (dispatch host command state)) ∧
      ∀ (connection : ConnectionRecord) (bufferSize : Nat) (reads : ReadScript)
        (writes : WriteScript) (state : σ),
        Confined host
          (received (Transfer.intake bufferSize reads).pieces
            (serve host connection bufferSize reads writes state).value)
          (fun machine => serve machine connection bufferSize reads writes state) := by
  refine ⟨Dispatch.dispatch_confined host, ?_⟩
  intro connection bufferSize reads writes state
  obtain ⟨hcommands, hkinds⟩ := servePieces_authorized host connection
    (Transfer.intake bufferSize reads) (Transfer.intake bufferSize reads).pieces writes state
  have hauthorized : ∀ action ∈ (serve host connection bufferSize reads writes state).trace,
      ∀ kind, action.kind? = some kind → kind.keyword ∈
        (received (Transfer.intake bufferSize reads).pieces
          (serve host connection bufferSize reads writes state).value).map Record.firstWord := by
    intro action haction kind hkind
    obtain ⟨record, hrecord, hparse⟩ := hkinds action haction kind hkind
    exact List.mem_map.mpr ⟨record, hrecord,
      (Record.firstWord_eq_iff record (Action.ne_unknown_of_kind? hkind)).mpr hparse⟩
  refine ⟨hcommands, hauthorized, ?_, ?_, ?_⟩
  · intro other hagree
    refine servePieces_congr host connection _ _ writes state fun record hrecord => ?_
    by_cases hkind : (Command.parse record).kind = .unknown
    · rw [hkind]
      trivial
    · exact hagree _ (List.mem_map.mpr ⟨record, hrecord,
        (Record.firstWord_eq_iff record hkind).mpr rfl⟩)
  · intro hexec commandLine hran
    exact hexec (hauthorized _ hran .run rfl)
  · intro hput path bytes
    refine ⟨fun h => ?_, fun h => ?_, fun h => ?_⟩ <;> exact hput (hauthorized _ h .store rfl)

end Worker

end SlotServer
