import SlotServer.Proofs.Dispatch.Local
import SlotServer.Proofs.Transfer.Receiving
import SlotServer.Proofs.Transfer.Sending
import SlotServer.Worker

/-!
# Exchanges with a peer

Serving a connection is a list of exchanges: a record is executed, its output goes to the local
sink, and only then the acknowledgement is written. Every record that is received takes part in one
exchange, unless an acknowledgement before it could not be sent.
-/

namespace SlotServer

namespace Trace

theorem replies_append (first rest : Trace) :
    replies (first ++ rest) = first.replies ++ rest.replies :=
  List.filterMap_append

theorem replies_of_local {trace : Trace} (h : ∀ action ∈ trace, action.isLocal) :
    trace.replies = [] := by
  rw [replies, List.filterMap_eq_nil_iff]
  intro action ha
  cases action with
  | replied bytes => simpa [Action.isLocal] using h _ ha
  | _ => rfl

theorem replies_map_replied (replies : List Bytes) :
    Trace.replies (replies.map Action.replied) = replies := by
  induction replies with
  | nil => rfl
  | cons bytes replies ih => exact congrArg (bytes :: ·) ih

end Trace

namespace Worker

/-- The acknowledgements of some pieces, in order. -/
def acknowledgements (peerLabel : String) (pieces : List Transfer.Piece) : List Bytes :=
  pieces.map fun piece => acknowledgement peerLabel piece.bytes

/-- A record with what came of executing it, and what each write call of its reply accepted. -/
structure Exchange (σ : Type) where
  record : Bytes
  execution : Outcome σ (Option String)
  replies : List Bytes

variable {σ : Type}

namespace Exchange

/-- The actions of an exchange: the execution of the command, the output if there is one, and the
reply. -/
def actions (exchange : Exchange σ) : Trace :=
  exchange.execution.trace ++ (exchange.execution.value.map Action.output).toList ++
    exchange.replies.map Action.replied

/-- All that was accepted of the reply. -/
def reply (exchange : Exchange σ) : Bytes :=
  exchange.replies.flatten

/-- What comes of serving when an exchange that succeeds stands before the rest. -/
def before (exchange : Exchange σ) (later : Outcome σ Served) : Outcome σ Served :=
  ⟨{ later.value with processed := later.value.processed + 1 }, later.state,
    exchange.actions ++ later.trace⟩

/-- Executing the record begins its command once and otherwise keeps to the machine, and there is
an output exactly if it is a run command. -/
structure Proper (exchange : Exchange σ) : Prop where
  begun : ∃ rest, exchange.execution.trace = .began (Command.parse exchange.record) :: rest ∧
    ∀ action ∈ rest, action.isLocal
  output_isSome :
    exchange.execution.value.isSome ↔ (Command.parse exchange.record).kind = .run

theorem Proper.replies_actions {exchange : Exchange σ} (h : exchange.Proper) :
    exchange.actions.replies = exchange.replies := by
  obtain ⟨rest, htrace, hlocal⟩ := h.begun
  have hexecution : exchange.execution.trace.replies = [] := by
    rw [htrace]
    change Trace.replies rest = []
    exact Trace.replies_of_local hlocal
  have houtput : Trace.replies (exchange.execution.value.map Action.output).toList = [] := by
    cases exchange.execution.value <;> rfl
  simp only [actions, Trace.replies_append, hexecution, houtput, Trace.replies_map_replied,
    List.nil_append]

theorem flatten_replies_flatMap {exchanges : List (Exchange σ)}
    (h : ∀ exchange ∈ exchanges, exchange.Proper) :
    (Trace.replies (exchanges.flatMap actions)).flatten = exchanges.flatMap reply := by
  induction exchanges with
  | nil => rfl
  | cons exchange exchanges ih =>
      obtain ⟨hfirst, hrest⟩ := List.forall_mem_cons.mp h
      rw [List.flatMap_cons, Trace.replies_append, List.flatten_append, hfirst.replies_actions,
        ih hrest]
      rfl

end Exchange

/-! ## What is true of the exchanges of a connection -/

variable (host : Capabilities σ)

/-- What comes of executing these records, each in the state that the one before it left. -/
def executions : List Bytes → σ → List (Outcome σ (Option String))
  | [], _ => []
  | record :: records, state =>
    let outcome := dispatch host (Command.parse record) state
    outcome :: executions records outcome.state

/-- Serving that ends because there is nothing more to receive: every record is acknowledged. -/
structure Complete (connection : ConnectionRecord) (intake : Transfer.Intake)
    (writes : WriteScript) (exchanges : List (Exchange σ)) (outcome : Outcome σ Served) :
    Prop where
  sent : (Transfer.sendAll writes (acknowledgements connection.peerLabel intake.pieces)).isSome
  records : exchanges.map Exchange.record = intake.pieces.map Transfer.Piece.bytes
  replies : exchanges.map Exchange.reply = acknowledgements connection.peerLabel intake.pieces
  value : outcome.value = ⟨intake.pieces.length, intake.left⟩
  trace : outcome.trace = exchanges.flatMap Exchange.actions ++
    [Action.logged (endEvent connection.slot intake.ending)]

/-- Serving that ends at piece `k`, whose acknowledgement is the first that cannot be sent; `script`
is how the stream answers when that is tried. -/
structure Broken (connection : ConnectionRecord) (intake : Transfer.Intake) (writes : WriteScript)
    (exchanges : List (Exchange σ)) (outcome : Outcome σ Served) (k : Nat)
    (piece : Transfer.Piece) (script : WriteScript) (fault : Fault) : Prop where
  tried : intake.pieces[k]? = some piece
  sent : Transfer.sendAll writes
    (acknowledgements connection.peerLabel (intake.pieces.take k)) = some script
  failed : (Transfer.send script
    (acknowledgement connection.peerLabel piece.bytes)).fault = some fault
  records : exchanges.map Exchange.record = (intake.pieces.take (k + 1)).map Transfer.Piece.bytes
  replies : ∃ part, exchanges.map Exchange.reply =
      acknowledgements connection.peerLabel (intake.pieces.take k) ++ [part] ∧
    part <+: acknowledgement connection.peerLabel piece.bytes ∧
    ((Transfer.writeAll script (acknowledgement connection.peerLabel piece.bytes)).fault = none →
      part = acknowledgement connection.peerLabel piece.bytes)
  value : outcome.value = ⟨k, piece.left⟩
  trace : outcome.trace = exchanges.flatMap Exchange.actions ++
    [Action.logged (.replyFailed connection.slot fault)]

/-- Serving is a list of exchanges, each of them proper and begun in the state that the one before
it left. What they reply is all that is written, and they end as the replies do. -/
structure ExactlyOnce (connection : ConnectionRecord) (intake : Transfer.Intake)
    (writes : WriteScript) (state : σ) (exchanges : List (Exchange σ))
    (outcome : Outcome σ Served) : Prop where
  executions : exchanges.map Exchange.execution =
    executions host (exchanges.map Exchange.record) state
  proper : ∀ exchange ∈ exchanges, exchange.Proper
  written : outcome.trace.replies.flatten = exchanges.flatMap Exchange.reply
  ends : Complete connection intake writes exchanges outcome ∨
    ∃ k piece script fault, Broken connection intake writes exchanges outcome k piece script fault

/-- Serving breaks only if not every acknowledgement can be sent, so it ends in one way only. -/
theorem Broken.not_sent {connection : ConnectionRecord} {intake : Transfer.Intake}
    {writes script : WriteScript} {exchanges : List (Exchange σ)} {outcome : Outcome σ Served}
    {k : Nat} {piece : Transfer.Piece} {fault : Fault}
    (h : Broken connection intake writes exchanges outcome k piece script fault) :
    Transfer.sendAll writes (acknowledgements connection.peerLabel intake.pieces) = none := by
  obtain ⟨hlt, hpiece⟩ := List.getElem?_eq_some_iff.mp h.tried
  have hpieces : intake.pieces =
      intake.pieces.take k ++ piece :: intake.pieces.drop (k + 1) := by
    rw [← hpiece, ← List.drop_eq_getElem_cons hlt, List.take_append_drop]
  have hsent := h.sent
  rw [acknowledgements] at hsent
  rw [hpieces, acknowledgements, List.map_append, Transfer.sendAll_append, hsent, List.map_cons]
  exact Transfer.sendAll_cons_of_fault h.failed _

theorem written_of_trace {trace : Trace} {exchanges : List (Exchange σ)} {event : Log.Event}
    (h : ∀ exchange ∈ exchanges, exchange.Proper)
    (ht : trace = exchanges.flatMap Exchange.actions ++ [Action.logged event]) :
    trace.replies.flatten = exchanges.flatMap Exchange.reply := by
  rw [ht, Trace.replies_append, List.flatten_append, Exchange.flatten_replies_flatMap h]
  simp [Trace.replies, Action.reply?]

/-! ## One exchange -/

/-- The exchange that handling a record is. -/
def exchangeOf (connection : ConnectionRecord) (record : Bytes) (writes : WriteScript)
    (state : σ) : Exchange σ :=
  ⟨record, dispatch host (Command.parse record) state,
    (Transfer.send writes (acknowledgement connection.peerLabel record)).accepted⟩

theorem exchangeOf_proper (connection : ConnectionRecord) (record : Bytes) (writes : WriteScript)
    (state : σ) : (exchangeOf host connection record writes state).Proper :=
  ⟨dispatch_begun host (Command.parse record) state,
    dispatch_value_isSome host (Command.parse record) state⟩

theorem exchangeOf_reply (connection : ConnectionRecord) (record : Bytes) {writes : WriteScript}
    (state : σ)
    (h : (Transfer.send writes (acknowledgement connection.peerLabel record)).fault = none) :
    (exchangeOf host connection record writes state).reply =
      acknowledgement connection.peerLabel record :=
  Transfer.send_flatten h

/-- A reply that fails is the end of serving. -/
theorem servePieces_of_fault (connection : ConnectionRecord) (intake : Transfer.Intake)
    (piece : Transfer.Piece) (pieces : List Transfer.Piece) {writes : WriteScript} (state : σ)
    {fault : Fault} (h : (Transfer.send writes
      (acknowledgement connection.peerLabel piece.bytes)).fault = some fault) :
    servePieces host connection intake (piece :: pieces) writes state =
      ⟨⟨0, piece.left⟩, (dispatch host (Command.parse piece.bytes) state).state,
        (exchangeOf host connection piece.bytes writes state).actions ++
          [Action.logged (.replyFailed connection.slot fault)]⟩ := by
  simp [servePieces, handle, perform, exchangeOf, Exchange.actions, h]

/-- After a reply that succeeds, the pieces that are left are served. -/
theorem servePieces_of_sent (connection : ConnectionRecord) (intake : Transfer.Intake)
    (piece : Transfer.Piece) (pieces : List Transfer.Piece) {writes : WriteScript} (state : σ)
    (h : (Transfer.send writes
      (acknowledgement connection.peerLabel piece.bytes)).fault = none) :
    servePieces host connection intake (piece :: pieces) writes state =
      (exchangeOf host connection piece.bytes writes state).before
        (servePieces host connection intake pieces
          (Transfer.send writes (acknowledgement connection.peerLabel piece.bytes)).left
          (dispatch host (Command.parse piece.bytes) state).state) := by
  simp [servePieces, handle, perform, exchangeOf, Exchange.actions, Exchange.before, h]

/-! ## All exchanges -/

variable {connection : ConnectionRecord} {intake : Transfer.Intake} {piece : Transfer.Piece}
  {pieces : List Transfer.Piece} {writes : WriteScript} {state : σ} {exchanges : List (Exchange σ)}
  {later : Outcome σ Served}

theorem Complete.cons
    (h : (Transfer.send writes (acknowledgement connection.peerLabel piece.bytes)).fault = none)
    (hlater : Complete connection { intake with pieces }
      (Transfer.send writes (acknowledgement connection.peerLabel piece.bytes)).left exchanges
      later) :
    Complete connection { intake with pieces := piece :: pieces } writes
      (exchangeOf host connection piece.bytes writes state :: exchanges)
      ((exchangeOf host connection piece.bytes writes state).before later) := by
  refine ⟨?_, ?_, ?_, ?_, ?_⟩
  · simpa [acknowledgements, Transfer.sendAll_cons_of_sent h] using hlater.sent
  · simp [exchangeOf, hlater.records]
  · simp [exchangeOf_reply host connection piece.bytes state h, hlater.replies, acknowledgements]
  · simp [Exchange.before, hlater.value]
  · simp [Exchange.before, hlater.trace]

theorem Broken.cons {tried : Transfer.Piece} {script : WriteScript} {fault : Fault} {k : Nat}
    (h : (Transfer.send writes (acknowledgement connection.peerLabel piece.bytes)).fault = none)
    (hlater : Broken connection { intake with pieces }
      (Transfer.send writes (acknowledgement connection.peerLabel piece.bytes)).left exchanges
      later k tried script fault) :
    Broken connection { intake with pieces := piece :: pieces } writes
      (exchangeOf host connection piece.bytes writes state :: exchanges)
      ((exchangeOf host connection piece.bytes writes state).before later)
      (k + 1) tried script fault := by
  obtain ⟨part, hreplies, hprefix, hwhole⟩ := hlater.replies
  refine ⟨hlater.tried, ?_, hlater.failed, ?_, ⟨part, ?_, hprefix, hwhole⟩, ?_, ?_⟩
  · simpa [acknowledgements, Transfer.sendAll_cons_of_sent h] using hlater.sent
  · simp [exchangeOf, hlater.records]
  · simp [exchangeOf_reply host connection piece.bytes state h, hreplies, acknowledgements]
  · simp [Exchange.before, hlater.value]
  · simp [Exchange.before, hlater.trace]

theorem ExactlyOnce.cons
    (h : (Transfer.send writes (acknowledgement connection.peerLabel piece.bytes)).fault = none)
    (hlater : ExactlyOnce host connection { intake with pieces }
      (Transfer.send writes (acknowledgement connection.peerLabel piece.bytes)).left
      (dispatch host (Command.parse piece.bytes) state).state exchanges later) :
    ExactlyOnce host connection { intake with pieces := piece :: pieces } writes state
      (exchangeOf host connection piece.bytes writes state :: exchanges)
      ((exchangeOf host connection piece.bytes writes state).before later) := by
  have hproper := exchangeOf_proper host connection piece.bytes writes state
  refine ⟨?_, List.forall_mem_cons.mpr ⟨hproper, hlater.proper⟩, ?_, ?_⟩
  · simp [Worker.executions, exchangeOf, hlater.executions]
  · rw [Exchange.before, Trace.replies_append, List.flatten_append, hproper.replies_actions,
      hlater.written]
    rfl
  · rcases hlater.ends with hend | ⟨k, tried, script, fault, hend⟩
    · exact .inl (hend.cons host h)
    · exact .inr ⟨k + 1, tried, script, fault, hend.cons host h⟩

/-- A reply that fails leaves one exchange, which is the last. -/
theorem exactlyOnce_of_fault (later : σ) {fault : Fault} (h : (Transfer.send writes
      (acknowledgement connection.peerLabel piece.bytes)).fault = some fault) :
    ExactlyOnce host connection { intake with pieces := piece :: pieces } writes state
      [exchangeOf host connection piece.bytes writes state]
      ⟨⟨0, piece.left⟩, later, (exchangeOf host connection piece.bytes writes state).actions ++
        [Action.logged (.replyFailed connection.slot fault)]⟩ := by
  have hproper : ∀ exchange ∈ [exchangeOf host connection piece.bytes writes state],
      exchange.Proper := by
    simpa using exchangeOf_proper host connection piece.bytes writes state
  have hbroken : Broken connection { intake with pieces := piece :: pieces } writes
      [exchangeOf host connection piece.bytes writes state]
      ⟨⟨0, piece.left⟩, later, (exchangeOf host connection piece.bytes writes state).actions ++
        [Action.logged (.replyFailed connection.slot fault)]⟩ 0 piece writes fault := by
    refine ⟨rfl, rfl, h, rfl, ⟨_, rfl, ?_, ?_⟩, rfl, by simp⟩
    · exact Transfer.send_prefix writes _
    · exact Transfer.send_flatten_of_writeAll
  exact ⟨rfl, hproper, written_of_trace hproper hbroken.trace,
    .inr ⟨0, piece, writes, fault, hbroken⟩⟩

/-- The exchanges of the pieces that are left to serve, whatever the state and however the stream
answers from here on. -/
theorem servePieces_exactlyOnce (connection : ConnectionRecord) (intake : Transfer.Intake)
    (pieces : List Transfer.Piece) (writes : WriteScript) (state : σ) :
    ∃ exchanges, ExactlyOnce host connection { intake with pieces } writes state exchanges
      (servePieces host connection intake pieces writes state) := by
  induction pieces generalizing writes state with
  | nil => exact ⟨[], rfl, by simp, rfl, .inl ⟨rfl, rfl, rfl, rfl, rfl⟩⟩
  | cons piece pieces ih =>
      cases h : (Transfer.send writes
          (acknowledgement connection.peerLabel piece.bytes)).fault with
      | some fault =>
          rw [servePieces_of_fault host connection intake piece pieces state h]
          exact ⟨_, exactlyOnce_of_fault host _ h⟩
      | none =>
          rw [servePieces_of_sent host connection intake piece pieces state h]
          obtain ⟨exchanges, hlater⟩ := ih _ _
          exact ⟨_, hlater.cons host h⟩

/-- Whatever the read calls give and however writes and flushes are answered, each record that is
received is executed once and then acknowledged, up to the first acknowledgement that cannot be
sent; nothing after that one is read or executed. -/
theorem serve_exactlyOnce (connection : ConnectionRecord) (bufferSize : Nat) (reads : ReadScript)
    (writes : WriteScript) (state : σ) :
    ∃ intake exchanges, Transfer.Receives (max bufferSize 1) reads intake ∧
      ExactlyOnce host connection intake writes state exchanges
        (serve host connection bufferSize reads writes state) := by
  obtain ⟨exchanges, h⟩ := servePieces_exactlyOnce host connection
    (Transfer.intake bufferSize reads) (Transfer.intake bufferSize reads).pieces writes state
  exact ⟨_, exchanges, Transfer.receives_intake bufferSize reads, h⟩

end Worker

end SlotServer
