import SlotServer.Proofs.Worker.Exchange

/-!
# Secrecy

Two machines may differ in everything: in their files, in what their command lines print and in
what goes wrong on them. The connection does not show it: at every step of serving, both runs are
at the same piece and at the same place of the write script.
-/

namespace SlotServer

/-- Whether an action concerns the connection: a command of the peer begins, a write call on the
connection is accepted, or the worker reports how the connection ends. -/
def Action.onConnection : Action → Bool
  | began _ | replied _ => true
  | logged event => event.entry.target == Log.workerTarget
  | _ => false

theorem Action.onConnection_eq_false {action : Action} (h : action.isLocal) :
    action.onConnection = false := by
  cases action with
  | logged event =>
      have htarget : event.entry.target = Log.dispatchTarget := by simpa [isLocal] using h
      simp [onConnection, htarget, Log.dispatchTarget, Log.workerTarget]
  | began _ | output _ | replied _ => cases h
  | opened _ | created _ | wrote _ | flushed | ran _ | retrieved _ => rfl

/-- What a trace shows of the connection. -/
def Trace.onConnection (trace : Trace) : Trace :=
  trace.filter Action.onConnection

namespace Trace

theorem onConnection_append (first rest : Trace) :
    onConnection (first ++ rest) = first.onConnection ++ rest.onConnection :=
  List.filter_append ..

theorem onConnection_of_local {trace : Trace} (h : ∀ action ∈ trace, action.isLocal) :
    trace.onConnection = [] := by
  rw [onConnection, List.filter_eq_nil_iff]
  intro action ha
  simp [Action.onConnection_eq_false (h action ha)]

theorem replies_onConnection (trace : Trace) : trace.onConnection.replies = trace.replies := by
  rw [replies, replies, onConnection, List.filterMap_filter]
  congr 1
  funext action
  cases action with
  | logged event => simp [Action.reply?]
  | _ => rfl

end Trace

namespace Worker

variable {σ τ : Type} (host : Capabilities σ) (other : Capabilities τ)

/-- Of an exchange the connection shows that the command began, and the reply. -/
theorem Exchange.Proper.onConnection_actions {exchange : Exchange σ} (h : exchange.Proper) :
    exchange.actions.onConnection =
      .began (Command.parse exchange.record) :: exchange.replies.map Action.replied := by
  obtain ⟨rest, htrace, hlocal⟩ := h.begun
  have hexecution : exchange.execution.trace.onConnection =
      [.began (Command.parse exchange.record)] := by
    rw [htrace]
    exact congrArg (Action.began _ :: ·) (Trace.onConnection_of_local hlocal)
  have houtput : Trace.onConnection (exchange.execution.value.map Action.output).toList = [] := by
    cases exchange.execution.value <;> rfl
  have hreplies : Trace.onConnection (exchange.replies.map Action.replied) =
      exchange.replies.map Action.replied := by
    simp [Trace.onConnection, List.filter_eq_self, Action.onConnection]
  simp only [Exchange.actions, Trace.onConnection_append, hexecution, houtput, hreplies,
    List.append_nil, List.singleton_append]

/-- An exchange shows the same of the connection on every machine. -/
theorem onConnection_exchangeOf (connection : ConnectionRecord) (record : Bytes)
    (writes : WriteScript) (state : σ) (otherState : τ) :
    (exchangeOf host connection record writes state).actions.onConnection =
      (exchangeOf other connection record writes otherState).actions.onConnection := by
  rw [(exchangeOf_proper host connection record writes state).onConnection_actions,
    (exchangeOf_proper other connection record writes otherState).onConnection_actions]
  rfl

/-- Two outcomes that the peer cannot tell apart, although they come from different machines. -/
structure Indistinguishable (first : Outcome σ Served) (second : Outcome τ Served) : Prop where
  value : first.value = second.value
  replies : first.trace.replies = second.trace.replies
  onConnection : first.trace.onConnection = second.trace.onConnection

theorem Indistinguishable.of_onConnection {first : Outcome σ Served} {second : Outcome τ Served}
    (hvalue : first.value = second.value)
    (hshown : first.trace.onConnection = second.trace.onConnection) :
    Indistinguishable first second := by
  refine ⟨hvalue, ?_, hshown⟩
  rw [← Trace.replies_onConnection, hshown, Trace.replies_onConnection]

theorem servePieces_indistinguishable (connection : ConnectionRecord) (intake : Transfer.Intake)
    (pieces : List Transfer.Piece) (writes : WriteScript) (state : σ) (otherState : τ) :
    Indistinguishable (servePieces host connection intake pieces writes state)
      (servePieces other connection intake pieces writes otherState) := by
  induction pieces generalizing writes state otherState with
  | nil => exact ⟨rfl, rfl, rfl⟩
  | cons piece pieces ih =>
      have hexchange :=
        onConnection_exchangeOf host other connection piece.bytes writes state otherState
      cases h : (Transfer.send writes
          (acknowledgement connection.peerLabel piece.bytes)).fault with
      | some fault =>
          rw [servePieces_of_fault host connection intake piece pieces state h,
            servePieces_of_fault other connection intake piece pieces otherState h]
          refine .of_onConnection rfl ?_
          rw [Trace.onConnection_append, Trace.onConnection_append, hexchange]
      | none =>
          rw [servePieces_of_sent host connection intake piece pieces state h,
            servePieces_of_sent other connection intake piece pieces otherState h]
          have hlater := ih
            (Transfer.send writes (acknowledgement connection.peerLabel piece.bytes)).left
            (dispatch host (Command.parse piece.bytes) state).state
            (dispatch other (Command.parse piece.bytes) otherState).state
          refine .of_onConnection ?_ ?_
          · simp only [Exchange.before, hlater.value]
          · rw [Exchange.before, Exchange.before, Trace.onConnection_append,
              Trace.onConnection_append, hexchange, hlater.onConnection]

/-- Nothing on the machine that commands are executed on, neither its files nor the output of its
command lines nor any failure, influences what the peer receives, what is read from it or how its
connection ends. -/
theorem serve_indistinguishable (connection : ConnectionRecord) (bufferSize : Nat)
    (reads : ReadScript) (writes : WriteScript) (state : σ) (otherState : τ) :
    Indistinguishable (serve host connection bufferSize reads writes state)
      (serve other connection bufferSize reads writes otherState) :=
  servePieces_indistinguishable host other connection _ _ writes state otherState

end Worker

end SlotServer
