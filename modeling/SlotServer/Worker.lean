import SlotServer.Bounded
import SlotServer.Command.Record
import SlotServer.Dispatch

/-!
# Workers

A worker serves one connection: it receives a record, executes its command and acknowledges it,
until the peer closes the connection or sending or receiving fails. The acknowledgement repeats the
record; nothing that a command brought about goes into it.
-/

namespace SlotServer

namespace Worker

/-- The most bytes of an acknowledgement. -/
def maxAckBytes : Nat := 255

def ackStart : String := "Processed command from "

/-- The acknowledgement of a record to the peer of this label, cut to its cap. -/
def acknowledgement (peerLabel : String) (record : Bytes) : Bytes :=
  [Utf8.encodeString ackStart, Utf8.encodeString peerLabel, Utf8.encodeString ": ", record].foldl
    (appendCapped maxAckBytes) []

variable {σ : Type} (host : Capabilities σ)

/-- Executes the command of a record and hands its output, if it has one, to the sink. -/
def perform (record : Bytes) (state : σ) : Outcome σ Unit :=
  let outcome := dispatch host (Command.parse record) state
  ⟨(), outcome.state, outcome.trace ++ (outcome.value.map Action.output).toList⟩

/-- Executes and acknowledges one record on a connection that answers writes by a script: the fault
that kept the acknowledgement from being sent, if one did, and the script for later writes. -/
def handle (connection : ConnectionRecord) (record : Bytes) (writes : WriteScript) (state : σ) :
    Outcome σ (Option Fault × WriteScript) :=
  let done := perform host record state
  let sent := Transfer.send writes (acknowledgement connection.peerLabel record)
  ⟨(sent.fault, sent.left), done.state, done.trace ++ sent.accepted.map Action.replied⟩

/-- What came of serving a connection. -/
structure Served where
  /-- The number of records that were executed and acknowledged. -/
  processed : Nat
  /-- What was left to read when serving ended. -/
  left : ReadScript
  deriving DecidableEq, Repr

def endEvent (slot : Nat) : Transfer.Ending → Log.Event
  | .closed => .peerClosed slot
  | .failed fault => .receiveFailed slot fault

/-- Serves the pieces that are received, up to the first one that cannot be acknowledged; if there
is none, receiving ends as `intake` says. -/
def servePieces (connection : ConnectionRecord) (intake : Transfer.Intake) :
    List Transfer.Piece → WriteScript → σ → Outcome σ Served
  | [], _, state =>
    ⟨⟨0, intake.left⟩, state, [.logged (endEvent connection.slot intake.ending)]⟩
  | piece :: pieces, writes, state =>
    let handled := handle host connection piece.bytes writes state
    match handled.value with
    | (some fault, _) =>
      ⟨⟨0, piece.left⟩, handled.state,
        handled.trace ++ [.logged (.replyFailed connection.slot fault)]⟩
    | (none, writes) =>
      let later := servePieces connection intake pieces writes handled.state
      ⟨{ later.value with processed := later.value.processed + 1 }, later.state,
        handled.trace ++ later.trace⟩

/-- Serves a connection that is received and answered by scripts, in pieces of at most `bufferSize`
bytes. -/
def serve (connection : ConnectionRecord) (bufferSize : Nat) (reads : ReadScript)
    (writes : WriteScript) (state : σ) : Outcome σ Served :=
  let intake := Transfer.intake bufferSize reads
  servePieces host connection intake intake.pieces writes state

end Worker

end SlotServer
