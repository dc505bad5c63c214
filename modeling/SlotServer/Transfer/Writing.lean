import SlotServer.Fault
import SlotServer.Text.Utf8

/-!
# Writing

What the successive write calls on a stream or a file accept is a script, and so is what the flush
calls answer. Writing all of some bytes makes write calls until everything is accepted, a call
fails or a call accepts nothing; interrupted calls are repeated.
-/

namespace SlotServer

/-- What one write call does with the bytes it is offered. -/
inductive WriteStep where
  /-- Accept all of them. -/
  | all
  /-- Accept at most this many of the first ones. -/
  | atMost (count : Nat)
  /-- Accept none and fail. -/
  | fault (fault : Fault)
  deriving DecidableEq, Repr

/-- How a file or a stream answers write calls and flush calls. After the script all bytes are
accepted and flushing succeeds. -/
structure WriteScript where
  writes : List WriteStep := []
  flushes : List (Option Fault) := []
  deriving DecidableEq, Repr

namespace Transfer

/-- What became of an attempt to write. -/
structure Written where
  /-- What each write call that did not fail accepted. -/
  accepted : List Bytes
  /-- Why the attempt failed, if it did. -/
  fault : Option Fault
  /-- How later calls will be answered. -/
  left : WriteScript
  deriving DecidableEq, Repr

/-- Writes all of `bytes`, call by call as the steps say; `flushes` is kept for later. -/
def writeSteps (flushes : List (Option Fault)) : List WriteStep → Bytes → Written
  | steps, [] => ⟨[], none, ⟨steps, flushes⟩⟩
  | [], bytes => ⟨[bytes], none, ⟨[], flushes⟩⟩
  | .all :: steps, bytes => ⟨[bytes], none, ⟨steps, flushes⟩⟩
  | .atMost count :: steps, bytes =>
    if count = 0 then
      ⟨[[]], some .writeStalled, ⟨steps, flushes⟩⟩
    else
      let later := writeSteps flushes steps (bytes.drop count)
      { later with accepted := bytes.take count :: later.accepted }
  | .fault fault :: steps, bytes =>
    if fault.isInterrupted then writeSteps flushes steps bytes
    else ⟨[], some fault, ⟨steps, flushes⟩⟩

/-- Writes all of `bytes`. -/
def writeAll (script : WriteScript) (bytes : Bytes) : Written :=
  writeSteps script.flushes script.writes bytes

def flush (script : WriteScript) : Written :=
  match script.flushes with
  | [] => ⟨[], none, script⟩
  | answer :: flushes => ⟨[], answer, { script with flushes }⟩

/-- Writes all of `bytes` and then, if that succeeded, flushes. -/
def send (script : WriteScript) (bytes : Bytes) : Written :=
  let written := writeAll script bytes
  match written.fault with
  | some _ => written
  | none =>
    let flushed := flush written.left
    { flushed with accepted := written.accepted }

end Transfer

end SlotServer
