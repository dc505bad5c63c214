import SlotServer.Fault
import SlotServer.Text.Utf8

/-!
# Reading

What the successive read calls on a stream, a file or a pipe give is a script: data or a fault per
call. The script decides everything that a reader can see, so the readers are functions of it. A
connection is read piece by piece; a file or a pipe is cut into chunks that end at a newline or at
a limit, however the data arrives.
-/

namespace SlotServer

/-- What one read call gives. No data at all means that the end has been reached, for the time
being. -/
inductive ReadStep where
  | data (bytes : Bytes)
  | fault (fault : Fault)
  deriving DecidableEq, Repr

/-- What successive read calls give. After the script every call gives no data. -/
abbrev ReadScript := List ReadStep

namespace Transfer

/-- The newline, which ends a line. -/
def newline : UInt8 := 0x0A

/-! ## Pieces -/

/-- What one read call received, and what is left to read after it. -/
structure Piece where
  bytes : Bytes
  left : ReadScript
  deriving DecidableEq, Repr

/-- Hands out data in pieces of at most `size` bytes, or of one byte if `size` is zero; `rest` is
the script after the data. -/
def cut (size : Nat) (bytes : Bytes) (rest : ReadScript) : List Piece :=
  match bytes with
  | [] => []
  | b :: more =>
    let later := more.drop (size - 1)
    let left := if later.isEmpty then rest else .data later :: rest
    ⟨b :: more.take (size - 1), left⟩ :: cut size later rest
termination_by bytes.length
decreasing_by
  simp only [List.length_drop, List.length_cons]
  omega

/-- How receiving ends. -/
inductive Ending where
  /-- A read call gave no data. -/
  | closed
  | failed (fault : Fault)
  deriving DecidableEq, Repr

/-- All that can be received from a connection. -/
structure Intake where
  /-- The pieces in the order of their arrival, none of them empty. -/
  pieces : List Piece
  ending : Ending
  /-- What is left to read after the end was seen. -/
  left : ReadScript
  deriving DecidableEq, Repr

/-- What is received in pieces of at most `size` bytes. Interrupted calls are repeated. -/
def intake (size : Nat) : ReadScript → Intake
  | [] => ⟨[], .closed, []⟩
  | .fault fault :: rest =>
    if fault.isInterrupted then intake size rest else ⟨[], .failed fault, rest⟩
  | .data bytes :: rest =>
    if bytes.isEmpty then ⟨[], .closed, rest⟩
    else
      let later := intake size rest
      { later with pieces := cut size bytes rest ++ later.pieces }

/-- A script that hands out data in parts of these sizes, none of them empty. What they leave comes
in one. -/
def parts : List Nat → Bytes → ReadScript
  | [], bytes => if bytes.isEmpty then [] else [.data bytes]
  | size :: sizes, bytes =>
    if bytes.isEmpty then []
    else .data (bytes.take (max size 1)) :: parts sizes (bytes.drop (max size 1))

/-! ## Chunks -/

/-- What arrives from a script, byte by byte: a byte, a read call without data, or a fault. -/
inductive Arrival where
  | byte (b : UInt8)
  | pause
  | fault (fault : Fault)
  deriving DecidableEq, Repr

/-- What one read call lets arrive. -/
def ReadStep.arrivals : ReadStep → List Arrival
  | .data bytes => if bytes.isEmpty then [.pause] else bytes.map .byte
  | .fault fault => [.fault fault]

def arrivals (script : ReadScript) : List Arrival :=
  script.flatMap ReadStep.arrivals

/-- The chunks of a file or a pipe, and the fault that ended the reading, if one did. -/
structure Chunking where
  chunks : List Bytes
  fault : Option Fault
  deriving DecidableEq, Repr

/-- The chunking with one chunk more in front. -/
def Chunking.after (chunk : Bytes) (chunking : Chunking) : Chunking :=
  { chunking with chunks := chunk :: chunking.chunks }

/-- Cuts what arrives into chunks. A chunk ends with a newline, or when it has `limit` bytes, or
when a read call gives no data; `pending` holds the bytes of the chunk being put together, the last
one first. A read call without data between two chunks ends the reading, and so does a fault other
than an interruption, which loses the bytes that are pending. -/
def chunksFrom (limit : Option Nat) (pending : Bytes) : List Arrival → Chunking
  | [] => ⟨if pending.isEmpty then [] else [pending.reverse], none⟩
  | .byte b :: rest =>
    let chunk := b :: pending
    if b = newline ∨ limit.any (· ≤ chunk.length) then
      (chunksFrom limit [] rest).after chunk.reverse
    else
      chunksFrom limit chunk rest
  | .pause :: rest =>
    if pending.isEmpty then ⟨[], none⟩ else (chunksFrom limit [] rest).after pending.reverse
  | .fault fault :: rest =>
    if fault.isInterrupted then chunksFrom limit pending rest else ⟨[], some fault⟩

/-- The chunks of what a script gives, of at most `limit` bytes if that is given. -/
def chunks (limit : Option Nat) (script : ReadScript) : Chunking :=
  chunksFrom limit [] (arrivals script)

end Transfer

end SlotServer
