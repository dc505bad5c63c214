import SlotServer.Capability
import SlotServer.Text.Blank

/-!
# Execution of commands

Executing a command never fails: what goes wrong is logged and otherwise absorbed, because nothing
but the acknowledgement goes back to the peer. Only a run command has a result, the output of its
command line.
-/

namespace SlotServer

namespace Dispatch

variable {σ : Type} (host : Capabilities σ)

/-- The most bytes of a file that are handed to the sink at once. -/
def chunkBytes : Nat := 1023

/-- Hands a file to the sink, line by line and in chunks of limited size. -/
def retrieve (path : String) (state : σ) : Outcome σ Unit :=
  let (opened, state) := host.openFile path state
  let rest : Trace :=
    match opened with
    | .error fault => [.logged (.retrieveSkipped path fault)]
    | .ok script =>
      let chunking := Transfer.chunks (some chunkBytes) script
      chunking.chunks.map Action.retrieved ++
        (chunking.fault.map fun fault => Action.logged (.retrieveInterrupted path fault)).toList
  ⟨(), state, .opened path :: rest⟩

/-- The path and the body that the argument of a store command holds: what stands before its first
blank, and what stands after it. -/
def splitBody? (argument : String) : Option (String × String) :=
  let text := argument.toList
  match Text.afterWord text with
  | [] => none
  | _ :: body => some (String.ofList (Text.firstWord text), String.ofList body)

/-- Writes a body to a file that was created: writes all of it and then flushes once. -/
def fill (path : String) (script : WriteScript) (body : Bytes) (state : σ) :
    Outcome σ (Option Fault) :=
  let written := Transfer.writeAll script body
  let state := written.accepted.foldl (fun state bytes => host.append path bytes state) state
  let trace := written.accepted.map Action.wrote
  match written.fault with
  | some fault => ⟨some fault, state, trace⟩
  | none => ⟨(Transfer.flush written.left).fault, state, trace ++ [.flushed]⟩

/-- Overwrites a file with a body. -/
def store (argument : String) (state : σ) : Outcome σ Unit :=
  match splitBody? argument with
  | none => ⟨(), state, [.logged .storeSkipped]⟩
  | some (path, body) =>
    let (created, state) := host.createFile path state
    match created with
    | .error fault => ⟨(), state, [.created path, .logged (.storeFailed path fault)]⟩
    | .ok script =>
      let filled := fill host path script (Utf8.encodeString body) state
      let failure :=
        (filled.value.map fun fault => Action.logged (.storeFailed path fault)).toList
      ⟨(), filled.state, .created path :: filled.trace ++ failure⟩

/-- Runs a command line and collects its output, which is empty if it cannot be started. -/
def run (commandLine : String) (state : σ) : Outcome σ String :=
  let (started, state) := host.run commandLine state
  match started with
  | .error fault => ⟨"", state, [.ran commandLine, .logged (.runFailed fault)]⟩
  | .ok lines => ⟨String.join lines, state, [.ran commandLine]⟩

/-- What a command does, apart from the event that announces it. -/
def execute (command : Command) (state : σ) : Outcome σ (Option String) :=
  match command.kind with
  | .retrieve => { retrieve host command.argument state with value := none }
  | .store => { store host command.argument state with value := none }
  | .run =>
    let outcome := run host command.argument state
    { outcome with value := some outcome.value }
  | .unknown => ⟨none, state, [.logged (.ignoring command.keyword)]⟩

end Dispatch

def dispatch {σ : Type} (host : Capabilities σ) (command : Command) (state : σ) :
    Outcome σ (Option String) :=
  let announced : Trace :=
    [.began command,
      .logged (.dispatching command.kind (Utf8.encodeString command.argument).length)]
  let outcome := Dispatch.execute host command state
  { outcome with trace := announced ++ outcome.trace }

end SlotServer
