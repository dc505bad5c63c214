import SlotServer.Capability.OnDisk
import SlotServer.Program

/-!
# Command line

The program as a command. The machine that its server runs on is made for the run: an empty disk
with a shell, and a network on which one visitor comes, sends every line of the standard input as a
record and leaves. The end of the input is the signal to stop.
-/

namespace SlotServer.Program

partial def readAll (stream : IO.FS.Stream) (read : Bytes) : IO Bytes := do
  let bytes ← stream.read 4096
  if bytes.isEmpty then return read else readAll stream (read ++ bytes.toList)

def settingVariables : IO Environment :=
  Setting.all.filterMapM fun setting => do
    let value ← IO.getEnv setting.variableName
    return value.map fun text => (setting.variableName, Utf8.encodeString text)

/-- The port that the system assigns where it may choose one. -/
def assignedPort : UInt16 := 40961

def network : Network := { Network.isolated assignedPort none with reachable := true }

end SlotServer.Program

open SlotServer in
/-- Runs the program with these arguments. -/
def main (arguments : List String) : IO UInt32 := do
  let arguments := (CommandLine.programName :: arguments).map Utf8.encodeString
  let environment ← Program.settingVariables
  let input ← Program.readAll (← IO.getStdin) []
  let records := (Transfer.chunks none [.data input]).chunks
  let outcome := Program.run Program.network Disk.capabilities arguments environment
    (Server.visit records) "SIGTERM" Disk.empty
  outcome.errorLines.forM IO.eprintln
  let output ← IO.getStdout
  output.write ⟨outcome.output.toArray⟩
  output.flush
  return outcome.exitCode.toUInt32
