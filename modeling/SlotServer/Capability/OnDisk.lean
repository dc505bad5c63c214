import SlotServer.Capability
import SlotServer.Disk
import SlotServer.Shell.Run

/-!
# Capabilities of a disk

Files on a disk, and command lines that a shell runs on it. The output of a command line comes
through a pipe and is handed on line by line.
-/

namespace SlotServer

/-- The lines that a pipe gives, each with its newline. The bytes of a line that are not well-formed
text are replaced within that line, so that a line never depends on its neighbours. -/
def outputLines (pipe : ReadScript) : List String :=
  (Transfer.chunks none pipe).chunks.map Utf8.decodeString

/-- Runs a command line in the shell of a disk: the lines of its output, and the disk after it. A
command line with a NUL cannot be started. -/
def Disk.runCommandLine (commandLine : String) (disk : Disk) :
    Except Fault (List String) × Disk :=
  if commandLine.toList.contains '\x00' then (.error .nulInCommand, disk)
  else
    let (output, disk) := Shell.run commandLine disk
    (.ok (outputLines [.data output]), disk)

/-- The capabilities of a machine with a disk and a shell. -/
def Disk.capabilities : Capabilities Disk where
  openFile path disk := (disk.openFile path, disk)
  createFile path disk := disk.createFile path
  append path bytes disk := disk.append path bytes
  run := Disk.runCommandLine

end SlotServer
