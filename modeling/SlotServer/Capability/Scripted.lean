import SlotServer.Capability

/-!
# Scripted capabilities

Capabilities that answer every call as a table says, whatever was done before. They leave the state
alone, so one command can never be told from another by what it left behind.
-/

namespace SlotServer

/-- How one path answers. -/
structure FileScript where
  /-- Why it cannot be opened, if it cannot. -/
  openFault : Option Fault := none
  reads : ReadScript := []
  /-- Why it cannot be created, if it cannot. -/
  createFault : Option Fault := none
  writes : WriteScript := {}

/-- How command lines answer. -/
inductive RunScript where
  /-- One line that repeats the command line. -/
  | echo
  /-- The same lines for every command line. -/
  | lines (lines : List String)
  /-- No command line can be started. -/
  | fails (fault : Fault)

/-- A table of paths, and how command lines answer. -/
structure Script where
  files : List (String × FileScript)
  runner : RunScript

namespace Script

/-- Opens a path. A path that is not in the table does not exist. -/
def openFile (script : Script) (path : String) : Except Fault ReadScript :=
  match script.files.lookup path with
  | none => .error (.bare .notFound)
  | some file =>
    match file.openFault with
    | some fault => .error fault
    | none => .ok file.reads

/-- Creates a path. Any path can be created unless the table has a fault for it. -/
def createFile (script : Script) (path : String) : Except Fault WriteScript :=
  match script.files.lookup path with
  | none => .ok {}
  | some file =>
    match file.createFault with
    | some fault => .error fault
    | none => .ok file.writes

def run (script : Script) (commandLine : String) : Except Fault (List String) :=
  match script.runner with
  | .echo => .ok [commandLine ++ " ran\n"]
  | .lines lines => .ok lines
  | .fails fault => .error fault

def capabilities (script : Script) {σ : Type} : Capabilities σ where
  openFile path state := (script.openFile path, state)
  createFile path state := (script.createFile path, state)
  append _ _ state := state
  run commandLine state := (script.run commandLine, state)

end Script

end SlotServer
