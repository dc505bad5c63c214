import SlotServer.Shell.Channel
import SlotServer.Shell.Script
import SlotServer.Shell.Number

/-!
# State of the shell

What a running shell knows and holds. What belongs to one shell alone is its context: its variables
and functions, and where its descriptors lead. A subshell starts with a copy of the context, and
leaves the context of the shell around it as it is; the disk and the channels belong to all.
-/

namespace SlotServer.Shell

/-- A variable, which need not have a value. -/
structure Variable where
  value : Option Bytes
  isExported : Bool
  isReadOnly : Bool
  deriving Repr

/-- What was to be restored when a command ends. -/
structure Frame where
  bindings : List (String × Option Variable)
  settings : Option (List Char)

/-- What belongs to one shell. -/
structure Context where
  /-- The name that the shell goes by. -/
  name : String
  /-- The process that the script takes for that of the shell. -/
  process : Nat
  /-- Whether this is a copy of the shell, and not the shell that has that process. -/
  isCopy : Bool
  arguments : List Bytes
  bindings : List (String × Variable)
  functions : List (String × Script)
  aliases : List (String × String)
  settings : List Char
  status : Nat
  /-- The status of the last script whose output became part of a word. -/
  outputStatus : Nat
  /-- The line of the command that is run. -/
  line : Nat
  /-- The command that messages are about. -/
  command : Option String
  /-- What is done on a signal; nothing at all for an empty text. -/
  traps : List (Nat × String)
  /-- The status that the trap at the end of the shell found. -/
  endStatus : Option Nat
  /-- What the commands that are run at present restore, the innermost one first. -/
  frames : List Frame
  /-- How many loops are run within each other. -/
  loops : Nat
  /-- How many functions are run within each other. -/
  depth : Nat
  /-- The channels that the descriptors lead to. -/
  descriptors : List (Nat × Nat)
  /-- The permissions that new files do not get. -/
  mask : Nat
  /-- The argument that options are looked for in next, and the place in it. -/
  nextOption : Nat × Option Nat
  /-- The process of the last command that was not waited for. -/
  lastJob : Option Nat
  /-- The commands that were not waited for. -/
  children : List Nat
  /-- The programs that were found, by the names that they were looked for with. -/
  found : List (String × String)
  /-- The working directory by the path that led to it. -/
  directory : List String
  /-- What was written but did not get to the standard output yet. -/
  unwritten : Bytes

/-- A command that is not waited for and has not been run yet. -/
structure Job where
  process : Nat
  context : Context
  script : Script
  workingDirectory : List String

/-- How a command that was not waited for ended: with a status, or by a signal. -/
structure JobEnd where
  process : Nat
  status : Nat
  signal : Option Nat

/-- The state of a shell. -/
structure State extends Context where
  channels : Channels
  jobs : List Job
  /-- How the commands that were not waited for ended. -/
  ended : List JobEnd
  nextProcess : Nat
  /-- The processes of the shells that are run within each other, the innermost one first. -/
  shells : List Nat
  /-- The signals that shells have not noticed yet, with their processes. -/
  signals : List (Nat × Nat)

/-- Why a shell does not go on. -/
inductive Ending where
  /-- Something is wrong, and was reported. -/
  | fault
  /-- The script says so. -/
  | exit
  /-- Another program takes its place, or a command failed and that is enough. -/
  | done
  | killed (signal : Nat)
  /-- The number of steps is used up. -/
  | exhausted
  deriving DecidableEq, Repr

abbrev Action := ExceptT Ending (StateM State)

/-- Where a list of commands goes on after a command. -/
inductive Flow where
  | next
  | leave (loops : Nat)
  /-- With the next round of the loop that is so many loops further out. -/
  | again (loops : Nat)
  /-- After the function; the flag says whether its status was given. -/
  | back (given : Bool)
  deriving DecidableEq, Repr

namespace State

def firstProcess : Nat := 2

/-- The process that started the first shell. -/
def parentProcess : Nat := 1

/-- The directories that programs are looked for in. -/
def defaultPath : String :=
  "/usr/local/sbin:/usr/local/bin:/usr/sbin:/usr/bin:/sbin:/bin"

def firstVariables (directory : List String) : List (String × Variable) :=
  let own (name text : String) : String × Variable :=
    (name, ⟨some (Utf8.encodeString text), false, false⟩)
  let given (name text : String) : String × Variable :=
    (name, ⟨some (Utf8.encodeString text), true, false⟩)
  [given "HOME" "/root", own "IFS" " \t\n", own "OPTIND" "1", given "PATH" defaultPath,
    own "PPID" (toString parentProcess), own "PS1" "# ", own "PS2" "> ", own "PS4" "+ ",
    given "PWD" ("/" ++ "/".intercalate directory)]

/-- More bytes than can be waiting to be read. -/
def manyBytes : Nat := 1000000000

/-- The channel that the output of the whole script goes to. -/
def outputChannel : Nat := 0

/-- A shell that starts on a disk. It has nothing to read. -/
def start (disk : Disk) : State where
  name := "sh"
  process := firstProcess
  isCopy := false
  arguments := []
  bindings := firstVariables disk.workingDirectory
  functions := []
  aliases := []
  settings := []
  status := 0
  outputStatus := 0
  line := 0
  command := none
  traps := []
  endStatus := none
  frames := []
  loops := 0
  depth := 0
  descriptors := [(0, 1), (1, outputChannel), (2, outputChannel)]
  mask := 0o022
  nextOption := (1, none)
  lastJob := none
  children := []
  found := []
  directory := disk.workingDirectory
  unwritten := []
  channels :=
    { disk := { disk with time := disk.time + 1 }
      list := #[⟨.pipe [] [] none, false, true⟩, ⟨.nothing, true, false⟩] }
  jobs := []
  ended := []
  nextProcess := firstProcess + 1
  shells := [firstProcess]
  signals := []

def disk (state : State) : Disk := state.channels.disk

def withDisk (state : State) (disk : Disk) : State :=
  { state with channels := { state.channels with disk } }

def value? (state : State) (name : String) : Option Bytes :=
  (state.bindings.lookup name).bind Variable.value

/-- The value of a variable as a text, which is empty where there is none. -/
def text (state : State) (name : String) : String :=
  ((state.value? name).map Utf8.decodeString).getD ""

/-- The state with a variable replaced, or without it. -/
def setVariable (state : State) (name : String) (new : Option Variable) : State :=
  let others := state.bindings.filter fun (n, _) => n != name
  match new with
  | none => { state with bindings := others }
  | some v => { state with bindings := (name, v) :: others }

def isOn (state : State) (letter : Char) : Bool :=
  state.settings.contains letter

/-- The characters that separate fields, if they are not the usual ones. -/
def separators? (state : State) : Option Bytes :=
  state.value? "IFS"

end State

namespace Action

def onChannels {α : Type} (act : Channels → α × Channels) : Action α :=
  modifyGet fun state =>
    let (a, channels) := act state.channels
    (a, { state with channels })

def put (descriptor : Nat) (bytes : Bytes) : Action (Except SystemError Unit) := do
  match (← get).descriptors.lookup descriptor with
  | none => return if bytes.isEmpty then .ok () else .error .badDescriptor
  | some number => onChannels fun channels => channels.write number bytes

def say (descriptor : Nat) (text : String) : Action Unit := do
  let _ ← put descriptor (Utf8.encodeString text)

/-- Reports something on the standard error. -/
def report (message : String) : Action Unit := do
  let state ← get
  let about := (state.command.map fun c => s!"{c}: ").getD ""
  say 2 s!"{state.name}: {state.line}: {about}{message}\n"

def setStatus (status : Nat) : Action Unit :=
  modify fun state => { state with status }

/-- Reports something that is wrong, and goes no further. -/
def fail {α : Type} (message : String) : Action α := do
  report message
  setStatus 2
  throw .fault

def readable (descriptor : Nat) : Action (Except SystemError Bytes) := do
  let state ← get
  match state.descriptors.lookup descriptor with
  | none => return .error .badDescriptor
  | some number => return state.channels.readable number

def consume (descriptor count : Nat) : Action Unit :=
  modify fun state =>
    match state.descriptors.lookup descriptor with
    | none => state
    | some number => { state with channels := state.channels.consume number count }

/-- Takes the number of a signed integer that is no less than zero, as an argument has to be. -/
def naturalArgument (text : String) : Action Nat :=
  match Number.natural? text with
  | some n => return n
  | none => fail s!"Illegal number: {text}"

/-- What has to be done when a variable gets a value. -/
def noticed (name : String) (value : Bytes) : Action Unit := do
  if name = "OPTIND" then
    let n ← naturalArgument (Utf8.decodeString value)
    modify fun state => { state with nextOption := (if n = 0 then 1 else n, none) }
  else if name = "PATH" then modify fun state => { state with found := [] }

def assign (name : String) (value : Bytes) (exported : Bool := false) : Action Unit := do
  let state ← get
  let old := state.bindings.lookup name
  if old.any (·.isReadOnly) then fail s!"{name}: is read only"
  else
    noticed name value
    let isExported := exported || state.isOn 'a' || old.any (·.isExported)
    modify fun state => state.setVariable name (some ⟨some value, isExported, false⟩)

/-- Notes how a variable is, so that it is restored when the innermost command ends. -/
def keep (name : String) : Action Unit :=
  modify fun state =>
    match state.frames with
    | [] => state
    | frame :: frames =>
      let kept := (name, state.bindings.lookup name) :: frame.bindings
      { state with frames := { frame with bindings := kept } :: frames }

def pushFrame : Action Unit :=
  modify fun state => { state with frames := ⟨[], none⟩ :: state.frames }

/-- Restores what was noted in the innermost frame. -/
def restore : Action Unit :=
  modify fun state =>
    match state.frames with
    | [] => state
    | frame :: frames =>
      let state := frame.bindings.foldl (fun s (name, v) => s.setVariable name v) state
      { state with frames, settings := frame.settings.getD state.settings }

/-- Runs an action, and another one after it however the first one ends. -/
def andFinally {α : Type} (act : Action α) (last : Action Unit) : Action α := do
  match ← ExceptT.lift (ExceptT.run act) with
  | .ok a =>
    last
    return a
  | .error ending =>
    last
    throw ending

def outcome {α : Type} (act : Action α) : Action (Except Ending α) :=
  ExceptT.lift (ExceptT.run act)

end Action

end SlotServer.Shell
