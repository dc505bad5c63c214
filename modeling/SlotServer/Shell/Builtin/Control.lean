import SlotServer.Shell.Builtin.Basic
import SlotServer.Shell.Builtin.Names
import SlotServer.Shell.Permission
import SlotServer.Shell.Redirection
import SlotServer.Shell.Signal

/-!
# Control

The commands of the shell that decide where a script goes on, that deal with signals, and that
change where the shell is and what its files may be used for.
-/

namespace SlotServer.Shell.Builtin

/-! ## Going on elsewhere -/

def exit : Builtin := fun args => do
  match texts args with
  | [] => modify fun state => { state with status := state.endStatus.getD state.status }
  | arg :: _ => Action.setStatus ((← Action.naturalArgument arg) % 256)
  throw .exit

def returnFrom : Builtin := fun args => do
  match texts args with
  | [] => return .back false
  | arg :: _ =>
    let n ← Action.naturalArgument arg
    Action.setStatus n
    return .back true

/-- The number of loops that an argument gives, which cannot be more than there are. -/
def loopsOf (args : List Bytes) : Action Nat := do
  let n ←
    match texts args with
    | [] => pure 1
    | arg :: _ => do
      let n ← Action.naturalArgument arg
      if n = 0 then Action.fail s!"Illegal number: {arg}" else pure n
  Action.setStatus 0
  return min n (← get).loops

def breakLoops : Builtin := fun args => do
  let n ← loopsOf args
  return if n = 0 then .next else .leave n

/-- Goes on with the next round of a loop. -/
def continueLoop : Builtin := fun args => do
  let n ← loopsOf args
  return if n = 0 then .next else .again n

/-! ## Signals -/

/-- Provides for signals, or shows what is provided for. -/
def trap : Builtin := fun args => do
  let (_, args) ← options "" args
  match texts args with
  | [] =>
    for (signal, action) in (← get).traps.mergeSort fun a b => a.1 ≤ b.1 do
      emitText s!"trap -- {quoted action} {Signal.name signal}\n"
    finish 0
  | first :: rest =>
    let isReset := rest.isEmpty || (Signal.ofText? 0 first).isSome
    let action := if isReset || first = "-" then none else some first
    setAll action (if isReset then first :: rest else rest)
where
  /-- Provides for the signals of these names. -/
  setAll (action : Option String) : List String → Action Flow
    | [] => finish 0
    | name :: names => do
      match Signal.ofText? 0 name with
      | none =>
        Action.say 2 s!"trap: {name}: bad trap\n"
        finish 1
      | some signal =>
        modify fun state =>
          let others := state.traps.filter fun (n, _) => n != signal
          let mine := action.map fun text => (signal, text)
          { state with traps := mine.toList ++ others }
        setAll action names

/-- How `kill` is used. -/
def killUsage : String :=
  "Usage: kill [-s sigspec | -signum | -sigspec] [pid | job]... or\nkill -l [exitstatus]"

def listSignals (args : List String) : Action Flow := do
  match args with
  | [] =>
    emitText (String.join (("0" :: Signal.names.drop 1).map fun name => name ++ "\n"))
    finish 0
  | arg :: _ =>
    let n ← Action.naturalArgument arg
    let n := if 128 < n then n - 128 else n
    if 0 < n && n < Signal.names.length then
      emitText (Signal.name n ++ "\n")
      finish 0
    else Action.fail s!"invalid signal number or exit status: {arg}"

/-- Sends a signal to a process, and tells whether there is one. Number zero only asks. -/
def send (signal process : Nat) : Action Bool := do
  let state ← get
  if state.shells.contains process then
    if signal ≠ 0 then
      modify fun state => { state with signals := state.signals ++ [(process, signal)] }
    return true
  else if state.jobs.any fun job => job.process = process then
    if signal ≠ 0 && !Signal.isHarmless signal then
      modify fun state =>
        { state with
          jobs := state.jobs.filter fun job => job.process != process
          ended := state.ended ++ [⟨process, 128 + signal, some signal⟩] }
    return true
  else return process = State.parentProcess && signal = 0

def sendAll (signal : Nat) : List String → Nat → Action Flow
  | [], status => finish status
  | target :: rest, status => do
    if target.startsWith "%" then Action.fail s!"No such job: {target}"
    else
      let number := if target.startsWith "-" then (target.drop 1).copy else target
      let process ← Action.naturalArgument number
      let isGroup := target.startsWith "-"
      let found ← if isGroup then pure false else send signal process
      if found then sendAll signal rest status
      else
        Action.report "No such process\n"
        sendAll signal rest 1

def kill : Builtin := fun args => do
  match args with
  | [] => Action.fail killUsage
  | first :: rest =>
    let text := Utf8.decodeString first
    let direct :=
      if text.startsWith "-" then Signal.ofText? 1 (text.drop 1).copy else none
    match direct with
    | some signal => if rest.isEmpty then Action.fail killUsage else sendAll signal (texts rest) 0
    | none =>
      if text.startsWith "-" then
        let steps := (args.map List.length).foldl (· + ·) (args.length + 1)
        let (found, rest) ← takeOptions [('l', false), ('s', true)] steps args
        let mut signal : Option Nat := none
        for (c, value) in found do
          if c = 's' then
            let name := Utf8.decodeString value
            match Signal.ofText? 1 name with
            | some n => signal := some n
            | none => Action.fail s!"invalid signal number or name: {name}"
        if (found.lookup 'l').isSome then
          if signal.isSome then Action.fail killUsage else listSignals (texts rest)
        else if rest.isEmpty then Action.fail killUsage
        else sendAll (signal.getD 15) (texts rest) 0
      else sendAll 15 (texts args) 0

/-! ## Places -/

/-- Follows the names of a path from a directory without looking at the disk. -/
def followNames (directory : List String) (names : List String) : List String :=
  names.foldl (fun at_ name =>
    if name = "." then at_ else if name = ".." then at_.dropLast else at_ ++ [name]) directory

def pathOf (directory : List String) : String :=
  "/" ++ "/".intercalate directory

/-- Goes to a directory, and tells whether that is possible. -/
def goTo (path : String) (physical : Bool) : Action Bool := do
  let state ← get
  let start := if Disk.isAbsolute path then [] else state.directory
  let logical := followNames start (Disk.namesOf path)
  let wanted := if physical then path else pathOf logical
  match state.disk.resolve wanted with
  | .error _ => return false
  | .ok target =>
    if state.disk.node? target.place != some .directory then return false
    else
      let directory := if physical then target.place else logical
      modify fun state =>
        { state.withDisk { state.disk with workingDirectory := target.place } with directory }
      Action.assign "OLDPWD" (Utf8.encodeString (pathOf state.directory)) true
      Action.assign "PWD" (Utf8.encodeString (pathOf directory)) true
      return true

/-- The paths that are tried for a directory, with a flag for those that are shown. -/
def candidates (state : State) (path : String) : List (String × Bool) :=
  let isLocal := ["", ".", ".."].contains path || path.startsWith "./" || path.startsWith "../"
  let path' := if path.isEmpty then "." else path
  if Disk.isAbsolute path || isLocal then [(path', false)]
  else
    match state.value? "CDPATH" with
    | none => [(path', false)]
    | some list =>
      let starts := Text.splitAt ':' (Utf8.decodeString list).toList
      starts.map fun start =>
        if start.isEmpty then (path', false)
        else (String.ofList start ++ "/" ++ path', true)

def cd : Builtin := fun args => do
  let (letters, args) ← options "LP" args
  let state ← get
  let physical := letters.getLast? = some 'P'
  let (path, shows) : String × Bool :=
    match texts args with
    | [] => (state.text "HOME", false)
    | "-" :: _ => (state.text "OLDPWD", true)
    | path :: _ => (path, false)
  go physical shows path (candidates state path)
where
  /-- Goes to the first of some directories that can be gone to. -/
  go (physical shows : Bool) (path : String) : List (String × Bool) → Action Flow
    | [] => Action.fail s!"can't cd to {path}"
    | (candidate, showsToo) :: rest => do
      if ← goTo candidate physical then
        if shows || showsToo then emitText (pathOf (← get).directory ++ "\n")
        finish 0
      else go physical shows path rest

/-- Shows the working directory. -/
def pwd : Builtin := fun args => do
  let (letters, _) ← options "LP" args
  let state ← get
  let physical := letters.getLast? = some 'P'
  emitText (pathOf (if physical then state.disk.workingDirectory else state.directory) ++ "\n")
  finish 0

/-- Changes the permissions that new files do not get, or shows them. -/
def umask : Builtin := fun args => do
  let (letters, args) ← options "S" args
  let mask := (← get).mask
  match texts args with
  | [] =>
    let shown :=
      if letters.isEmpty then Permission.octal 4 mask
      else Permission.shown (Permission.without 0o777 mask)
    emitText (shown ++ "\n")
    finish 0
  | text :: _ =>
    let new? :=
      if text.toList.head?.any Char.isDigit then Permission.ofOctal? text
      else
        (Permission.changedForNew? (Permission.without 0o777 mask) text).map
          (Permission.without 0o777)
    match new? with
    | some mask =>
      modify fun state => { state with mask := mask &&& 0o777 }
      finish 0
    | none =>
      let isNumber := text.toList.head?.any Char.isDigit
      Action.fail (if isNumber then s!"Illegal number: {text}" else s!"Illegal mode: {text}")

end SlotServer.Shell.Builtin
