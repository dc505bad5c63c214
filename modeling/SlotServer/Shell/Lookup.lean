import SlotServer.Shell.Builtin.Control
import SlotServer.Shell.Builtin.Output
import SlotServer.Shell.Script.Source
import SlotServer.Shell.Utility

/-!
# Looking up commands

What the name of a command stands for: a function, a command of the shell, or a program that is
looked for in the directories of the path.
-/

namespace SlotServer.Shell

/-- What can be run at a path. -/
inductive Executable where
  /-- A program of the machine. -/
  | utility (name : String)
  | file (number : Nat)
  /-- Something that cannot be run. -/
  | other
  deriving DecidableEq, Repr

/-- What the name of a command stands for. -/
inductive Meaning where
  | function (body : Script)
  | builtin
  | program (path : String)
  | missing (isDenied : Bool)

namespace Lookup

/-- The commands of the shell that need no script to be run. -/
def builtins : List (String × Builtin) :=
  open Builtin in
  [(":", fun _ => finish 0), ("true", fun _ => finish 0), ("false", fun _ => finish 1),
    ("echo", echo), ("printf", printf), ("test", decideCondition), ("[", bracket),
    ("times", times), ("ulimit", ulimit), ("export", exportVariables), ("readonly", readonly),
    ("local", localVariables), ("unset", unset), ("set", set), ("shift", shift),
    ("getopts", getopts), ("read", read), ("alias", aliasTexts), ("unalias", unalias),
    ("exit", exit), ("return", returnFrom), ("break", breakLoops), ("continue", continueLoop),
    ("trap", trap), ("kill", kill), ("cd", cd), ("chdir", cd), ("pwd", pwd), ("umask", umask)]

/-- The commands of the shell that look at other commands, or run them. -/
def others : List String :=
  [".", "bg", "command", "eval", "exec", "fg", "hash", "jobs", "type", "wait"]

/-- The commands of the shell that come before all functions, and whose faults end the shell. -/
def special : List String :=
  [".", ":", "break", "continue", "eval", "exec", "exit", "export", "local", "readonly", "return",
    "set", "shift", "times", "trap", "unset"]

/-- The commands of the shell whose arguments may be assignments. -/
def assigning : List String := ["alias", "export", "local", "readonly"]

def isBuiltin (name : String) : Bool :=
  others.contains name || (builtins.lookup name).isSome

/-- What can be run at a path, if there is anything. -/
def executable? (disk : Disk) (path : String) : Option Executable :=
  match disk.resolve path with
  | .error _ => none
  | .ok target =>
    match disk.node? target.place with
    | some (.file number) =>
      if target.asDirectory then none
      else
        match (disk.file? number).bind DiskFile.program with
        | some name => some (.utility name)
        | none => some (.file number)
    | some _ => some .other
    | none => none

/-- The paths that a name without a slash may be found at. -/
def paths (path name : String) : List String :=
  (Text.splitAt ':' path.toList).map fun directory =>
    if directory.isEmpty then name else String.ofList directory ++ "/" ++ name

def program (disk : Disk) (path name : String) : Meaning :=
  if name.toList.contains '/' then .program name
  else
    let found := (paths path name).filterMap fun p =>
      (executable? disk p).map fun e => (p, e)
    match found.find? fun (_, e) => e ≠ .other with
    | some (p, _) => .program p
    | none => .missing (!found.isEmpty)

def meaning (state : State) (name : String) : Meaning :=
  match if special.contains name then none else state.functions.lookup name with
  | some body => .function body
  | none =>
    if isBuiltin name then .builtin
    else program state.disk (state.text "PATH") name

/-- Describes what a name stands for, and tells whether it stands for anything. -/
def describe (verbose : Bool) (name : String) : Action Bool := do
  let state ← get
  let say (text short : String) : Action Bool := do
    Builtin.emitText ((if verbose then s!"{name} is {text}" else short) ++ "\n")
    return true
  let unknown : Action Bool := do
    if verbose then Builtin.emitText s!"{name}: not found\n"
    return false
  if Token.keywords.contains name then say "a shell keyword" name
  else
    match state.aliases.lookup name with
    | some text => say s!"an alias for {text}" s!"alias {name}={Builtin.quoted text}"
    | none =>
      match meaning state name with
      | .function _ => say "a shell function" name
      | .builtin =>
        say (if special.contains name then "a special shell builtin" else "a shell builtin") name
      | .program path =>
        if name.toList.contains '/' && (executable? state.disk path).isNone then unknown
        else
          let isTracked := (state.found.lookup name).isSome
          say ((if isTracked then "a tracked alias for " else "") ++ path) path
      | .missing _ => unknown

def type : Builtin := fun args => do
  let mut status := 0
  for name in Builtin.texts args do
    if !(← describe true name) then status := 127
  Builtin.finish status

def note (name path : String) : Action Unit :=
  modify fun state =>
    if name.toList.contains '/' || (state.found.lookup name).isSome then state
    else { state with found := state.found ++ [(name, path)] }

/-- Notes where programs are, or shows what was noted. -/
def hash : Builtin := fun args => do
  let (letters, names) ← Builtin.options "r" args
  if letters.contains 'r' then
    modify fun state => { state with found := [] }
    Builtin.finish 0
  else if names.isEmpty then
    for (_, path) in Builtin.inBuckets 31 (← get).found do Builtin.emitText (path ++ "\n")
    Builtin.finish 0
  else
    let mut status := 0
    for name in Builtin.texts names do
      match meaning (← get) name with
      | .program path => note name path
      | .missing _ =>
        Action.report s!"{name}: not found"
        status := 1
      | _ => pure ()
    Builtin.finish status

end Lookup

end SlotServer.Shell
