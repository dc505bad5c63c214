import SlotServer.Disk

/-!
# Processes

A program at work: it acts on a disk, reads its standard input if it reads it at all, and writes to
the standard output and the standard error. Other programs that it runs come between what it writes.
-/

namespace SlotServer.Shell

/-- A program that another one runs. -/
structure Errand where
  arguments : List String
  /-- The variables that it gets to know. -/
  environment : List (String × String)
  /-- What it reads, if that is not what the other one would read. -/
  input : Option Bytes := none
  /-- The working directory that it has, if that is not the one of the other one. -/
  directory : Option (List String) := none
  /-- What is said, under the name of the program, where it cannot be run. -/
  complaint : String → String

/-- What comes out of a program. -/
inductive Output where
  | standard (bytes : Bytes)
  | error (bytes : Bytes)
  /-- Something is done to the disk. -/
  | change (act : Disk → Disk)
  | raise (status : Nat)
  /-- Another program is run; what comes out after it depends on its status and on the disk that it
  leaves. -/
  | errand (errand : Errand) (later : Nat → Disk → List Output)

def Output.isStandard : Output → Bool
  | .standard _ => true
  | _ => false

def Output.standardBytes : Output → Bytes
  | .standard bytes => bytes
  | _ => []

/-- A program at work. -/
structure Process where
  /-- The name that the program was called by. -/
  name : String
  disk : Disk
  environment : List (String × String)
  /-- The permissions that new files do not get. -/
  mask : Nat
  input : Bytes
  /-- Why nothing can be read. -/
  inputError : Option SystemError
  /-- The file that the standard input comes from; what was read from it can be given back. -/
  inputFile : Option Nat
  /-- The file that the standard output goes to, and the place in it. -/
  outputFile : Option (Nat × Nat)
  /-- What came out, the last piece first. -/
  outputs : List Output
  status : Nat
  /-- The status in the end, given those of the programs that were run. -/
  judge : List Nat → Nat → Nat

namespace Process

/-- Whether bytes that were read can be given back. -/
def isSeekable (p : Process) : Bool := p.inputFile.isSome

/-- The status of a program that runs no others. -/
def ownStatus (_ : List Nat) (own : Nat) : Nat := own

def put (p : Process) (bytes : Bytes) : Process :=
  if bytes.isEmpty then p else { p with outputs := .standard bytes :: p.outputs }

/-- Reports something on the standard error. -/
def warn (p : Process) (message : String) : Process :=
  { p with outputs := .error (Utf8.encodeString (message ++ "\n")) :: p.outputs }

def takeInput (p : Process) : Bytes × Process := (p.input, { p with input := [] })

def send (p : Process) (errand : Errand) : Process :=
  { p with outputs := .errand errand (fun _ _ => []) :: p.outputs }

/-- Lets outputs follow those that came before. -/
def emit (p : Process) (outputs : List Output) : Process :=
  { p with outputs := outputs.reverse ++ p.outputs }

/-- Writes to the standard error without ending the line. -/
def ask (p : Process) (question : String) : Process :=
  { p with outputs := .error (Utf8.encodeString question) :: p.outputs }

end Process

end SlotServer.Shell
