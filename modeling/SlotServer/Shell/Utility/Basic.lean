import SlotServer.Shell.Process
import SlotServer.Shell.Utility.Options
import SlotServer.Shell.Utility.Quoting

/-!
# The work of utilities

What the programs that a shell finds on the machine have in common: they take their options apart,
read the files that they are given, write, and say what went wrong.
-/

namespace SlotServer.Shell

/-- A part of the work of a utility, which may end the utility. -/
abbrev Work := ExceptT Unit (StateM Process)

/-- A utility, as a function of its arguments. -/
abbrev Program := List String → Work Unit

namespace Work

def finish (work : Work Unit) (p : Process) : Process := (work.run.run p).2

def stop {α : Type} : Work α := throw ()

def put (bytes : Bytes) : Work Unit := modify fun p => p.put bytes

def putText (text : String) : Work Unit := put (Utf8.encodeString text)

def putLine (text : String) : Work Unit := putText (text ++ "\n")

/-- Writes a line of text to the standard error. -/
def warn (message : String) : Work Unit := modify fun p => p.warn message

/-- Asks something, to which nobody will answer. -/
def ask (question : String) : Work Unit := do
  let name := (← get).name
  modify fun p => p.ask s!"{name}: {question}? "

def raise (status : Nat) : Work Unit := modify fun p => { p with status := max p.status status }

/-- Says that something went wrong, under the name of the utility. -/
def complain (message : String) (status : Nat := 1) : Work Unit := do
  warn s!"{(← get).name}: {message}"
  raise status

/-- Says that something went wrong, and ends the utility. -/
def fail {α : Type} (message : String) (status : Nat := 1) : Work α := do
  complain message status
  stop

/-- Says that the utility was called in a wrong way, and ends it. -/
def misuse {α : Type} (message : String) (status : Nat := 1) : Work α := do
  let name := (← get).name
  complain s!"{message}\nTry '{name} --help' for more information." status
  stop

def options (table : Utility.OptionTable) (args : List String) (status : Nat := 1) :
    Work Utility.Options := do
  match table.take args with
  | .ok options => return options
  | .error fault => misuse fault.message status

/-! ## Paths -/

def disk : Work Disk := return (← get).disk

def setDisk (disk : Disk) : Work Unit := modify fun p => { p with disk }

/-- The place that a path leads to, and what is there; a link at the end is followed if
`throughLast` says so. -/
def lookUp? (path : String) (throughLast : Bool := true) :
    Work (Except SystemError (List String × DiskNode)) := do
  let disk ← disk
  match disk.resolve path throughLast with
  | .error fault => return .error fault.systemError
  | .ok target =>
    match disk.node? target.place with
    | none => return .error .noSuchEntry
    | some node =>
      if target.asDirectory && node != .directory then return .error .notADirectory
      else return .ok (target.place, node)

def isDirectory (path : String) : Work Bool := do
  match ← lookUp? path with
  | .ok (_, .directory) => return true
  | _ => return false

/-! ## Reading -/

def input : Work (Except SystemError Bytes) := do
  let p ← get
  match p.inputError with
  | some error => return .error error
  | none =>
    set { p with input := [] }
    return .ok p.input

/-- Gives the end of the standard input back to whoever reads it next, if that can be done. -/
def giveBack (bytes : Bytes) : Work Unit :=
  modify fun p => if p.isSeekable then { p with input := bytes } else p

/-- The most zeros that are read from a device that has no end. -/
def maxZeros : Nat := 65536

/-- Why something cannot be opened or read. -/
inductive ReadFault where
  | opening (error : SystemError)
  | reading (error : SystemError)

def ReadFault.error : ReadFault → SystemError
  | .opening error => error
  | .reading error => error

/-- Reads a file, of which at least so many bytes are wanted. A hyphen means the standard input. -/
def read (file : String) (wanted : Nat := 0) : Work (Except ReadFault Bytes) := do
  let standard : Work (Except ReadFault Bytes) := do
    match ← input with
    | .ok bytes => return .ok bytes
    | .error error => return .error (.reading error)
  if file = "-" then standard
  else
    match ← lookUp? file with
    | .error error => return .error (.opening error)
    | .ok (_, .directory) => return .error (.reading .isADirectory)
    | .ok (_, .file number) => return .ok ((← disk).fileContents number)
    | .ok (_, .stream 0) => standard
    | .ok (_, .zeroDevice) => return .ok (List.replicate (max maxZeros wanted) 0)
    | .ok (_, .fullDevice) => return .ok (List.replicate (max maxZeros wanted) 0)
    | .ok _ => return .ok []

/-- Reads a file, or says why it cannot be read. -/
def readOrComplain? (file : String) (status : Nat := 1) : Work (Option Bytes) := do
  match ← read file with
  | .ok bytes => return some bytes
  | .error fault =>
    complain s!"{Utility.Quoting.ifNeeded file}: {fault.error.description}" status
    return none

def filesOrInput (files : List String) : List String :=
  if files.isEmpty then ["-"] else files

/-- Reads files one after another, as far as they can be read. -/
def readAll (files : List String) (status : Nat := 1) : Work Bytes := do
  let pieces ← (filesOrInput files).mapM fun file => readOrComplain? file status
  return (pieces.filterMap id).flatten

/-- Whether a file is the one that the standard output goes to, and already holds something that
would be read. -/
def isOutput (file : String) (ignoresPlace : Bool) : Work Bool := do
  let p ← get
  match p.outputFile with
  | none => return false
  | some (number, place) =>
    let written := p.outputs.foldl (fun n output =>
      match output with
      | .standard bytes => n + bytes.length
      | _ => n) 0
    let counts := ignoresPlace || 0 < place + written
    if file = "-" then return counts && p.inputFile = some number
    else
      match ← lookUp? file with
      | .ok (_, .file found) => return counts && found = number
      | _ => return false

/-! ## Writing files -/

/-- Creates a file, or empties the one that is there, and gives its number. The number is missing
for a device. -/
def create (path : String) (empties : Bool := true) : Work (Except SystemError (Option Nat)) := do
  let p ← get
  match p.disk.resolve path with
  | .error fault => return .error fault.systemError
  | .ok target =>
    match p.disk.node? target.place with
    | some .directory => return .error .isADirectory
    | some (.file number) =>
      if target.asDirectory then return .error .notADirectory
      else
        if empties then setDisk (p.disk.writeFile number fun _ => [])
        return .ok (some number)
    | some _ => return .ok none
    | none =>
      if target.asDirectory then return .error .isADirectory
      else
        match p.disk.node? target.place.dropLast with
        | some .directory =>
          let number := p.disk.files.size
          setDisk (p.disk.putFile target.place [] (0o666 - (0o666 &&& p.mask)))
          return .ok (some number)
        | some _ => return .error .notADirectory
        | none => return .error .noSuchEntry

/-- Writes bytes to a path that was created: to the end of its file, or to a device. -/
def append (path : String) (number : Option Nat) (bytes : Bytes) :
    Work (Except SystemError Unit) := do
  match number with
  | some number =>
    setDisk ((← disk).writeFile number (· ++ bytes))
    return .ok ()
  | none =>
    match ← lookUp? path with
    | .ok (_, .fullDevice) => return if bytes.isEmpty then .ok () else .error .noSpaceLeft
    | .ok (_, .stream 1) =>
      put bytes
      return .ok ()
    | .ok (_, .stream 2) =>
      modify fun p => { p with outputs := .error bytes :: p.outputs }
      return .ok ()
    | _ => return .ok ()

def write (path : String) (bytes : Bytes) : Work (Except SystemError Unit) := do
  match ← create path with
  | .error error => return .error error
  | .ok number => append path number bytes

end Work

namespace Utility

def code (c : Char) : UInt8 := c.toNat.toUInt8

/-- The lines of bytes, each with its newline; the last one may have none. -/
def lines (bytes : Bytes) : List Bytes :=
  (Transfer.chunks none [.data bytes]).chunks

def bare (line : Bytes) : Bytes :=
  if line.getLast? = some Transfer.newline then line.dropLast else line

def full (line : Bytes) : Bytes :=
  bare line ++ [Transfer.newline]

def textOf (bytes : Bytes) : String := Utf8.decodeString bytes

/-- A text with blanks in front of it, up to a width. -/
def padLeft (width : Nat) (text : String) : String :=
  String.ofList (List.replicate (width - text.length) ' ') ++ text

def padRight (width : Nat) (text : String) : String :=
  text ++ String.ofList (List.replicate (width - text.length) ' ')

end Utility

end SlotServer.Shell
