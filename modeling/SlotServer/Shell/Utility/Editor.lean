import SlotServer.Shell.Utility.Editor.Run

/-!
# The stream editor

A program that runs a script on the lines of files and writes what becomes of them, to the standard
output or in place of the files.
-/

namespace SlotServer.Shell.Utility

open Work

namespace Editor

/-- A piece of a script: an argument, or a file. -/
structure Piece where
  /-- The name of the file, if it is one. -/
  file : Option String
  text : Bytes

def scriptPieces (o : Options) : Work (List Piece) := do
  let given := o.given.filter fun (n, _) => n = "e" || n = "f"
  given.mapM fun (option, value) => do
    if option = "e" then return ⟨none, Utf8.encodeString value⟩
    else
      match ← Work.read value with
      | .ok bytes =>
        return ⟨some value, if bytes.getLast? = some 0x0A then bytes.dropLast else bytes⟩
      | .error fault => fail s!"couldn't open file {value}: {fault.error.description}" 4

/-- Where a fault is in a script of several pieces. -/
def placeIn (all : List Piece) (place : Option Nat) : String :=
  let rec go (arguments start : Nat) : List Piece → String
    | [] => s!"-e expression #{arguments}, char 0"
    | piece :: rest =>
      let arguments := if piece.file.isNone then arguments + 1 else arguments
      let finish := start + piece.text.length + 1
      match place with
      | none => s!"-e expression #{max arguments 1}, char 0"
      | some place =>
        if place < finish || rest.isEmpty then
          match piece.file with
          | none => s!"-e expression #{arguments}, char {place - start}"
          | some file =>
            let lines := ((piece.text ++ [0x0A]).take (place - start)).count (0x0A : UInt8)
            s!"file {file} line {lines + 1}"
        else go arguments finish rest
  go 0 0 all

/-- The name of the copy that is kept of a file. -/
def backupName (suffix path : String) : String :=
  let parts := Text.splitAt '/' path.toList
  let base := String.ofList (parts.getLast?.getD [])
  let directory := String.ofList (path.toList.take (path.length - base.length))
  let name := if suffix.toList.contains '*' then suffix.replace "*" base else base ++ suffix
  if name.toList.contains '/' then name else directory ++ name

/-- The files that a script writes, created and empty. -/
def createOutputs (script : Script) : Work Unit := do
  for path in script.outputs.filter (· ≠ standardOutput) do
    match ← create path with
    | .ok _ => pure ()
    | .error error => fail s!"couldn't open file {path}: {error.description}" 4

/-- Writes what a script wrote to files. -/
def writeOutputs (s : State) : Work Unit := do
  for (path, sink) in s.files.reverse.filter fun (path, _) => path ≠ standardOutput do
    match ← create path false with
    | .ok number =>
      match ← append path number sink.bytes with
      | .ok () => pure ()
      | .error error => complain s!"couldn't write to {path}: {error.description}" 4
    | .error _ => pure ()

def inPlace (m : Manner) (suffix path : String) (s : State) : Work (Option Nat × State) := do
  match ← lookUp? path with
  | .error error =>
    complain s!"can't read {path}: {error.description}" 2
    return (none, s)
  | .ok (place, .file number) =>
    let disk ← disk
    let mode := ((disk.file? number).map DiskFile.mode).getD Disk.defaultMode
    let fresh := { s with
      number := 0, ranges := m.script.commands.map fun c => (c.startsOpen, none)
      output := ⟨[], false⟩ }
    let (status, s) ← runTogether m [(path, disk.fileContents number)] fresh
    if !suffix.isEmpty then
      let disk ← Work.disk
      match disk.resolve (backupName suffix path) with
      | .ok target => setDisk (disk.put target.place (.file number))
      | .error _ => pure ()
    setDisk ((← Work.disk).putFile place s.output.bytes mode)
    return (status, { s with output := ⟨[], false⟩ })
  | .ok _ =>
    complain s!"couldn't edit {path}: not a regular file" 4
    return (none, s)

end Editor

open Editor in
/-- Runs a script on lines. -/
def sed : Program := fun args => do
  let table : OptionTable :=
    { letters := "bsnrzuEe:f:l:i::V:"
      names := [("binary", "b"), ("regexp-extended", "E"), ("debug", "debug"),
        ("in-place=?", "i"), ("expression=", "e"), ("file=", "f"), ("line-length=", "l"),
        ("null-data", "z"), ("zero-terminated", "z"), ("quiet", "n"), ("posix", "posix"),
        ("silent", "n"), ("sandbox", "sandbox"), ("separate", "s"), ("unbuffered", "u"),
        ("follow-symlinks", "follow")] }
  let name := (← get).name
  let usage : Work Unit := do
    warn s!"Usage: {name} [OPTION]... \x7bscript-only-if-no-other-script\x7d [input-file]...\n"
    raise 1
    stop
  let o ←
    match table.take args with
    | .ok o => pure o
    | .error fault =>
      warn s!"{name}: {fault.message}"
      usage
      stop
  let (o, files) ←
    if o.hasAny ["e", "f"] then pure (o, o.operands)
    else
      match o.operands with
      | [] => do
        usage
        stop
      | script :: files => pure (o.push "e" script, files)
  let all ← scriptPieces o
  let text := [(0x0A : UInt8)].intercalate (all.map Piece.text)
  let script ←
    match Editor.read (o.hasAny ["E", "r"]) (o.has "n") text with
    | .ok script => pure script
    | .error fault => fail s!"{placeIn all fault.place}: {fault.message}"
  for c in script.commands do
    match c.operation with
    | .jump _ label =>
      if !label.isEmpty && (script.labels.lookup label).isNone then
        fail s!"can't find label for jump to `{label}'" 4
    | _ => pure ()
  createOutputs script
  let m : Manner :=
    { script, ending := if o.has "z" then 0 else 0x0A
      width := ((o.value? "l").bind String.toNat?).getD 70, isInPlace := o.has "i" }
  let mut state := Editor.State.start script
  let isSeparate := o.hasAny ["s", "i"]
  if o.has "i" then
    for file in files do
      let (status, after) ← inPlace m ((o.value? "i").getD "") file state
      state := after
      match status with
      | some status =>
        raise status
        break
      | none => pure ()
  else
    let mut loaded : List (String × Bytes) := []
    for file in filesOrInput files do
      match ← Work.read file with
      | .ok bytes => loaded := loaded ++ [(file, bytes)]
      | .error (.opening error) => complain s!"can't read {file}: {error.description}" 2
      | .error (.reading error) =>
        if (loaded.flatMap Prod.snd).isEmpty then
          fail s!"read error on {file}: {error.description}" 4
    let groups := if isSeparate then loaded.map fun f => [f] else [loaded]
    for group in groups do
      let fresh := { state with
        number := 0, ranges := script.commands.map fun c => (c.startsOpen, none) }
      let (status, after) ← runTogether m group fresh
      state := after
      match status with
      | some status =>
        raise status
        giveBack ((after.input.filter fun (file, _) => file = "-").flatMap Prod.snd)
        break
      | none => pure ()
  put state.output.bytes
  writeOutputs state

end SlotServer.Shell.Utility
