import SlotServer.Shell.Utility.Basic

/-!
# Paths of utilities

How paths are taken apart and put together, and what utilities ask about what is at them.
-/

namespace SlotServer.Shell.Utility

open Work

def lastPart (path : String) : String :=
  match (Disk.namesOf path).getLast? with
  | some name => name
  | none => if path.isEmpty then "" else "/"

def directoryPart (path : String) : String :=
  let text := (path.toList.reverse.dropWhile (· = '/')).dropWhile (· ≠ '/')
  match text with
  | [] => if path.toList.head? = some '/' then "/" else "."
  | _ =>
    let front := (text.dropWhile (· = '/')).reverse
    if front.isEmpty then "/" else String.ofList front

def inDirectory (directory name : String) : String :=
  if directory.isEmpty || directory.endsWith "/" then directory ++ name
  else directory ++ "/" ++ name

def withoutSlashes (path : String) : String :=
  let bare := path.toList.reverse.dropWhile (· = '/')
  if bare.isEmpty && !path.isEmpty then "/" else String.ofList bare.reverse

def pathOfPlace (place : List String) : String := "/" ++ "/".intercalate place

/-- Why something cannot be made at a place, if there is a reason. -/
def obstacle? (disk : Disk) (place : List String) : Option SystemError :=
  match disk.node? place.dropLast with
  | some .directory => none
  | some _ => some .notADirectory
  | none => some .noSuchEntry

/-- The place that a path leads to, where nothing has to be. -/
def place (path : String) (throughLast : Bool := true) :
    Work (Except SystemError (Disk.Target × Option DiskNode)) := do
  let disk ← disk
  match disk.resolve path throughLast with
  | .error fault => return .error fault.systemError
  | .ok target =>
    match disk.node? target.place with
    | some node => return .ok (target, some node)
    | none =>
      match obstacle? disk target.place with
      | some error => return .error error
      | none => return .ok (target, none)

def kindName (disk : Disk) : DiskNode → String
  | .directory => "directory"
  | .file number =>
    if (disk.fileContents number).isEmpty then "regular empty file" else "regular file"
  | .link _ => "symbolic link"
  | _ => "character special file"

/-- A destination that the operands of a utility give. -/
structure Destination where
  /-- What is copied or moved. -/
  sources : List String
  target : String
  /-- Whether the sources go into the target under their own names. -/
  isDirectory : Bool

/-- The destination of a utility that takes sources and a target: the last operand, or the value of
`-t`. -/
def destination (o : Options) (missing : String) : Work Destination := do
  match o.value? "t" with
  | some target =>
    if o.operands.isEmpty then misuse missing
    match ← lookUp? target with
    | .ok (_, .directory) => return ⟨o.operands, target, true⟩
    | .ok _ => fail s!"target directory {Quoting.always target}: Not a directory"
    | .error error => fail s!"target directory {Quoting.always target}: {error.description}"
  | none =>
    match o.operands with
    | [] => misuse missing
    | [one] => misuse s!"missing destination file operand after {Quoting.always one}"
    | operands =>
      let target := operands.getLast?.getD ""
      let sources := operands.dropLast
      if o.has "T" then
        match sources.drop 1 with
        | [] => return ⟨sources, target, false⟩
        | extra :: rest =>
          let last := (extra :: rest).getLast?.getD extra
          misuse s!"extra operand {Quoting.always (if rest.isEmpty then target else last)}"
      else
        let found ← lookUp? target
        match found with
        | .ok (_, .directory) => return ⟨sources, target, true⟩
        | .ok _ =>
          if 1 < sources.length then fail s!"target {Quoting.always target}: Not a directory"
          else return ⟨sources, target, false⟩
        | .error error =>
          if 1 < sources.length then fail s!"target {Quoting.always target}: {error.description}"
          else return ⟨sources, target, false⟩

end SlotServer.Shell.Utility
