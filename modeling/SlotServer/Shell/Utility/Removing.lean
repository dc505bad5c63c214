import SlotServer.Shell.Utility.Paths

/-!
# Utilities that remove files

Programs that take names off the disk: of files, of empty directories, and of directories with all
that is below them.
-/

namespace SlotServer.Shell.Utility

open Work

/-- The places at and below a place, each after all that is below it. -/
def fromBelow (disk : Disk) :
    Nat → List String → DiskNode → List (List String × DiskNode)
  | 0, _, _ => []
  | steps + 1, place, node =>
    (disk.list place).flatMap (fun (name, child) =>
      fromBelow disk steps (place ++ [name]) child) ++ [(place, node)]

def pathBelow (path : String) (root place : List String) : String :=
  if place.length ≤ root.length then path
  else inDirectory path ("/".intercalate (place.drop root.length))

/-- Whether the last name of a path is the directory itself or the one above it. -/
def endsInDots (path : String) : Bool :=
  ["." , ".."].contains ((Disk.namesOf path).getLast?.getD "")

/-- Removes files, and directories if that is asked for. -/
def rm : Program := fun args => do
  let table : OptionTable :=
    { letters := "dfirvIR"
      names := [("force", "f"), ("interactive=?", "interactive"), ("one-file-system", "one"),
        ("no-preserve-root", "npr"), ("preserve-root=?", "pr"), ("recursive", "r"), ("dir", "d"),
        ("verbose", "v")] }
  let o ← options table args
  let isForced := o.last? ["f", "i", "I"] = some "f"
  let asks := o.last? ["f", "i", "I"] = some "i"
  let isRecursive := o.hasAny ["r", "R"]
  if o.operands.isEmpty && !isForced then misuse "missing operand"
  for path in o.operands do
    let shown := Quoting.always path
    let refuse (reason : String) : Work Unit := complain s!"cannot remove {shown}: {reason}"
    let bare := withoutSlashes path
    let isLink := (← lookUp? bare false).toOption.any fun (_, n) => n matches .link _
    match ← lookUp? path false with
    | .error error =>
      if !(isForced && (error = .noSuchEntry || error = .notADirectory)) then
        refuse error.description
    | .ok (root, .directory) =>
      if !isRecursive && !o.has "d" then refuse "Is a directory"
      else if isRecursive && endsInDots path then
        complain s!"refusing to remove '.' or '..' directory: skipping {shown}"
      else if isRecursive && root.isEmpty then
        complain "it is dangerous to operate recursively on '/'"
        complain "use --no-preserve-root to override this failsafe"
      else if isLink then refuse "Not a directory"
      else
        let isEmpty := ((← disk).list root).isEmpty
        if !isRecursive && !isEmpty then refuse "Directory not empty"
        else if asks then
          ask (if isEmpty then s!"remove directory {shown}" else s!"descend into directory {shown}")
        else
          if o.has "v" then
            let disk ← disk
            for (place, node) in fromBelow disk (disk.nodes.length + 1) root .directory do
              let what := if node == .directory then "removed directory" else "removed"
              putLine s!"{what} {Quoting.always (pathBelow path root place)}"
          setDisk ((← disk).removeAll root)
    | .ok (place, node) =>
      if asks then ask s!"remove {kindName (← disk) node} {shown}"
      else
        setDisk ((← disk).remove place)
        if o.has "v" then putLine s!"removed {shown}"

def rmdir : Program := fun args => do
  let table : OptionTable :=
    { letters := "pv"
      names := [("ignore-fail-on-non-empty", "ignore"), ("path", "p"), ("parents", "p"),
        ("verbose", "v")] }
  let o ← options table args
  if o.operands.isEmpty then misuse "missing operand"
  let name := (← get).name
  let remove (path : String) (isParent : Bool) : Work Bool := do
    let shown := Quoting.always path
    if o.has "v" then putLine s!"{name}: removing directory, {shown}"
    let refuse (reason : String) : Work Bool := do
      let what := if isParent then "remove directory" else "remove"
      if !(o.has "ignore" && reason = "Directory not empty") then
        complain s!"failed to {what} {shown}: {reason}"
      return false
    let last := (Disk.namesOf path).getLast?.getD ""
    match ← lookUp? (withoutSlashes path) false with
    | .error error => refuse error.description
    | .ok (place, .directory) =>
      if last = "." then refuse "Invalid argument"
      else if last = ".." || !((← disk).list place).isEmpty then refuse "Directory not empty"
      else
        setDisk ((← disk).remove place)
        return true
    | .ok _ => refuse "Not a directory"
  for path in o.operands do
    let removed ← remove path false
    if o.has "p" && removed then
      let names := Disk.namesOf path
      let root := if Disk.isAbsolute path then "/" else ""
      let mut goes := true
      for count in (List.range names.length).reverse do
        if goes && 0 < count then
          goes ← remove (root ++ "/".intercalate (names.take count)) true

/-- Takes one name of a file off the disk. -/
def unlink : Program := fun args => do
  let o ← options { letters := "" } args
  match o.operands with
  | [] => misuse "missing operand"
  | [path] =>
    let refuse (reason : String) : Work Unit :=
      complain s!"cannot unlink {Quoting.always path}: {reason}"
    match ← lookUp? path false with
    | .error error => refuse error.description
    | .ok (_, .directory) => refuse "Is a directory"
    | .ok (place, _) => setDisk ((← disk).remove place)
  | _ :: extra :: _ => misuse s!"extra operand {Quoting.always extra}"

end SlotServer.Shell.Utility
