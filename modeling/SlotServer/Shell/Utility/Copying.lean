import SlotServer.Shell.Utility.Making
import SlotServer.Shell.Utility.Removing

/-!
# Utilities that copy and move

Programs that copy files and directories, give them other names, and put copies in place with the
permissions that programs have.
-/

namespace SlotServer.Shell.Utility

open Work

/-- What happens where something is in the way. -/
inductive InTheWay where
  | replaced
  | kept
  | olderReplaced
  | askedAbout
  deriving DecidableEq, Repr

/-- What happens where something is in the way, by the options: the last one of them counts. -/
def inTheWay (o : Options) : InTheWay :=
  let isUpdate := match o.value? "u" with
    | some "all" => false
    | some "none" => false
    | found => found.isSome
  let isKept := o.value? "u" = some "none"
  match o.last? ["i", "n", "f"] with
  | some "n" => .kept
  | some "i" => if isUpdate then .olderReplaced else .askedAbout
  | _ => if isKept then .kept else if isUpdate then .olderReplaced else .replaced

/-- When the file of a number was last written. -/
def timeOf (disk : Disk) (number : Nat) : Nat :=
  ((disk.file? number).map DiskFile.time).getD disk.time

def nodeTime (node : DiskNode) : Work Nat := do
  let disk ← disk
  match node with
  | .file number => return timeOf disk number
  | _ => return disk.time

/-- Whether what is at a place may be replaced by something that was last written at a time. -/
def mayReplace (way : InTheWay) (time : Nat) (old : DiskNode) : Work Bool := do
  match way, old with
  | .olderReplaced, .file number => return timeOf (← disk) number < time
  | .kept, _ => return false
  | .askedAbout, _ => return false
  | _, _ => return true

def askToReplace (path : String) : Work Unit := ask s!"overwrite {Quoting.always path}"

/-- The path under which something is kept that is replaced, if it is kept. -/
def backupPath? (o : Options) (path : String) : Option String :=
  if !o.hasAny ["b", "S"] then none
  else
    match o.value? "b" with
    | some "none" => none
    | some "off" => none
    | some "numbered" => some (path ++ ".~1~")
    | some "t" => some (path ++ ".~1~")
    | _ => some (path ++ (o.value? "S").getD "~")

def keepBackup (o : Options) (path : String) (place : List String) : Work String := do
  match backupPath? o path with
  | none => return ""
  | some kept =>
    match ← Utility.place kept false with
    | .error _ => return ""
    | .ok (target, _) =>
      setDisk (((← disk).removeAll target.place).move place target.place)
      return s!" (backup: {Quoting.always kept})"

def isSame (place other : List String) (node old : DiskNode) : Bool :=
  place = other ||
    match node, old with
    | .file a, .file b => a = b
    | _, _ => false

/-- How copies are made. -/
structure CopyStyle where
  options : Options
  isRecursive : Bool
  /-- Whether links are copied as what they lead to: where a path is given, and below it. -/
  follows : Bool
  followsBelow : Bool
  /-- Whether times and permissions are copied too. -/
  isFaithful : Bool
  way : InTheWay

namespace CopyStyle

/-- Makes a copy of a node that is no directory, where nothing is in the way. -/
def copyNode (style : CopyStyle) (node : DiskNode) (source : String) (target : List String) :
    Work Unit := do
  let p ← get
  let disk := p.disk
  if style.options.has "l" then setDisk (disk.put target node)
  else
    match node with
    | .file number =>
      match disk.file? number with
      | none => pure ()
      | some f =>
        let usual := Permission.without (f.mode &&& 0o777) p.mask
        let mode := if style.isFaithful then f.mode else usual
        let copied := disk.putFile target f.contents mode
        let time := if style.isFaithful then f.time else disk.time
        setDisk { copied with
          files := copied.files.modify disk.files.size fun c => { c with time, program := f.program } }
    | .link path => setDisk (disk.put target (.link path))
    | _ =>
      if style.isRecursive then setDisk (disk.put target node)
      else
        match ← read source with
        | .ok bytes => setDisk (disk.putFile target bytes (Permission.without 0o666 p.mask))
        | .error _ => pure ()

def overwrite (style : CopyStyle) (node : DiskNode) (number : Nat) : Work Unit := do
  let disk ← disk
  match node with
  | .file source =>
    let written := disk.writeFile number fun _ => disk.fileContents source
    let time := timeOf disk source
    let mode := ((disk.file? source).map DiskFile.mode).getD Disk.defaultMode
    if style.isFaithful then setDisk ((written.setMode number mode).setTime number time)
    else setDisk written
  | _ => setDisk (disk.writeFile number fun _ => [])

/-- Says what was copied, if that is asked for. -/
def announce (style : CopyStyle) (source path backup : String) : Work Unit :=
  if style.options.has "v" then
    putLine s!"{Quoting.always source} -> {Quoting.always path}{backup}"
  else pure ()

/-- Copies what a path leads to to another path. `root` is the place of the whole copy. -/
def copy (style : CopyStyle) : Nat → Option (List String) → Bool → String → String → Work Unit
  | 0, _, _, _, _ => pure ()
  | steps + 1, root, follows, source, path => do
    let o := style.options
    let from_ := Quoting.always source
    let shown := Quoting.always path
    match ← lookUp? source follows with
    | .error error => complain s!"cannot stat {from_}: {error.description}"
    | .ok (sourcePlace, .directory) =>
      if !style.isRecursive then
        if o.has "install" then complain s!"omitting directory {from_}"
        else complain s!"-r not specified; omitting directory {from_}"
      else
        match ← place path with
        | .error .notADirectory => complain s!"cannot stat {shown}: Not a directory"
        | .error error => complain s!"cannot create directory {shown}: {error.description}"
        | .ok (target, old) =>
          let children := (← disk).list sourcePlace
          let copyAll (root : List String) : Work Unit := do
            for (name, _) in children do
              let inner := inDirectory source name
              let innerPlace := (← disk).resolve inner false
              let isOwn := innerPlace.toOption.any fun t => t.place = root
              if isOwn then
                let whole := Quoting.always source
                complain s!"cannot copy a directory, {whole}, into itself, {shown}"
              else style.copy steps (some root) style.followsBelow inner (inDirectory path name)
          let root' := root.getD target.place
          match old with
          | none =>
            let p ← get
            let mode := p.disk.modeAt sourcePlace
            let mode := if style.isFaithful then mode else Permission.without mode p.mask
            setDisk (p.disk.makeDirectory target.place mode)
            style.announce source path ""
            if root.isNone && sourcePlace.isPrefixOf target.place then
              for (name, node) in children do
                if node != .directory then
                  style.copy steps (some root') style.followsBelow (inDirectory source name)
                    (inDirectory path name)
              complain s!"cannot copy a directory, {from_}, into itself, {shown}"
            else copyAll root'
          | some .directory =>
            if sourcePlace = target.place then
              complain s!"{from_} and {shown} are the same file"
            else if root.isNone && sourcePlace.isPrefixOf target.place then
              complain s!"cannot copy a directory, {from_}, into itself, {shown}"
            else copyAll root'
          | some _ => complain s!"cannot overwrite non-directory {shown} with directory {from_}"
    | .ok (sourcePlace, node) =>
      let isLinkAtEnd := (← lookUp? path false).toOption.any fun (_, n) => n matches .link _
      let replacesLink := node matches .link _
      match ← place path (!replacesLink && !o.has "remove") with
      | .error .notADirectory =>
        if path.endsWith "/" && (← lookUp? (withoutSlashes path)).toOption.isNone then
          complain s!"cannot create regular file {shown}: Not a directory"
        else complain s!"cannot stat {shown}: Not a directory"
      | .error error => complain s!"cannot create regular file {shown}: {error.description}"
      | .ok (target, none) =>
        if target.asDirectory then
          complain s!"cannot create regular file {shown}: Not a directory"
        else if isLinkAtEnd && !o.has "remove" then
          complain s!"not writing through dangling symlink {shown}"
        else if o.has "s" then
          if !Disk.isAbsolute source && path.toList.contains '/' then
            let rule := "can make relative symbolic links only in current directory"
            complain s!"{Quoting.ifNeeded path}: {rule}"
          else
            setDisk ((← disk).put target.place (.link source))
            style.announce source path ""
        else
          style.copyNode node source target.place
          style.announce source path ""
      | .ok (_, some .directory) =>
        complain s!"cannot overwrite directory {shown} with non-directory"
      | .ok (target, some old) =>
        if target.asDirectory then complain s!"cannot stat {shown}: Not a directory"
        else if isSame sourcePlace target.place node old && !(style.way = .kept) then
          if !(o.has "l" && sourcePlace ≠ target.place) then
            complain s!"{from_} and {shown} are the same file"
        else
          let time ← nodeTime node
          if ← mayReplace style.way time old then
            let backup ← keepBackup o path target.place
            match (← disk).node? target.place, node with
            | some (.file number), .file _ =>
              if o.has "remove" || o.has "l" then
                setDisk ((← disk).remove target.place)
                style.copyNode node source target.place
              else style.overwrite node number
            | some (.file number), .link _ =>
              if replacesLink then style.copyNode node source target.place
              else style.overwrite node number
            | some (.file number), _ => style.overwrite node number
            | some (.link _), _ => style.copyNode node source target.place
            | some _, _ => pure ()
            | none, _ => style.copyNode node source target.place
            style.announce source path backup
          else if style.way = .askedAbout then askToReplace path

end CopyStyle

/-- The path of a source in a directory: under its own name, or under its whole path. -/
def pathIn (o : Options) (target source : String) : String :=
  if o.has "parents" then inDirectory target source
  else
    match (Disk.namesOf source).getLast? with
    | some ".." => target
    | some name => if name = "." then inDirectory target "." else inDirectory target name
    | none => target

/-- Copies files, and directories if that is asked for. -/
def cp : Program := fun args => do
  let table : OptionTable :=
    { letters := "abdfHilLnprst:uvxPRS:TZ"
      names := [("archive", "a"), ("attributes-only", "attributes"), ("backup=?", "b"),
        ("copy-contents", "contents"), ("dereference", "L"), ("force", "f"), ("interactive", "i"),
        ("link", "l"), ("no-clobber", "n"), ("no-dereference", "P"), ("no-preserve=", "unpreserve"),
        ("no-target-directory", "T"), ("one-file-system", "x"), ("parents", "parents"),
        ("path", "parents"), ("preserve=?", "p"), ("recursive", "r"),
        ("remove-destination", "remove"), ("strip-trailing-slashes", "strip"),
        ("reflink=?", "reflink"), ("sparse=", "sparse"), ("suffix=", "S"), ("symbolic-link", "s"),
        ("target-directory=", "t"), ("update=?", "u"), ("verbose", "v"), ("context=?", "Z")] }
  let o ← options table args
  if o.has "n" then
    warn (s!"{(← get).name}: warning: behavior of -n is non-portable and may change in future; " ++
      "use --update=none instead")
  let d ← destination o "missing file operand"
  if o.has "parents" && !d.isDirectory then
    misuse "with --parents, the destination must be a directory"
  let isRecursive := o.hasAny ["r", "R", "a"]
  let follows :=
    match o.last? ["L", "H", "P", "d", "a"] with
    | some "L" => true
    | some "H" => true
    | some _ => false
    | none => !isRecursive
  let style : CopyStyle :=
    { options := o, isRecursive, follows
      followsBelow := o.last? ["L", "P", "d", "a"] = some "L"
      isFaithful := o.hasAny ["p", "a"], way := inTheWay o }
  let steps := (← disk).nodes.length + 2
  let mut seen : List (List String) := []
  for source in d.sources do
    let path := if d.isDirectory then pathIn o d.target source else d.target
    if d.isDirectory && o.has "parents" then
      for part in beginnings (directoryPart path) do
        match ← place part with
        | .ok (t, none) => setDisk ((← disk).makeDirectory t.place)
        | _ => pure ()
    let found := (← lookUp? source).toOption
    let place := (found.map Prod.fst).getD []
    let isFile := found.any fun (_, n) => n != .directory
    if isFile && seen.contains place && d.isDirectory then
      warn s!"{(← get).name}: warning: source file {Quoting.always source} specified more than once"
    else style.copy steps none style.follows source path
    if found.isSome then seen := place :: seen

def moveTo (o : Options) (source path : String) : Work Unit := do
  let from_ := Quoting.always source
  let shown := Quoting.always path
  let way := inTheWay o
  match ← lookUp? source false with
  | .error error => complain s!"cannot stat {from_}: {error.description}"
  | .ok (sourcePlace, node) =>
    let refuse (reason : String) : Work Unit :=
      complain s!"cannot move {from_} to {shown}: {reason}"
    let isDirectory := node == .directory
    match ← place (if isDirectory then withoutSlashes path else path) false with
    | .error .notADirectory => complain s!"cannot stat {shown}: Not a directory"
    | .error error => refuse error.description
    | .ok (target, old) =>
      let replace (backup : String) : Work Unit := do
        let disk ← disk
        let isTaken := (disk.node? target.place).isSome
        let cleared := if isTaken then disk.removeAll target.place else disk
        setDisk (cleared.move sourcePlace target.place)
        if o.has "v" then putLine s!"renamed {from_} -> {shown}{backup}"
      let isBusy := isDirectory && (sourcePlace.isEmpty || endsInDots source)
      match old with
      | none =>
        if target.asDirectory && !isDirectory then refuse "Not a directory"
        else if isBusy then refuse "Device or resource busy"
        else if isDirectory && sourcePlace.isPrefixOf target.place then
          complain s!"cannot move {from_} to a subdirectory of itself, {shown}"
        else replace ""
      | some old =>
        let followed := (← lookUp? source).toOption
        let leadsThere := followed.any fun (p, n) => isSame p target.place n old
        if isSame sourcePlace target.place node old || leadsThere then
          complain s!"{from_} and {shown} are the same file"
        else if old == .directory && !isDirectory then
          complain s!"cannot overwrite directory {shown} with non-directory"
        else if old != .directory && isDirectory then
          complain s!"cannot overwrite non-directory {shown} with directory {from_}"
        else
          let time ← nodeTime node
          if ← mayReplace way time old then
            if old == .directory && !((← disk).list target.place).isEmpty then
              complain s!"cannot overwrite {shown}: Directory not empty"
            else if isDirectory && sourcePlace.isPrefixOf target.place then
              complain s!"cannot move {from_} to a subdirectory of itself, {shown}"
            else replace (← keepBackup o path target.place)
          else
            match way with
            | .kept =>
              if o.has "n" then complain s!"not replacing {shown}"
            | .askedAbout =>
              askToReplace path
              raise 1
            | _ => pure ()

/-- Moves files and directories. -/
def mv : Program := fun args => do
  let table : OptionTable :=
    { letters := "bfint:uvS:TZ"
      names := [("backup=?", "b"), ("context", "Z"), ("force", "f"), ("interactive", "i"),
        ("no-clobber", "n"), ("no-copy", "uncopied"), ("no-target-directory", "T"),
        ("strip-trailing-slashes", "strip"), ("suffix=", "S"), ("target-directory=", "t"),
        ("update=?", "u"), ("verbose", "v")] }
  let o ← options table args
  let d ← destination o "missing file operand"
  for source in d.sources do
    let isLast := endsInDots source
    let path :=
      if d.isDirectory && !isLast then inDirectory d.target (lastPart source)
      else if d.isDirectory then inDirectory d.target ((Disk.namesOf source).getLast?.getD "")
      else d.target
    moveTo o source path

/-- Copies files to where programs are kept, or makes directories. -/
def install : Program := fun args => do
  let table : OptionTable :=
    { letters := "bcsDdg:m:o:pt:TvCS:Z"
      names := [("backup=?", "b"), ("compare", "C"), ("directory", "d"), ("group=", "g"),
        ("mode=", "m"), ("no-target-directory", "T"), ("owner=", "o"), ("preserve-timestamps", "p"),
        ("strip", "s"), ("suffix=", "S"), ("target-directory=", "t"), ("verbose", "v")] }
  let o ← options table args
  let mode ←
    match o.value? "m" with
    | none => pure 0o755
    | some text =>
      match ← modeOf text 0 false with
      | some mode => pure mode
      | none => fail s!"invalid mode {Quoting.literal text}"
  let name := (← get).name
  let makeAll (path : String) (last : Nat) : Work Unit := do
    let all := beginnings path
    let mut goes := true
    for (part, i) in all.zipIdx do
      if goes then
        let isLast := i + 1 = all.length
        match ← place part with
        | .ok (t, none) =>
          setDisk ((← disk).makeDirectory t.place (if isLast then last else 0o755))
          if o.has "v" then putLine s!"{name}: creating directory {Quoting.always part}"
        | .ok (t, some .directory) =>
          if isLast then setDisk ((← disk).setModeAt t.place last)
        | .ok _ =>
          goes := false
          let reason := if isLast then SystemError.entryExists else .notADirectory
          complain s!"cannot create directory {Quoting.always part}: {reason.description}"
        | .error error =>
          goes := false
          complain s!"cannot create directory {Quoting.always part}: {error.description}"
  if o.has "d" then
    if o.operands.isEmpty then misuse "missing file operand"
    for path in o.operands do makeAll path mode
  else
    let d ← destination o "missing file operand"
    let style : CopyStyle :=
      { options := (o.push "install" "").push "remove" "", isRecursive := false, follows := true
        followsBelow := true, isFaithful := false, way := .replaced }
    for source in d.sources do
      let path := if d.isDirectory then inDirectory d.target (lastPart source) else d.target
      if o.has "D" && !d.isDirectory then
        let above := directoryPart path
        if !(← isDirectory above) then makeAll above 0o755
      let before := (← get).status
      modify fun p => { p with status := 0 }
      style.copy 2 none true source path
      let isDone := (← get).status = 0
      modify fun p => { p with status := max before p.status }
      if isDone then
        match ← lookUp? path with
        | .ok (place, .file _) => setDisk ((← disk).setModeAt place mode)
        | _ => pure ()

end SlotServer.Shell.Utility
