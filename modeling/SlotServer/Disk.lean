import SlotServer.Capability
import SlotServer.Disk.Machine
import SlotServer.Text.Split

/-!
# Disks

A tree of directories and names of files with a working directory, and how paths are looked up in
it. Each name of a path is looked up in the directory that the names before it lead to; a path that
ends in a slash has to lead to a directory. A file can have several names, and it outlives them as
long as somebody holds it; so what a file holds is kept apart from its names.
-/

namespace SlotServer

/-- What a name on a disk stands for. -/
inductive DiskNode where
  | directory
  | file (number : Nat)
  /-- Another path, which is looked up in the directory of the name. -/
  | link (target : String)
  /-- A device that takes everything and gives nothing. -/
  | nullDevice
  | fullDevice
  /-- A device that takes everything, and gives zeros to a reader that says how many it wants. -/
  | zeroDevice
  /-- What a descriptor of the program that opens it leads to. -/
  | stream (descriptor : Nat)
  deriving DecidableEq, Repr

structure DiskFile where
  contents : Bytes
  /-- The permissions: for the owner, the group and others, each to read, to write and to run. -/
  mode : Nat
  /-- When it was last written, in seconds from the beginning of 1970. -/
  time : Nat
  /-- The program of the machine that is run where the file is run, if it is one. -/
  program : Option String := none

/-- What is at each place, a place being the names that lead to it from the root; the permissions of
directories that are not the usual ones; the files, by number; the place of the working directory;
and the time. -/
structure Disk where
  nodes : List (List String × DiskNode)
  directoryModes : List (List String × Nat)
  files : Array DiskFile
  workingDirectory : List String
  time : Nat

namespace Disk

def firstDevices : List (String × DiskNode) :=
  [("null", .nullDevice), ("full", .fullDevice), ("zero", .zeroDevice), ("random", .zeroDevice),
    ("urandom", .zeroDevice), ("stdin", .stream 0), ("stdout", .stream 1), ("stderr", .stream 2)]

def firstTime : Nat := 1767225600

/-- What the file of a program begins with. -/
def programHead : Bytes := [0x7F, 0x45, 0x4C, 0x46, 0x02, 0x01, 0x01, 0x00]

/-- The files of the machine's programs, and then its other files. -/
def firstFiles : List (List String × DiskFile) :=
  Machine.programs.map (fun name =>
    (Machine.programDirectory ++ [name], ⟨programHead, 0o755, firstTime, some name⟩)) ++
    Machine.files.map fun (place, text) =>
      (place, ⟨Utf8.encodeString text, 0o644, firstTime, none⟩)

/-- A disk with an empty working directory. -/
def empty : Disk where
  nodes :=
    Machine.directories.map (fun place => (place, .directory)) ++
      Machine.links.map (fun (place, target) => (place, .link target)) ++
      firstDevices.map (fun (name, node) => (["dev", name], node)) ++
      (List.range 10).map (fun n => (["dev", "fd", toString n], .stream n)) ++
      firstFiles.zipIdx.map fun ((place, _), i) => (place, .file i)
  directoryModes := [(["tmp"], 0o1777)]
  files := (firstFiles.map Prod.snd).toArray
  workingDirectory := ["tmp", "work"]
  time := firstTime

/-- The permissions of a new file where nobody takes any away. -/
def defaultMode : Nat := 0o644

/-- What is at a place, if anything is. -/
def node? (disk : Disk) (place : List String) : Option DiskNode :=
  disk.nodes.lookup place

/-- The disk with something put at a place, in place of what was there. -/
def put (disk : Disk) (place : List String) (node : DiskNode) : Disk :=
  if (disk.node? place).isSome then
    { disk with nodes := disk.nodes.map fun (p, old) => (p, if p = place then node else old) }
  else
    { disk with nodes := disk.nodes ++ [(place, node)] }

def file? (disk : Disk) (number : Nat) : Option DiskFile :=
  disk.files[number]?

def fileContents (disk : Disk) (number : Nat) : Bytes :=
  ((disk.file? number).map DiskFile.contents).getD []

def putFile (disk : Disk) (place : List String) (contents : Bytes) (mode : Nat := defaultMode) :
    Disk :=
  { disk.put place (.file disk.files.size) with
    files := disk.files.push { contents, mode, time := disk.time } }

def writeFile (disk : Disk) (number : Nat) (change : Bytes → Bytes) : Disk :=
  { disk with
    files := disk.files.modify number fun f =>
      { f with contents := change f.contents, time := disk.time, program := none } }

/-- The disk with other permissions for a file. -/
def setMode (disk : Disk) (number mode : Nat) : Disk :=
  { disk with files := disk.files.modify number fun f => { f with mode } }

def setTime (disk : Disk) (number time : Nat) : Disk :=
  { disk with files := disk.files.modify number fun f => { f with time } }

/-- The permissions that a directory usually has. -/
def directoryMode : Nat := 0o755

def modeAt (disk : Disk) (place : List String) : Nat :=
  match disk.node? place with
  | some .directory => (disk.directoryModes.lookup place).getD directoryMode
  | some (.file number) => ((disk.file? number).map DiskFile.mode).getD defaultMode
  | some (.link _) => 0o777
  | _ => 0o666

def setModeAt (disk : Disk) (place : List String) (mode : Nat) : Disk :=
  match disk.node? place with
  | some .directory =>
    let others := disk.directoryModes.filter fun (p, _) => p != place
    { disk with directoryModes := (place, mode) :: others }
  | some (.file number) => disk.setMode number mode
  | _ => disk

def makeDirectory (disk : Disk) (place : List String) (mode : Nat := directoryMode) : Disk :=
  (disk.put place .directory).setModeAt place mode

def remove (disk : Disk) (place : List String) : Disk :=
  { disk with
    nodes := disk.nodes.filter fun (p, _) => p != place
    directoryModes := disk.directoryModes.filter fun (p, _) => p != place }

/-- The disk without what is at a place and below it. -/
def removeAll (disk : Disk) (place : List String) : Disk :=
  { disk with
    nodes := disk.nodes.filter fun (p, _) => !place.isPrefixOf p
    directoryModes := disk.directoryModes.filter fun (p, _) => !place.isPrefixOf p }

def move (disk : Disk) (place target : List String) : Disk :=
  let moved (p : List String) : List String :=
    if place.isPrefixOf p then target ++ p.drop place.length else p
  { disk with
    nodes := disk.nodes.map fun (p, node) => (moved p, node)
    directoryModes := disk.directoryModes.map fun (p, mode) => (moved p, mode) }

/-- The number of names of a file. -/
def linkCount (disk : Disk) (number : Nat) : Nat :=
  disk.nodes.countP fun (_, node) => node == .file number

/-- The contents of a directory, by name. -/
def list (disk : Disk) (place : List String) : List (String × DiskNode) :=
  disk.nodes.filterMap fun (p, node) =>
    match p.getLast? with
    | some name => if p.dropLast = place then some (name, node) else none
    | none => none

def maxNameBytes : Nat := 255

def maxPathBytes : Nat := 4095

/-- The most links that are followed on one path. -/
def maxLinks : Nat := 40

def follow (disk : Disk) (place : List String) (name : String) :
    Except SystemError (List String) :=
  match disk.node? place with
  | none => .error .noSuchEntry
  | some .directory =>
    if name = "." then .ok place
    else if name = ".." then .ok place.dropLast
    else if maxNameBytes < (Utf8.encodeString name).length then .error .nameTooLong
    else .ok (place ++ [name])
  | some _ => .error .notADirectory

def namesOf (path : String) : List String :=
  ((Text.splitAt '/' path.toList).filter (!·.isEmpty)).map String.ofList

/-- Whether a path begins at the root. -/
def isAbsolute (path : String) : Bool :=
  path.toList.head? = some '/'

/-- Follows names one after another. Links are followed too, but one at the end only if
`throughLast` says so. -/
def followAll (disk : Disk) (throughLast : Bool) (links : Nat) (place : List String) :
    List String → Except SystemError (List String)
  | [] => .ok place
  | name :: names =>
    match disk.follow place name with
    | .error error => .error error
    | .ok next =>
      match disk.node? next, links with
      | some (.link target), links =>
        if names.isEmpty && !throughLast then .ok next
        else
          match links with
          | 0 => .error .tooManyLinks
          | links + 1 =>
            let start := if isAbsolute target then [] else place
            disk.followAll throughLast links start (namesOf target ++ names)
      | _, links => disk.followAll throughLast links next names
termination_by names => (links, names.length)

/-- Where a path leads, and whether it ends in a slash. The last name need not exist. -/
structure Target where
  place : List String
  asDirectory : Bool

/-- Looks up a path; a link at its end is followed if `throughLast` says so, and where the path ends
in a slash. -/
def resolve (disk : Disk) (path : String) (throughLast : Bool := true) : Except Fault Target :=
  if path.toList.contains '\x00' then .error .nulInPath
  else if path.isEmpty then .error (.system .noSuchEntry)
  else if maxPathBytes < (Utf8.encodeString path).length then .error (.system .nameTooLong)
  else
    let start := if isAbsolute path then [] else disk.workingDirectory
    let asDirectory := path.toList.getLast? = some '/'
    match disk.followAll (throughLast || asDirectory) maxLinks start (namesOf path) with
    | .error error => .error (.system error)
    | .ok place => .ok ⟨place, asDirectory⟩

/-- The names and directories below the working directory, by their relative paths; the path of a
directory ends in a slash and has no contents. A link counts as the file that it leads to. -/
def contents (disk : Disk) : List (String × Option Bytes) :=
  disk.nodes.filterMap fun (place, node) =>
    if disk.workingDirectory.isPrefixOf place && place != disk.workingDirectory then
      let path := "/".intercalate (place.drop disk.workingDirectory.length)
      match node with
      | .directory => some (path ++ "/", none)
      | .file number => some (path, some (disk.fileContents number))
      | .link _ =>
        match disk.resolve ("/" ++ "/".intercalate place) with
        | .ok target =>
          match disk.node? target.place with
          | some .directory => some (path ++ "/", none)
          | some (.file number) => some (path, some (disk.fileContents number))
          | _ => none
        | .error _ => none
      | _ => none
    else
      none

/-- Opens a path for reading. A directory can be opened, but not read. -/
def openFile (disk : Disk) (path : String) : Except Fault ReadScript :=
  match disk.resolve path with
  | .error fault => .error fault
  | .ok target =>
    match disk.node? target.place with
    | none => .error (.system .noSuchEntry)
    | some .directory => .ok [.fault (.system .isADirectory)]
    | some node =>
      if target.asDirectory then .error (.system .notADirectory) else
        match node with
        | .file number => .ok [.data (disk.fileContents number)]
        | _ => .ok []

/-- Creates a path, or empties the file that is there. -/
def createFile (disk : Disk) (path : String) (mode : Nat := defaultMode) :
    Except Fault WriteScript × Disk :=
  match disk.resolve path with
  | .error fault => (.error fault, disk)
  | .ok target =>
    match disk.node? target.place with
    | some .directory => (.error (.system .isADirectory), disk)
    | some .fullDevice => (.ok { writes := [.fault (.system .noSpaceLeft)] }, disk)
    | some .nullDevice => (.ok {}, disk)
    | some .zeroDevice => (.ok {}, disk)
    | some (.file number) =>
      if target.asDirectory then (.error (.system .isADirectory), disk)
      else (.ok {}, disk.writeFile number fun _ => [])
    | _ =>
      if target.asDirectory then (.error (.system .isADirectory), disk)
      else (.ok {}, disk.putFile target.place [] mode)

/-- Appends bytes to the file that a path leads to. -/
def append (disk : Disk) (path : String) (bytes : Bytes) : Disk :=
  match disk.resolve path with
  | .error _ => disk
  | .ok target =>
    match disk.node? target.place with
    | some (.file number) => disk.writeFile number (· ++ bytes)
    | _ => disk

end Disk

end SlotServer
