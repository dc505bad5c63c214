import SlotServer.Shell.Utility.Listing
import SlotServer.Shell.Utility.Making

/-!
# Utilities that look at files

Programs that say what is known about a file, and where a path leads.
-/

namespace SlotServer.Shell.Utility

open Work

/-! ## What is known about a file -/

/-- A time as a date with nine places after the second. -/
def fullTime (time : Nat) : String :=
  let d := Calendar.ofSeconds time
  let two (n : Nat) : String := (if n < 10 then "0" else "") ++ toString n
  s!"{d.year}-{two d.month}-{two d.day} {two d.hour}:{two d.minute}:{two d.second}" ++
    ".000000000 +0000"

def kindBits : DiskNode → Nat
  | .directory => 0o040000
  | .file _ => 0o100000
  | .link _ => 0o120000
  | _ => 0o020000

/-- What a letter after a percent sign stands for, for an entry that is known by a path. -/
def statField (disk : Disk) (path : String) (e : Entry) (letter : Char) : Option String :=
  let hex (n : Nat) : String := String.ofList (Nat.toDigits 16 n)
  match letter with
  | 'a' => some (Permission.octal 1 e.mode)
  | 'A' => some e.permissions
  | 'b' => some (toString (e.blocks * 2))
  | 'B' => some "512"
  | 'd' => some "65024"
  | 'D' => some "fe00"
  | 'f' => some (hex (kindBits e.node + e.mode))
  | 'F' => some (kindName disk e.node)
  | 'g' => some "0"
  | 'G' => some "root"
  | 'h' => some (toString e.links)
  | 'i' => some (toString (Listing.number disk e))
  | 'm' => some "/"
  | 'n' => some path
  | 'N' =>
    let shown := Quoting.always path
    some (match e.target with
      | some target => s!"{shown} -> {Quoting.always target}"
      | none => shown)
  | 'o' => some "4096"
  | 's' => some (toString e.size)
  | 't' => some (if e.node matches .nullDevice then "1" else "0")
  | 'T' => some (if e.node matches .nullDevice then "3" else "0")
  | 'u' => some "0"
  | 'U' => some "root"
  | 'w' => some (fullTime e.time)
  | 'W' => some (toString e.time)
  | 'x' => some (fullTime e.time)
  | 'X' => some (toString e.time)
  | 'y' => some (fullTime e.time)
  | 'Y' => some (toString e.time)
  | 'z' => some (fullTime e.time)
  | 'Z' => some (toString e.time)
  | _ => none

/-- A field in a width that flags and digits in front of its letter say. -/
def placed (flags : List Char) (text : String) : String :=
  let marks := flags.takeWhile fun c => "-+ #0".toList.contains c
  let width := Text.ofDigits 10 (Text.digits 10 (flags.drop marks.length)).1
  if marks.contains '-' then padRight width text
  else if marks.contains '0' then
    String.ofList (List.replicate (width - text.length) '0') ++ text
  else padLeft width text

/-- A text with the fields of a format filled in. Where `hasEscapes` is set, a backslash stands for
a character together with what follows it. -/
def filledIn (field : Char → Option String) (hasEscapes : Bool) : Nat → List Char → List Char
  | 0, _ => []
  | _ + 1, [] => []
  | steps + 1, '%' :: rest =>
    let flags := rest.takeWhile fun c => "-+ #0123456789.".toList.contains c
    match rest.drop flags.length with
    | [] => '%' :: flags
    | '%' :: more => '%' :: filledIn field hasEscapes steps more
    | c :: more =>
      let shown := match field c with
        | some text => placed flags text
        | none => "?"
      shown.toList ++ filledIn field hasEscapes steps more
  | steps + 1, '\\' :: rest =>
    if !hasEscapes then '\\' :: filledIn field hasEscapes steps rest
    else
      let digits := (rest.takeWhile fun c => '0' ≤ c && c ≤ '7').take 3
      if !digits.isEmpty then
        let value := digits.foldl (fun n c => 8 * n + (c.toNat - 0x30)) 0
        Char.ofNat (value % 256) :: filledIn field hasEscapes steps (rest.drop digits.length)
      else
        match rest with
        | [] => ['\\']
        | 'x' :: more =>
          match Text.digits 16 (more.take 2) with
          | ([], _) => 'x' :: filledIn field hasEscapes steps more
          | (ds, _) =>
            Char.ofNat (Text.ofDigits 16 ds) ::
              filledIn field hasEscapes steps (more.drop ds.length)
        | c :: more =>
          let meant : List (Char × Char) :=
            [('a', '\x07'), ('b', '\x08'), ('e', '\x1B'), ('f', '\x0C'), ('n', '\n'),
              ('r', '\r'), ('t', '\t'), ('v', '\x0B')]
          (meant.lookup c).getD c :: filledIn field hasEscapes steps more
  | steps + 1, c :: rest => c :: filledIn field hasEscapes steps rest

/-- All that is known about a file, in lines. -/
def statLines (disk : Disk) (path : String) (e : Entry) : String :=
  let name := match e.target with
    | some target => s!"{path} -> {target}"
    | none => path
  let time := fullTime e.time
  let owner := "(    0/    root)"
  s!"  File: {name}\n  Size: {padRight 10 (toString e.size)}\tBlocks: " ++
    s!"{padRight 10 (toString (e.blocks * 2))} IO Block: 4096   " ++
    s!"{kindName disk e.node}\nDevice: 254,0\tInode: " ++
    s!"{padRight 11 (toString (Listing.number disk e))} Links: {e.links}\n" ++
    s!"Access: ({Permission.octal 4 e.mode}/{e.permissions})  Uid: {owner}   Gid: {owner}\n" ++
    s!"Access: {time}\nModify: {time}\nChange: {time}\n Birth: {time}\n"

/-- Says what is known about files. -/
def stat : Program := fun args => do
  let table : OptionTable :=
    { letters := "c:fLt"
      names := [("dereference", "L"), ("file-system", "f"), ("format=", "c"),
        ("printf=", "printf"), ("terse", "t"), ("cached=", "cached")] }
  let o ← options table args
  if o.operands.isEmpty then misuse "missing operand"
  for path in o.operands do
    match ← lookUp? path (o.has "L") with
    | .error error =>
      let verb := if o.has "f" then "read file system information for" else "statx"
      complain s!"cannot {verb} {Quoting.always path}: {error.description}"
    | .ok (place, node) =>
      let disk ← disk
      let e := Entry.ofPlace disk path place node
      let field := statField disk path e
      match o.last? ["c", "printf"] with
      | some "c" =>
        let format := ((o.value? "c").getD "").toList
        putLine (String.ofList (filledIn field false (format.length + 1) format))
      | some _ =>
        let format := ((o.value? "printf").getD "").toList
        putText (String.ofList (filledIn field true (format.length + 1) format))
      | none => putText (statLines disk path e)

/-! ## Where a path leads -/

/-- How much of a path has to be there. -/
inductive Presence where
  | whole
  | allButLast
  | none
  deriving DecidableEq, Repr

/-- Where names lead one after another; what is missing may be a directory. -/
def wander (disk : Disk) : Nat → List String → List String → Option (List String)
  | 0, _, _ => Option.none
  | _ + 1, place, [] => some place
  | steps + 1, place, name :: rest =>
    if name = "." then wander disk steps place rest
    else if name = ".." then wander disk steps place.dropLast rest
    else
      match disk.node? (place ++ [name]) with
      | some (.link target) =>
        let start := if Disk.isAbsolute target then [] else place
        wander disk steps start (Disk.namesOf target ++ rest)
      | _ => wander disk steps (place ++ [name]) rest

/-- Where names lead if links are names like others. -/
def plainly (start : List String) (names : List String) : List String :=
  names.foldl (fun place name =>
    if name = "." then place else if name = ".." then place.dropLast else place ++ [name]) start

def canonical (path : String) (presence : Presence) : Work (Except SystemError (List String)) := do
  let disk ← disk
  if path.isEmpty then return .error .noSuchEntry
  match presence with
  | .none =>
    let start := if Disk.isAbsolute path then [] else disk.workingDirectory
    match wander disk 4096 start (Disk.namesOf path) with
    | some place => return .ok place
    | Option.none => return .error .tooManyLinks
  | .whole =>
    match ← lookUp? path with
    | .ok (place, _) => return .ok place
    | .error error => return .error error
  | .allButLast =>
    match ← place path with
    | .error error => return .error error
    | .ok (target, some node) =>
      if target.asDirectory && node != .directory then return .error .notADirectory
      else return .ok target.place
    | .ok (target, Option.none) => return .ok target.place

/-- Writes where links lead, or where paths lead. -/
def readlink : Program := fun args => do
  let table : OptionTable :=
    { letters := "femnqsvz"
      names := [("canonicalize", "f"), ("canonicalize-existing", "e"),
        ("canonicalize-missing", "m"), ("no-newline", "n"), ("quiet", "q"), ("silent", "s"),
        ("verbose", "v"), ("zero", "z")] }
  let o ← options table args
  if o.operands.isEmpty then misuse "missing operand"
  let hasNoEnd := o.has "n" && o.operands.length = 1
  if o.has "n" && !hasNoEnd then
    warn s!"{(← get).name}: ignoring --no-newline with multiple arguments"
  let end_ := if o.has "z" then "\x00" else if hasNoEnd then "" else "\n"
  let refuse (path : String) (error : SystemError) : Work Unit :=
    if o.last? ["q", "s", "v"] = some "v" then
      complain s!"{Quoting.ifNeeded path}: {error.description}"
    else raise 1
  for path in o.operands do
    match o.last? ["f", "e", "m"] with
    | some mode =>
      let presence : Presence :=
        if mode = "e" then .whole else if mode = "m" then .none else .allButLast
      match ← canonical path presence with
      | .ok place => putText (pathOfPlace place ++ end_)
      | .error error => refuse path error
    | none =>
      match ← lookUp? path false with
      | .ok (_, .link target) => putText (target ++ end_)
      | .ok _ => refuse path .invalidArgument
      | .error error => refuse path error

def realpath : Program := fun args => do
  let table : OptionTable :=
    { letters := "eLmPqsz"
      names := [("canonicalize-existing", "e"), ("canonicalize-missing", "m"),
        ("relative-to=", "to"), ("relative-base=", "base"), ("quiet", "q"), ("strip", "s"),
        ("no-symlinks", "s"), ("zero", "z"), ("logical", "L"), ("physical", "P")] }
  let o ← options table args
  if o.operands.isEmpty then misuse "missing operand"
  let end_ := if o.has "z" then "\x00" else "\n"
  let isPlain := o.has "s"
  let presence : Presence :=
    match o.last? ["e", "m"] with
    | some "e" => .whole
    | some _ => .none
    | none => .allButLast
  let lead (path : String) : Work (Except SystemError (List String)) := do
    if isPlain then
      let disk ← disk
      let start := if Disk.isAbsolute path then [] else disk.workingDirectory
      if path.isEmpty then return .error .noSuchEntry
      return .ok (plainly start (Disk.namesOf path))
    else canonical path presence
  let reference (option : String) : Work (Option (List String)) := do
    match o.value? option with
    | none => return none
    | some path =>
      match ← lead path with
      | .ok place => return some place
      | .error error => fail s!"{Quoting.ifNeeded path}: {error.description}"
  let to_ ← reference "to"
  let base ← reference "base"
  for path in o.operands do
    match ← lead path with
    | .error error =>
      if o.has "q" then raise 1
      else
        let shown := if path.isEmpty then "''" else Quoting.ifNeeded path
        complain s!"{shown}: {error.description}"
    | .ok place =>
      let isBelow := base.all fun b => b.isPrefixOf place
      let shown :=
        match to_, base with
        | some t, none => relativePath t place
        | some t, some b =>
          if isBelow && b.isPrefixOf t then relativePath t place else pathOfPlace place
        | none, some b => if isBelow then relativePath b place else pathOfPlace place
        | none, none => pathOfPlace place
      putText (shown ++ end_)

end SlotServer.Shell.Utility
