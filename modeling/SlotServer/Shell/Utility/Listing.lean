import SlotServer.Shell.Pattern
import SlotServer.Shell.Permission
import SlotServer.Shell.Utility.Amount
import SlotServer.Shell.Utility.Calendar
import SlotServer.Shell.Utility.Paths

/-!
# Listing directories

The program that lists files and the contents of directories: one name in a line or several, in an
order that the options choose, alone or with what is known about the files.
-/

namespace SlotServer.Shell.Utility

open Work

/-- What a listing says about a file. -/
structure Entry where
  name : String
  place : List String
  node : DiskNode
  /-- What a link leads to. -/
  target : Option String
  mode : Nat
  size : Nat
  time : Nat
  links : Nat

namespace Entry

/-- The blocks of a file, of 1024 bytes each. -/
def blocks (e : Entry) : Nat :=
  match e.node with
  | .directory => 4
  | .file _ => (e.size + 4095) / 4096 * 4
  | _ => 0

/-- What is known about a place, which is listed under a name. -/
def ofPlace (disk : Disk) (name : String) (place : List String) (node : DiskNode) : Entry :=
  let file? := match node with
    | .file number => disk.file? number
    | _ => none
  let subdirectories := (disk.list place).countP fun (_, n) => n == .directory
  { name, place, node
    target := match node with
      | .link target => some target
      | _ => none
    mode := disk.modeAt place
    size := match node with
      | .directory => 4096
      | .link target => (Utf8.encodeString target).length
      | _ => (file?.map fun f => f.contents.length).getD 0
    time := (file?.map DiskFile.time).getD disk.time
    links := match node with
      | .directory => 2 + subdirectories
      | .file number => disk.linkCount number
      | _ => 1 }

def kindLetter : DiskNode → Char
  | .directory => 'd'
  | .file _ => '-'
  | .link _ => 'l'
  | _ => 'c'

def permissions (e : Entry) : String :=
  String.ofList [kindLetter e.node] ++ Permission.listed e.mode

/-- The mark after a name that tells its kind. -/
def mark (e : Entry) (showsRunnable : Bool) : String :=
  match e.node with
  | .directory => "/"
  | .link _ => "@"
  | .file _ => if showsRunnable && e.mode &&& 0o111 ≠ 0 then "*" else ""
  | _ => ""

end Entry

/-- How names are arranged. -/
inductive Arrangement where
  | lines
  | long
  | columns
  | rows
  | commas
  deriving DecidableEq, Repr

/-- What names are ordered by. -/
inductive Ranking where
  | name
  | time
  | size
  | ending
  | version
  | nothing
  deriving DecidableEq, Repr

namespace Listing

def table : OptionTable where
  letters := "abcdfghiklmnopqrstuvw:xABCDFGHI:LNQRST:UXZ1"
  names :=
    [("all", "a"), ("escape", "b"), ("directory", "d"), ("dired", "D"), ("full-time", "full"),
      ("group-directories-first", "grouped"), ("human-readable", "h"), ("inode", "i"),
      ("kibibytes", "k"), ("numeric-uid-gid", "n"), ("no-group", "G"), ("hide-control-chars", "q"),
      ("reverse", "r"), ("size", "s"), ("width=", "w"), ("almost-all", "A"),
      ("ignore-backups", "B"), ("classify=?", "F"), ("file-type", "file-type"), ("si", "h"),
      ("dereference-command-line", "H"), ("dereference-command-line-symlink-to-dir", "Hd"),
      ("hide=", "hide"), ("ignore=", "I"), ("indicator-style=", "indicator"),
      ("dereference", "L"), ("literal", "N"), ("quote-name", "Q"), ("quoting-style=", "quoting"),
      ("recursive", "R"), ("format=", "format"), ("show-control-chars", "control"),
      ("sort=", "sort"), ("tabsize=", "T"), ("time=", "timed"), ("time-style=", "time-style"),
      ("zero", "zero"), ("color=?", "color"), ("hyperlink=?", "hyperlink"),
      ("block-size=", "block"), ("context", "Z"), ("author", "author")]

/-- How names are arranged, by the options. -/
def arrangement (o : Options) : Arrangement :=
  o.given.foldl (fun found (option, value) =>
    match option with
    | "l" => .long
    | "g" => .long
    | "n" => .long
    | "o" => .long
    | "full" => .long
    | "C" => .columns
    | "x" => .rows
    | "m" => .commas
    | "1" => if found = .long then found else .lines
    | "zero" => if found = .long then found else .lines
    | "format" =>
      if value = "long" || value = "verbose" then .long
      else if value = "commas" then .commas
      else if value = "across" || value = "horizontal" then .rows
      else if value = "vertical" then .columns
      else .lines
    | _ => found) .lines

def ranking (o : Options) : Ranking :=
  o.given.foldl (fun found (option, value) =>
    match option with
    | "t" => .time
    | "S" => .size
    | "X" => .ending
    | "v" => .version
    | "U" => .nothing
    | "f" => .nothing
    | "sort" =>
      (([("none", .nothing), ("time", .time), ("size", .size), ("extension", .ending),
        ("version", .version)] : List (String × Ranking)).lookup value).getD found
    | _ => found) .name

def isBefore : Bytes → Bytes → Bool
  | [], _ => true
  | _ :: _, [] => false
  | a :: as, b :: bs => if a = b then isBefore as bs else a < b

/-- The pieces of a name that are digits, and those that are none. -/
def pieces : Nat → List Char → List (Bool × List Char)
  | 0, _ => []
  | _, [] => []
  | steps + 1, c :: rest =>
    let same := (c :: rest).takeWhile fun d => d.isDigit = c.isDigit
    (c.isDigit, same) :: pieces steps ((c :: rest).drop same.length)

/-- Compares names so that numbers in them count as numbers. -/
def isBeforeAsVersion : List (Bool × List Char) → List (Bool × List Char) → Bool
  | [], _ => true
  | _ :: _, [] => false
  | (isNumber, a) :: as, (isOther, b) :: bs =>
    if a = b then isBeforeAsVersion as bs
    else if isNumber && isOther then
      let m := Text.ofDigits 10 (Text.digits 10 a).1
      let n := Text.ofDigits 10 (Text.digits 10 b).1
      m < n || m = n && isBeforeAsVersion as bs
    else isBefore (Utf8.encodeString (String.ofList a)) (Utf8.encodeString (String.ofList b))

/-- The part of a name from its last point on. -/
def ending (name : String) : List Char :=
  let back := name.toList.reverse.takeWhile (· ≠ '.')
  if back.length = name.length then [] else '.' :: back.reverse

def sorted (o : Options) (entries : List Entry) : List Entry :=
  let key (e : Entry) : Bytes := Utf8.encodeString e.name
  let byName (a b : Entry) : Bool := isBefore (key a) (key b)
  let first (a b : Entry) (less more : Bool) : Bool := less || !more && byName a b
  let before (a b : Entry) : Bool :=
    match ranking o with
    | .name => byName a b
    | .time => first a b (b.time < a.time) (a.time < b.time)
    | .size => first a b (b.size < a.size) (a.size < b.size)
    | .ending =>
      let p := Utf8.encodeString (String.ofList (ending a.name))
      let q := Utf8.encodeString (String.ofList (ending b.name))
      if p = q then byName a b else isBefore p q
    | .version =>
      isBeforeAsVersion (pieces a.name.length a.name.toList) (pieces b.name.length b.name.toList)
    | .nothing => true
  let ordered :=
    if ranking o = .nothing then entries
    else
      let ordered := entries.mergeSort before
      if o.has "r" then ordered.reverse else ordered
  if o.has "grouped" then
    let isDirectory (e : Entry) : Bool := e.node == .directory
    ordered.filter isDirectory ++ ordered.filter fun e => !isDirectory e
  else ordered

def shownName (o : Options) (name : String) : String :=
  let bytes := Utf8.encodeString name
  let inCodes (marks : List Char) : List Char := bytes.flatMap fun b =>
    let c := Quoting.shown b
    if !Quoting.isPrintable b then Quoting.escaped b
    else if marks.contains c then ['\\', c]
    else [c]
  match o.last? ["Q", "b", "q", "N"] with
  | some "Q" => String.ofList ('"' :: inCodes ['"', '\\'] ++ ['"'])
  | some "b" => String.ofList (inCodes [' ', '\\'])
  | some "q" =>
    String.ofList (bytes.map fun b => if Quoting.isPrintable b then Quoting.shown b else '?')
  | _ => name

def scaled (n : Nat) : String :=
  let rec go : List Char → Nat → String
    | [], unit => toString (n / unit)
    | letter :: letters, unit =>
      if letters.isEmpty || n < unit * 1024 then
        let tenths := (10 * n + unit - 1) / unit
        if tenths < 100 then s!"{tenths / 10}.{tenths % 10}{letter}"
        else s!"{(n + unit - 1) / unit}{letter}"
      else go letters (unit * 1024)
  if n < 1024 then toString n else go ['K', 'M', 'G', 'T', 'P'] 1024

/-- When a file was last written, as a listing shows it: with the time of day if it was not long
ago, and with the year otherwise. -/
def shownTime (o : Options) (now time : Nat) : String :=
  let d := Calendar.ofSeconds time
  let two (n : Nat) : String := (if n < 10 then "0" else "") ++ toString n
  let clock := s!"{two d.hour}:{two d.minute}"
  let style := if o.has "full" then "full-iso" else (o.value? "time-style").getD "locale"
  let numbers := s!"{d.year}-{two d.month}-{two d.day}"
  if style = "full-iso" then s!"{numbers} {clock}:{two d.second}.000000000 +0000"
  else if style = "long-iso" then s!"{numbers} {clock}"
  else
    let month := String.ofList ((Calendar.months.getD (d.month - 1) "").toList.take 3)
    let isRecent := time ≤ now && now < time + 15778476
    s!"{month} {padLeft 2 (toString d.day)} " ++
      (if isRecent then clock else s!" {d.year}")

def markOf (o : Options) (e : Entry) : String :=
  let style := o.given.foldl (fun found (option, value) =>
    match option with
    | "F" => if value = "never" || value = "no" || value = "none" || value = "auto" then found
      else "classify"
    | "p" => "slash"
    | "file-type" => "file-type"
    | "indicator" => value
    | _ => found) "none"
  match style with
  | "classify" => e.mark true
  | "file-type" => e.mark false
  | "slash" => if e.node == .directory then "/" else ""
  | _ => ""

def number (disk : Disk) (e : Entry) : Nat :=
  match e.node with
  | .file n => 100 + n
  | _ => 1000 + disk.nodes.findIdx fun (p, _) => p = e.place

/-- What stands in front of a name, each part as wide as the widest of its kind. -/
def front (o : Options) (disk : Disk) (all : List Entry) (e : Entry) (aligns : Bool) : String :=
  let widest (f : Entry → String) : Nat :=
    if aligns then all.foldl (fun n x => max n (f x).length) 0 else 0
  let column (f : Entry → String) : String := padLeft (widest f) (f e) ++ " "
  let size (n : Nat) : String := if o.has "h" then scaled n else toString n
  (if o.has "i" then column fun x => toString (number disk x) else "") ++
    (if o.has "s" then
      column fun x => if o.has "h" then scaled (x.blocks * 1024) else toString x.blocks
    else "") ++
    (if arrangement o = .long then
      let owner := if o.has "n" then "0" else "root"
      let group := if o.hasAny ["o", "G"] then "" else owner ++ " "
      e.permissions ++ " " ++ (column fun x => toString x.links) ++
        (if o.has "g" then "" else owner ++ " ") ++ group ++
        (if o.has "author" then owner ++ " " else "") ++
        (column fun x => if x.node matches .nullDevice then "1, 3" else size x.size) ++
        shownTime o disk.time e.time ++ " "
    else "")

def whole (o : Options) (disk : Disk) (all : List Entry) (e : Entry) (aligns : Bool) : String :=
  let arrow :=
    match e.target with
    | some target => if arrangement o = .long then s!" -> {shownName o target}" else markOf o e
    | none => markOf o e
  front o disk all e aligns ++ shownName o e.name ++ arrow

def indented (tab : Nat) : Nat → Nat → Nat → List Char
  | 0, _, _ => []
  | steps + 1, start, end_ =>
    if end_ ≤ start then []
    else if tab ≠ 0 && (start + 1) / tab < end_ / tab then
      '\t' :: indented tab steps (start + tab - start % tab) end_
    else ' ' :: indented tab steps (start + 1) end_

/-- The widths of so many columns for names of these widths, and whether they fit in a line. -/
def columnWidths (byColumns : Bool) (width count : Nat) (widths : List Nat) :
    List Nat × Bool :=
  let rows := (widths.length + count - 1) / count
  let columns := (List.range count).map fun c =>
    (widths.zipIdx.filter fun (_, i) => (if byColumns then i / max rows 1 else i % count) = c).map
      fun (w, _) => max 3 (w + if c + 1 = count then 0 else 2)
  let sizes := columns.map fun ws => ws.foldl max 3
  (sizes, sizes.foldl (· + ·) 0 < width)

def inColumns (byColumns : Bool) (width tab : Nat) (names : List String) : String :=
  let widths := names.map String.length
  let most := min names.length (max 1 ((width + 2) / 3))
  let fitting := ((List.range most).map (· + 1)).reverse.find? fun count =>
    (columnWidths byColumns width count widths).2
  let count := fitting.getD 1
  let sizes := (columnWidths byColumns width count widths).1
  let rows := (names.length + count - 1) / count
  let line (row : Nat) : List String :=
    if byColumns then
      (List.range count).filterMap fun c => names[row + c * rows]?
    else (names.drop (row * count)).take count
  let shown (row : Nat) : List Char :=
    let cells := line row
    let (text, _) := cells.zipIdx.foldl (fun (text, start) (cell, c) =>
      let end_ := start + sizes.getD c 0
      let gap := if c + 1 = cells.length then []
        else indented tab (end_ + 1) (start + cell.length) end_
      (text ++ cell.toList ++ gap, end_)) (([] : List Char), 0)
    text ++ ['\n']
  String.ofList ((List.range rows).flatMap shown)

/-- Names in lines, with commas between them. -/
def withCommas (width : Nat) (names : List String) : String :=
  let (text, _) := names.zipIdx.foldl (fun (text, start) (name, i) =>
    if i = 0 then (text ++ name, name.length)
    else if width = 0 || start + 2 + name.length < width then
      (text ++ ", " ++ name, start + 2 + name.length)
    else (text ++ ",\n" ++ name, name.length)) ("", 0)
  if names.isEmpty then "" else text ++ "\n"

def writeEntries (o : Options) (entries : List Entry) : Work Unit := do
  let disk ← disk
  let kind := arrangement o
  let aligns := kind ≠ .commas
  let names := entries.map fun e => whole o disk entries e aligns
  let width := match o.value? "w" with
    | some text => text.toNat?.getD 80
    | none => 80
  let width := if width = 0 then 1000000 else width
  let tab := ((o.value? "T").bind String.toNat?).getD 8
  match kind with
  | .columns => putText (if names.isEmpty then "" else inColumns true width tab names)
  | .rows => putText (if names.isEmpty then "" else inColumns false width tab names)
  | .commas => putText (withCommas width names)
  | _ =>
    let end_ := if o.has "zero" then "\x00" else "\n"
    for name in names do putText (name ++ end_)

def isListed (o : Options) (name : String) : Bool :=
  let fits (pattern : String) : Bool :=
    (Pattern.ofText (Utf8.encodeString pattern)).accepts (Utf8.encodeString name)
  let isHidden := name.startsWith "."
  let showsAll := o.hasAny ["a", "A", "f"]
  (showsAll || !isHidden) && !(o.values "I").any fits &&
    (showsAll || !(o.values "hide").any fits) && !(o.has "B" && name.endsWith "~")

/-- What is at a place, with a link followed if that is asked for. -/
def followed (o : Options) (disk : Disk) (name : String) (place : List String) (node : DiskNode) :
    Option Entry :=
  match node with
  | .link _ =>
    if o.has "L" then
      match disk.resolve (pathOfPlace place) with
      | .ok target =>
        (disk.node? target.place).map fun found => Entry.ofPlace disk name target.place found
      | .error _ => none
    else some (Entry.ofPlace disk name place node)
  | _ => some (Entry.ofPlace disk name place node)

/-- Lists a directory, and those below it if that is asked for. -/
def directory (o : Options) : Nat → Bool → String → List String → Work Unit
  | 0, _, _, _ => pure ()
  | steps + 1, hasHeader, path, place => do
    let disk ← disk
    let own := if o.has "A" && !o.hasAny ["a", "f"] || !o.hasAny ["a", "f"] then []
      else [Entry.ofPlace disk "." place .directory,
        Entry.ofPlace disk ".." place.dropLast .directory]
    let below ← (disk.list place).filterMapM fun (name, node) => do
      if !isListed o name then return none
      match followed o disk name (place ++ [name]) node with
      | some e => return some e
      | none =>
        let whole := inDirectory path name
        complain s!"cannot access {Quoting.always whole}: No such file or directory"
        return some (Entry.ofPlace disk name (place ++ [name]) node)
    let entries := sorted o (own ++ below)
    if hasHeader then putLine s!"{shownName o path}:"
    if arrangement o = .long || o.has "s" then
      let total := entries.foldl (fun n e => n + e.blocks) 0
      let shown := if o.has "h" then scaled (total * 1024) else toString total
      putLine s!"total {shown}"
    writeEntries o entries
    if o.has "R" then
      for e in entries do
        if e.node == .directory && e.name ≠ "." && e.name ≠ ".." then
          putLine ""
          directory o steps true (inDirectory path e.name) e.place

end Listing

def ls : Program := fun args => do
  let o ← options Listing.table args 2
  for (option, what) in [("w", "line width"), ("T", "tab size")] do
    match o.value? option with
    | some text =>
      if text.toNat?.isNone then fail s!"invalid {what}: {Quoting.literal text}" 2
    | none => pure ()
  let disk ← disk
  let paths := if o.operands.isEmpty then ["."] else o.operands
  let isLong := Listing.arrangement o = .long
  let staysAtLinks := (o.hasAny ["d", "F"] || isLong) && !o.hasAny ["H", "L"]
  let found ← paths.filterMapM fun path => do
    let result ← lookUp? path (!staysAtLinks)
    let other ← lookUp? path false
    let isLeading := match result, other with
      | .ok (_, .directory), _ => true
      | _, _ => o.hasAny ["H", "L"]
    let chosen := match result, other with
      | .error _, .ok _ => if o.has "L" then result else other
      | _, _ => if isLeading then result else other
    match chosen with
    | .error error =>
      complain s!"cannot access {Quoting.always path}: {error.description}" 2
      return none
    | .ok (place, node) => return some (Entry.ofPlace disk path place node)
  let isInside (e : Entry) : Bool := e.node == .directory && !o.has "d"
  let files := Listing.sorted o (found.filter fun e => !isInside e)
  let directories := Listing.sorted o (found.filter isInside)
  Listing.writeEntries o files
  let hasHeaders := 1 < paths.length || o.has "R"
  for (e, i) in directories.zipIdx do
    if 0 < i || !files.isEmpty then putLine ""
    Listing.directory o (disk.nodes.length + 1) hasHeaders e.name e.place

end SlotServer.Shell.Utility
