import SlotServer.Shell.Permission
import SlotServer.Shell.Utility.Amount
import SlotServer.Shell.Utility.Calendar
import SlotServer.Shell.Utility.Paths

/-!
# Utilities that make files

Programs that make directories, files and links, and that change the size, the time and the
permissions of what is there.
-/

namespace SlotServer.Shell.Utility

open Work

/-! ## Directories -/

/-- Permissions that an argument says, by digits or by letters, for something that has these. -/
def modeOf (text : String) (mode : Nat) (isDirectory : Bool) : Work (Option Nat) := do
  let mask := (← get).mask
  match Permission.ofOctal? text with
  | some n =>
    let kept := if isDirectory && text.length < 5 then mode &&& 0o6000 else 0
    return if n ≤ Permission.allBits then some (n ||| kept) else none
  | none =>
    return Permission.changedStrictly? mask mode text

/-- The beginnings of a path, each with one part more. -/
def beginnings (path : String) : List String :=
  let names := Disk.namesOf path
  let root := if Disk.isAbsolute path then "/" else ""
  (List.range names.length).map fun i => root ++ "/".intercalate (names.take (i + 1))

def mkdir : Program := fun args => do
  let table : OptionTable :=
    { letters := "m:pvZ"
      names := [("mode=", "m"), ("parents", "p"), ("verbose", "v"), ("context=?", "Z")] }
  let o ← options table args
  if o.operands.isEmpty then misuse "missing operand"
  let usual := Permission.without 0o777 (← get).mask
  let mode ←
    match o.value? "m" with
    | none => pure usual
    | some text =>
      match ← modeOf text 0o777 false with
      | some mode => pure mode
      | none => fail s!"invalid mode {Quoting.literal text}"
  let make (path : String) (mode : Nat) (isSpared : Bool) : Work Bool := do
    let refuse (error : SystemError) : Work Bool := do
      complain s!"cannot create directory {Quoting.always path}: {error.description}"
      return false
    match ← place path with
    | .error error => refuse error
    | .ok (_, some .directory) => if isSpared then return true else refuse .entryExists
    | .ok (target, some _) =>
      if target.asDirectory then refuse .notADirectory else refuse .entryExists
    | .ok (target, none) =>
      setDisk ((← disk).makeDirectory target.place mode)
      if o.has "v" then putLine s!"{(← get).name}: created directory {Quoting.always path}"
      return true
  for path in o.operands do
    if o.has "p" && !(Disk.namesOf path).isEmpty then
      let all := beginnings path
      let mut goes := true
      for (part, i) in all.zipIdx do
        if goes then
          let isLast := i + 1 = all.length
          match ← lookUp? part with
          | .ok (_, .directory) => pure ()
          | .ok _ =>
            goes := false
            let reason := if isLast then SystemError.entryExists else .notADirectory
            complain s!"cannot create directory {Quoting.always part}: {reason.description}"
          | .error _ => goes ← make part (if isLast then mode else usual ||| 0o300) true
    else
      let _ ← make path mode false

/-! ## Files -/

/-- Makes empty files where there is nothing yet, and sets the times of those that are there. -/
def touch : Program := fun args => do
  let table : OptionTable :=
    { letters := "acd:fhmr:t:"
      names := [("time=", "time"), ("no-create", "c"), ("date=", "d"), ("reference=", "r"),
        ("no-dereference", "h")] }
  let o ← options table args
  let now := (← disk).time
  let time ←
    match o.last? ["d", "r", "t"] with
    | some "d" =>
      let text := (o.value? "d").getD ""
      match Calendar.ofText? now text with
      | some time => pure time
      | none => fail s!"invalid date format {Quoting.literal text}"
    | some "t" =>
      let text := (o.value? "t").getD ""
      match Calendar.ofStamp? now text with
      | some time => pure time
      | none => fail s!"invalid date format {Quoting.literal text}"
    | some _ =>
      let path := (o.value? "r").getD ""
      match ← lookUp? path with
      | .ok (_, .file number) => pure ((((← disk).file? number).map DiskFile.time).getD now)
      | .ok _ => pure now
      | .error error =>
        fail s!"failed to get attributes of {Quoting.always path}: {error.description}"
    | none => pure now
  if o.operands.isEmpty then misuse "missing file operand"
  for path in o.operands do
    if path ≠ "-" then
      let found ← lookUp? path
      let endsInSlash := path.endsWith "/"
      let setTime (number : Nat) : Work Unit := do setDisk ((← disk).setTime number time)
      match found with
      | .ok (_, .file number) => setTime number
      | .ok _ => pure ()
      | .error error =>
        if !o.has "c" then
          if endsInSlash then
            complain s!"setting times of {Quoting.always path}: {error.description}"
          else
            match ← create path false with
            | .ok (some number) => setTime number
            | .ok none => pure ()
            | .error error => complain s!"cannot touch {Quoting.always path}: {error.description}"

/-- The name of a temporary file, made from a template whose last letters are replaced. -/
def temporaryName (taken : Nat) (template ending : String) : String :=
  let body := template.toList.reverse.dropWhile (· = 'X')
  let count := template.length - body.length
  let letters := "ABCDEFGHIJKLMNOPQRSTUVWXYZabcdefghijklmnopqrstuvwxyz0123456789".toList
  let chosen := (List.range count).map fun i =>
    letters.getD ((7 * i + 13 * taken + 5) % letters.length) 'A'
  String.ofList (body.reverse ++ chosen) ++ ending

/-- Makes a temporary file or directory, and writes its path. -/
def mktemp : Program := fun args => do
  let table : OptionTable :=
    { letters := "dp::qtuV"
      names := [("directory", "d"), ("tmpdir=?", "p"), ("quiet", "q"), ("dry-run", "u"),
        ("suffix=", "suffix")] }
  let args := args.flatMap fun a =>
    match a.toList with
    | ['-', 'p'] => ["--tmpdir"]
    | _ => [a]
  let o ← options table args
  let (directory?, operands) : Option String × List String :=
    match o.value? "p", o.operands with
    | some "", first :: rest =>
      let isDirectory := args.contains "--tmpdir" && (rest.length = 1 || !first.endsWith "X")
      if isDirectory then (some first, rest)
      else (some "/tmp", o.operands)
    | some "", [] => (some "/tmp", [])
    | found, operands => (found, operands)
  match operands.drop 1 with
  | _ :: _ => misuse "too many templates"
  | [] => pure ()
  let template := operands.headD "tmp.XXXXXXXXXX"
  let ending := (o.value? "suffix").getD ""
  let count := (template.toList.reverse.takeWhile (· = 'X')).length
  if count < 3 then fail s!"too few X's in template {Quoting.literal template}"
  let isFree := operands.isEmpty || o.has "t"
  let front := match directory? with
    | some d => d ++ "/"
    | none => if isFree then "/tmp/" else ""
  let disk ← disk
  let name := front ++ temporaryName (disk.files.size + disk.nodes.length) template ending
  let kind := if o.has "d" then "directory" else "file"
  match ← place name with
  | .error error =>
    let shown := Quoting.literal (front ++ template ++ ending)
    if !o.has "q" then
      complain s!"failed to create {kind} via template {shown}: {error.description}"
    raise 1
  | .ok (target, _) =>
    if !o.has "u" then
      if o.has "d" then setDisk (disk.makeDirectory target.place 0o700)
      else setDisk (disk.putFile target.place [] 0o600)
    putLine name

def resized (sign : Option Char) (amount size : Nat) : Nat :=
  match sign with
  | some '+' => size + amount
  | some '-' => size - amount
  | some '<' => min size amount
  | some '>' => max size amount
  | some '/' => size - size % max amount 1
  | some '%' => (size + max amount 1 - 1) / max amount 1 * max amount 1
  | _ => amount

/-- Changes the sizes of files. -/
def truncate : Program := fun args => do
  let table : OptionTable :=
    { letters := "cor:s:"
      names := [("no-create", "c"), ("io-blocks", "o"), ("reference=", "r"), ("size=", "s")] }
  let o ← options table args
  if !o.hasAny ["s", "r"] then misuse "you must specify either '--size' or '--reference'"
  let text := ((o.value? "s").getD "").toList.dropWhile (· = ' ')
  let sign := (text.head?).filter fun c => "+-<>/%".toList.contains c
  let digits := String.ofList (if sign.isSome then text.drop 1 else text)
  let amount ←
    if !o.has "s" then pure 0
    else
      match Amount.ofText digits with
      | .ok n => pure n
      | .error _ => fail s!"Invalid number: {Quoting.literal (String.ofList text)}"
  let base ←
    match o.value? "r" with
    | none => pure none
    | some path =>
      match ← lookUp? path with
      | .ok (_, .file number) => pure (some ((← disk).fileContents number).length)
      | .ok _ => pure (some 0)
      | .error error => fail s!"cannot stat {Quoting.always path}: {error.description}"
  if o.operands.isEmpty then misuse "missing file operand"
  for path in o.operands do
    let isThere := (← lookUp? path).toOption.isSome
    if isThere || !o.has "c" then
      match ← create path false with
      | .ok (some number) =>
        setDisk ((← disk).writeFile number fun old =>
          let size := if o.has "s" then resized sign amount (base.getD old.length)
            else base.getD 0
          old.take size ++ List.replicate (size - old.length) 0)
      | .ok none => pure ()
      | .error error =>
        complain s!"cannot open {Quoting.always path} for writing: {error.description}"

/-! ## Permissions -/

/-- The places at and below a place. -/
def treeOf (disk : Disk) (root : List String) : List (List String × DiskNode) :=
  disk.nodes.filter fun (p, _) => root.isPrefixOf p

def chmod : Program := fun args => do
  let table : OptionTable :=
    { letters := "Rcfvr::w::x::X::s::t::u::g::o::a::"
      names := [("changes", "c"), ("recursive", "R"), ("no-preserve-root", "npr"),
        ("preserve-root", "pr"), ("quiet", "f"), ("silent", "f"), ("verbose", "v"),
        ("reference=", "reference")] }
  let isMode (a : String) : Bool :=
    match a.toList with
    | '-' :: c :: _ => "rwxXstugoa".toList.contains c
    | _ => false
  let o ← options table (args.filter fun a => !isMode a)
  let (text, files) : String × List String :=
    match args.find? isMode with
    | some mode => (mode, o.operands)
    | none => (o.operands.headD "", o.operands.drop 1)
  let (text, files) :=
    if o.has "reference" then ("", o.operands) else (text, files)
  if text.isEmpty && !o.has "reference" then misuse "missing operand"
  if files.isEmpty then
    if o.has "reference" then misuse "missing operand"
    misuse s!"missing operand after {Quoting.literal text}"
  let given ←
    match o.value? "reference" with
    | none => do
      match ← modeOf text 0 false with
      | some _ => pure none
      | none => misuse s!"invalid mode: {Quoting.literal text}"
    | some path =>
      match ← lookUp? path with
      | .ok (place, _) => pure (some ((← disk).modeAt place))
      | .error error =>
        fail s!"failed to get attributes of {Quoting.always path}: {error.description}"
  for path in files do
    match ← lookUp? path with
    | .error error =>
      if o.has "f" then raise 1
      else complain s!"cannot access {Quoting.always path}: {error.description}"
    | .ok (root, _) =>
      let all := treeOf (← disk) root
      let places := if o.has "R" then all else all.filter fun (p, _) => p = root
      for (place, node) in places do
        let isLink := node matches .link _
        if !isLink then
          let old := (← disk).modeAt place
          let mode ←
            match given with
            | some mode => pure mode
            | none => pure ((← modeOf text old (node == .directory)).getD old)
          setDisk ((← disk).setModeAt place mode)
          let shown := Quoting.always
            (if place = root then path
              else inDirectory path ("/".intercalate (place.drop root.length)))
          let described (mode : Nat) : String :=
            s!"{Permission.octal 4 mode} ({Permission.listed mode})"
          if old ≠ mode && o.hasAny ["c", "v"] then
            putLine s!"mode of {shown} changed from {described old} to {described mode}"
          else if old = mode && o.has "v" then
            putLine s!"mode of {shown} retained as {described mode}"

/-- The users and groups of the machine. -/
def accounts : List String :=
  ["root", "daemon", "bin", "sys", "sync", "games", "man", "lp", "mail", "news", "uucp", "proxy",
    "www-data", "backup", "list", "irc", "nobody", "nogroup", "users", "staff", "adm", "tty",
    "disk"]

/-- Changes the owners of files; everything belongs to one user here. -/
def changeOwner (ofGroup : Bool) : Program := fun args => do
  let table : OptionTable :=
    { letters := "HLPRcfhv"
      names := [("recursive", "R"), ("changes", "c"), ("no-dereference", "h"), ("silent", "f"),
        ("quiet", "f"), ("verbose", "v"), ("reference=", "reference"), ("from=", "from")] }
  let o ← options table args
  match o.operands with
  | [] => misuse "missing operand"
  | [one] => misuse s!"missing operand after {Quoting.literal one}"
  | owner :: files =>
    let parts := (Text.splitAt ':' owner.toList).map String.ofList
    let isKnown (name : String) : Bool :=
      name.isEmpty || accounts.contains name || name.all Char.isDigit
    if ofGroup then
      if !isKnown owner then fail s!"invalid group: {Quoting.always owner}"
    else
      if !isKnown (parts.headD "") then fail s!"invalid user: {Quoting.always owner}"
      if !isKnown (parts.getD 1 "") then fail s!"invalid group: {Quoting.always owner}"
    for path in files do
      match ← lookUp? path with
      | .ok _ => pure ()
      | .error error =>
        if o.has "f" then raise 1
        else complain s!"cannot access {Quoting.always path}: {error.description}"

/-! ## Links -/

def relativePath (directory target : List String) : String :=
  let common := ((directory.zip target).takeWhile fun (a, b) => a = b).length
  let up := List.replicate (directory.length - common) ".."
  let names := up ++ target.drop common
  if names.isEmpty then "." else "/".intercalate names

def ln : Program := fun args => do
  let table : OptionTable :=
    { letters := "bdfFinrst:vLPS:T"
      names := [("backup=?", "b"), ("directory", "d"), ("no-dereference", "n"),
        ("no-target-directory", "T"), ("force", "f"), ("interactive", "i"), ("suffix=", "S"),
        ("target-directory=", "t"), ("logical", "L"), ("physical", "P"), ("relative", "r"),
        ("symbolic", "s"), ("verbose", "v")] }
  let o ← options table args
  let isSymbolic := o.has "s"
  let d ←
    match o.operands with
    | [one] =>
      if o.has "t" || o.has "T" then destination o "missing file operand"
      else pure (⟨[one], ".", true⟩ : Destination)
    | [] => misuse "missing file operand"
    | _ =>
      let d ← destination o "missing file operand"
      let isLink := (← lookUp? d.target false).toOption.any fun (_, n) => n matches .link _
      if o.has "n" && d.sources.length = 1 && isLink then pure { d with isDirectory := false }
      else pure d
  for source in d.sources do
    let path := if d.isDirectory then inDirectory d.target (lastPart source) else d.target
    let shown := Quoting.always path
    let kind := if isSymbolic then "symbolic link" else "hard link"
    let found ← if isSymbolic then pure (.ok ([], .link source))
      else lookUp? source (o.has "L")
    match found with
    | .error error => complain s!"failed to access {Quoting.always source}: {error.description}"
    | .ok (_, .directory) =>
      complain s!"{Quoting.ifNeeded source}: hard link not allowed for directory"
    | .ok (sourcePlace, node) =>
      match ← place path false with
      | .error error =>
        let arrow := if isSymbolic then s!" -> {Quoting.always source}"
          else s!" => {Quoting.always source}"
        complain s!"failed to create {kind} {shown}{arrow}: {error.description}"
      | .ok (target, old) =>
        let led := (← disk).resolve source
        let node := match led with
          | .ok t =>
            if isSymbolic && o.has "r" then .link (relativePath target.place.dropLast t.place)
            else node
          | .error _ => node
        let replace : Work Unit := do
          setDisk ((← disk).put target.place node)
          if o.has "v" then
            let arrow := if isSymbolic then "->" else "=>"
            putLine s!"{shown} {arrow} {Quoting.always source}"
        match old with
        | none =>
          if source.isEmpty then
            complain s!"failed to create {kind} {shown} -> '': No such file or directory"
          else replace
        | some .directory =>
          if o.has "f" then complain s!"{Quoting.ifNeeded path}: cannot overwrite directory"
          else complain s!"failed to create {kind} {shown}: File exists"
        | some _ =>
          if !isSymbolic && target.place = sourcePlace && o.hasAny ["f", "b"] then
            complain s!"{Quoting.always source} and {shown} are the same file"
          else if o.has "b" then
            let disk ← disk
            let kept := target.place.dropLast ++ [(target.place.getLast?.getD "") ++ "~"]
            setDisk ((disk.put kept (old.getD .directory)).remove target.place)
            replace
          else if o.has "i" then
            ask s!"replace {shown}"
            raise 1
          else if o.has "f" then
            setDisk ((← disk).remove target.place)
            replace
          else complain s!"failed to create {kind} {shown}: File exists"

def link : Program := fun args => do
  let o ← options { letters := "" } args
  match o.operands with
  | [] => misuse "missing operand"
  | [one] => misuse s!"missing operand after {Quoting.literal one}"
  | [source, path] =>
    let refuse (error : SystemError) : Work Unit :=
      let shown := s!"{Quoting.always path} to {Quoting.always source}"
      complain s!"cannot create link {shown}: {error.description}"
    match ← lookUp? source false with
    | .error error => refuse error
    | .ok (_, .directory) => refuse .permissionDenied
    | .ok (_, node) =>
      match ← place path false with
      | .error error => refuse error
      | .ok (_, some _) => refuse .entryExists
      | .ok (target, none) => setDisk ((← disk).put target.place node)
  | _ :: _ :: extra :: _ => misuse s!"extra operand {Quoting.literal extra}"

end SlotServer.Shell.Utility
