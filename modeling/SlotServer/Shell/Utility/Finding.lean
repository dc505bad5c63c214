import SlotServer.Shell.Regular.Search
import SlotServer.Shell.Utility.Inspecting
import SlotServer.Shell.Utility.Running
import SlotServer.Shell.Utility.Copying

/-!
# Finding files

The program that walks through directories and does something with the files that fit an expression.
What it does can change what it finds later, and running a program on a file is a test of the file;
so the work is put together from what happens on one file and all that comes after. -/

namespace SlotServer.Shell.Utility

open Work

namespace Finding

/-- A file that was come upon. -/
structure Sight where
  path : String
  place : List String
  node : DiskNode
  depth : Nat
  /-- The path that the walk began with. -/
  start : String

/-- What changes on the walk. -/
structure Walk where
  disk : Disk
  /-- Whether what is below the file is left out. -/
  isPruned : Bool
  /-- Whether the walk is at its end. -/
  isOver : Bool
  /-- The files that programs are still to be run on, by the number of the program, the last file
  first. -/
  gathered : List (Nat × String)

/-- What is done with a file, or asked about it. -/
inductive Action where
  | test (holds : Disk → Sight → Bool)
  | write (text : Disk → Sight → String)
  | writeTo (path : String) (text : Disk → Sight → String)
  | remove
  | prune
  | quit
  | run (arguments : List String) (inPlace : Bool)
  /-- Asks before a program is run, which nobody then allows. -/
  | ask (arguments : List String)
  | gather (number : Nat)

inductive Expression where
  | act (action : Action)
  | not (e : Expression)
  | both (first second : Expression)
  | either (first second : Expression)
  | inTurn (first second : Expression)

/-- How the walk is done. -/
structure Manner where
  follows : Bool := false
  followsStart : Bool := false
  least : Nat := 0
  most : Option Nat := none
  isFromBelow : Bool := false

/-- The name of a file that was come upon. -/
def Sight.name (s : Sight) : String :=
  if s.depth = 0 then lastPart s.path else s.place.getLast?.getD "/"

def said (message : String) : List Output :=
  [.error (Utf8.encodeString s!"find: {message}\n"), .raise 1]

/-- What is said of a program that cannot be run. -/
def complaint (name : String) : String := s!"find: {Quoting.always name}"

/-- What follows from an action on a file, given what follows from its success. -/
def Action.outputs (environment : List (String × String)) (s : Sight) (w : Walk)
    (next : Bool → Walk → List Output) : Action → List Output
  | test holds => next (holds w.disk s) w
  | write text => .standard (Utf8.encodeString (text w.disk s)) :: next true w
  | writeTo path text =>
    let bytes := Utf8.encodeString (text w.disk s)
    let act (disk : Disk) : Disk := disk.append path bytes
    .change act :: next true { w with disk := act w.disk }
  | remove =>
    if s.name = "." && s.depth = 0 then next true w
    else
      match s.node with
      | .directory =>
        if (w.disk.list s.place).isEmpty then
          .change (·.remove s.place) :: next true { w with disk := w.disk.remove s.place }
        else said s!"cannot delete {Quoting.always s.path}: Directory not empty" ++ next false w
      | _ => .change (·.remove s.place) :: next true { w with disk := w.disk.remove s.place }
  | prune => next true { w with isPruned := true }
  | quit => next true { w with isOver := true }
  | run arguments inPlace =>
    let path := if inPlace then "./" ++ s.name else s.path
    let put (a : String) : String :=
      String.ofList (replaced ['\x7b', '\x7d'] path.toList (a.length + 1) a.toList)
    let directory := if inPlace then
        some (if s.depth = 0 && s.name = "." then s.place else s.place.dropLast) else none
    let errand : Errand :=
      { arguments := arguments.map put, environment, directory, complaint }
    [.errand errand fun status disk => next (status = 0) { w with disk }]
  | ask arguments =>
    let command := arguments.headD ""
    .error (Utf8.encodeString s!"< {command} ... {s.path} > ? ") :: next false w
  | gather number => next true { w with gathered := (number, s.path) :: w.gathered }

def Expression.outputs (environment : List (String × String)) (s : Sight) :
    Expression → Walk → (Bool → Walk → List Output) → List Output
  | act action, w, next => action.outputs environment s w next
  | not e, w, next => e.outputs environment s w fun holds w => next (!holds) w
  | both first second, w, next =>
    first.outputs environment s w fun holds w =>
      if holds && !w.isOver then second.outputs environment s w next else next holds w
  | either first second, w, next =>
    first.outputs environment s w fun holds w =>
      if holds || w.isOver then next holds w else second.outputs environment s w next
  | inTurn first second, w, next =>
    first.outputs environment s w fun holds w =>
      if w.isOver then next holds w else second.outputs environment s w next

/-- What is at a path, with a link followed if that is asked for. -/
def seen (disk : Disk) (path : String) (follows : Bool) :
    Except SystemError (List String × DiskNode) :=
  let look (throughLast : Bool) : Except SystemError (List String × DiskNode) :=
    match disk.resolve path throughLast with
    | .error fault => .error fault.systemError
    | .ok target =>
      match disk.node? target.place with
      | none => .error .noSuchEntry
      | some node =>
        if target.asDirectory && node != .directory then .error .notADirectory
        else .ok (target.place, node)
  match look follows with
  | .ok found => .ok found
  | .error _ => look false

/-- What follows from a walk through what is at a path and below it. -/
def walk (environment : List (String × String)) (manner : Manner) (e : Expression)
    (start : String) : Nat → Nat → String → Walk → (Walk → List Output) → List Output
  | 0, _, _, w, next => next w
  | steps + 1, depth, path, w, next =>
    if w.isOver then next w
    else
      let follows := manner.follows || depth = 0 && manner.followsStart
      match seen w.disk path follows with
      | .error error => said s!"{Quoting.always path}: {error.description}" ++ next w
      | .ok (place, node) =>
        let s : Sight := ⟨path, place, node, depth, start⟩
        let here (w : Walk) (next : Walk → List Output) : List Output :=
          if depth < manner.least || w.isOver then next w
          else e.outputs environment s { w with isPruned := false } fun _ w => next w
        let below (w : Walk) (next : Walk → List Output) : List Output :=
          let isDeep := manner.most.any fun most => most ≤ depth
          if node != .directory || isDeep || w.isOver || (w.isPruned && !manner.isFromBelow) then
            next w
          else
            match w.disk.node? place with
            | none => said s!"{Quoting.always path}: No such file or directory" ++ next w
            | some _ =>
              let paths := (w.disk.list place).map fun (name, _) => inDirectory path name
              paths.foldr (fun path next w =>
                walk environment manner e start steps (depth + 1) path w next) next w
        if manner.isFromBelow then below { w with isPruned := false } fun w => here w next
        else here { w with isPruned := false } fun w => below w next

/-! ## Reading expressions -/

/-- What reading an expression finds out besides the expression itself. -/
structure Reading where
  manner : Manner
  /-- Whether something is done besides asking. -/
  acts : Bool
  /-- The programs that are run on many files at once. -/
  gathering : List (List String)
  written : List String
  regularKind : String

abbrev Reader := StateT Reading (Except String)

/-- A number that may have a sign, with what the sign means. -/
def compared? (text : String) : Option (Nat → Bool) :=
  match text.toList with
  | '+' :: digits =>
    match Text.digits 10 digits with
    | (d :: ds, []) => some fun n => Text.ofDigits 10 (d :: ds) < n
    | _ => none
  | '-' :: digits =>
    match Text.digits 10 digits with
    | (d :: ds, []) => some fun n => n < Text.ofDigits 10 (d :: ds)
    | _ => none
  | digits =>
    match Text.digits 10 digits with
    | (d :: ds, []) => some fun n => n = Text.ofDigits 10 (d :: ds)
    | _ => none

def kindLetters : List Char := "fdlcbps".toList

def isKind (letter : Char) : DiskNode → Bool
  | .directory => letter = 'd'
  | .file _ => letter = 'f'
  | .link _ => letter = 'l'
  | _ => letter = 'c'

/-- The kinds of a text, with commas between them. -/
def kinds (option text : String) : Except String (List Char) :=
  match text.toList with
  | [] => .error s!"Arguments to {option} should contain at least one letter"
  | chars =>
    (Text.splitAt ',' chars).mapM fun part =>
      match part with
      | [c] => if kindLetters.contains c then .ok c
        else .error s!"Unknown argument to {option}: {c}"
      | [] => .error (s!"Last file type in list argument to {option} is missing, " ++
          "i.e., list is ending on: ','")
      | c :: _ => if kindLetters.contains c then
          .error s!"Must separate multiple arguments to {option} using: ','"
        else .error s!"Unknown argument to {option}: {c}"

/-- Whether a pattern stands for a text; a point at the beginning is like other characters. -/
def matchesPattern (pattern text : String) (foldsCase : Bool) : Bool :=
  let folded (t : String) : Bytes :=
    Utf8.encodeString (if foldsCase then t.map Char.toLower else t)
  let negations := replaced ['[', '^'] ['[', '!'] (pattern.length + 1) pattern.toList
  (Pattern.ofText (folded (String.ofList negations))).accepts (folded text)

def entryOf (disk : Disk) (s : Sight) : Entry := Entry.ofPlace disk s.path s.place s.node

def lookUp? (disk : Disk) (path : String) : Option Entry :=
  match seen disk path true with
  | .ok (place, node) => some (Entry.ofPlace disk path place node)
  | .error _ => none

def sizeUnits : List (Char × Nat) :=
  [('b', 512), ('c', 1), ('w', 2), ('k', 1024), ('M', 1048576), ('G', 1073741824)]

def field (disk : Disk) (s : Sight) (letter : Char) : Option String :=
  let e := entryOf disk s
  let above : String :=
    let part := directoryPart s.path
    if s.depth = 0 && !(s.path.toList.contains '/') then "." else
      if s.path = "/" then "" else part
  match letter with
  | 'p' => some s.path
  | 'f' => some (if s.path.endsWith "/" && s.path ≠ "/" then lastPart s.path else s.name)
  | 'h' => some above
  | 'P' =>
    let rest := s.path.toList.drop s.start.length
    some (String.ofList (if rest.head? = some '/' then rest.drop 1 else rest))
  | 'H' => some s.start
  | 's' => some (toString e.size)
  | 'd' => some (toString s.depth)
  | 'y' => some (String.singleton (if e.node matches .file _ then 'f'
      else Entry.kindLetter e.node))
  | 'Y' =>
    some (match lookUp? disk s.path with
      | some found => String.singleton (if found.node matches .file _ then 'f'
          else if found.node matches .link _ then 'N' else Entry.kindLetter found.node)
      | none => "N")
  | 'm' => some (Permission.octal 1 e.mode)
  | 'M' => some e.permissions
  | 'u' => some "root"
  | 'U' => some "0"
  | 'g' => some "root"
  | 'G' => some "0"
  | 'n' => some (toString e.links)
  | 'k' => some (toString e.blocks)
  | 'b' => some (toString (e.blocks * 2))
  | 'l' => some (e.target.getD "")
  | 'i' => some (toString (Listing.number disk e))
  | 't' => some (fullTime e.time)
  | _ => none

def formatted (format : String) (disk : Disk) (s : Sight) : String :=
  let shown (letter : Char) : Option String :=
    match field disk s letter with
    | some text => some text
    | none => some s!"%{letter}"
  let format := replaced ['%', '#', 'm'] ['0', '%', 'm'] (format.length + 1) format.toList
  String.ofList (filledIn shown true (format.length + 1) format)

/-- A file as it is listed with all that is known about it. -/
def listing (disk : Disk) (s : Sight) : String :=
  let e := entryOf disk s
  let arrow := match e.target with
    | some target => s!" -> {target}"
    | none => ""
  s!"{padLeft 9 (toString (Listing.number disk e))} {padLeft 6 (toString e.blocks)} " ++
    s!"{e.permissions} {padLeft 3 (toString e.links)} root     root     " ++
    s!"{padLeft 8 (toString e.size)} {Listing.shownTime ⟨[], []⟩ disk.time e.time} " ++
    s!"{s.path}{arrow}\n"

def acting (action : Action) : Reader Expression := do
  modify fun r => { r with acts := true }
  return .act action

def testing (holds : Disk → Sight → Bool) : Reader Expression := return .act (.test holds)

/-- The arguments of a program up to the one that ends them, and those after it. -/
def commandOf (name : String) (args : List String) :
    Except String (List String × Bool × List String) :=
  let rec go : List String → List String → Except String (List String × Bool × List String)
    | _, [] => .error s!"missing argument to `{name}'"
    | before, a :: rest =>
      if a = ";" then .ok (before.reverse, false, rest)
      else if a = "+" && before.head? = some "\x7b\x7d" then .ok (before.reverse, true, rest)
      else go (a :: before) rest
  match go [] args with
  | .error message => .error message
  | .ok ([], _, _) => .error s!"invalid argument `;' to `{name}'"
  | .ok found => .ok found

/-- A test of a number about a file. -/
def numbered (name text : String) (value : Disk → Sight → Nat) : Reader Expression := do
  match compared? text with
  | some holds => testing fun disk s => holds (value disk s)
  | none => throw s!"invalid argument `{text}' to `{name}'"

def permissionTest (text : String) : Reader Expression := do
  let (kind, shown) : Char × String :=
    match text.toList with
    | '-' :: rest => ('-', String.ofList rest)
    | '/' :: rest => ('/', String.ofList rest)
    | _ => ('=', text)
  let bits? := match Permission.ofOctal? shown with
    | some bits => if bits ≤ Permission.allBits then some bits else none
    | none => if shown.isEmpty then none else Permission.changedStrictly? 0 0 shown
  match bits? with
  | none => throw s!"invalid mode {Quoting.always text}"
  | some bits =>
    testing fun disk s =>
      let mode := disk.modeAt s.place
      match kind with
      | '-' => mode &&& bits = bits
      | '/' => bits = 0 || mode &&& bits ≠ 0
      | _ => mode = bits

/-- A test of the time that has passed since a file was last written, in units. -/
def ageTest (name text : String) (unit : Nat) : Reader Expression :=
  numbered name text fun disk s => (disk.time - (entryOf disk s).time) / unit

def regularKinds : List String :=
  ["findutils-default", "ed", "emacs", "gnu-awk", "grep", "posix-awk", "awk", "posix-basic",
    "posix-egrep", "egrep", "posix-extended", "posix-minimal-basic", "sed"]

def regularTest (text : String) (foldsCase : Bool) : Reader Expression := do
  let kind := (← get).regularKind
  let extended := ["gnu-awk", "posix-awk", "awk", "posix-egrep", "egrep", "posix-extended"]
  let dialect : Regular.Dialect :=
    { extended := extended.contains kind, sparesClosing := true, sparesOperators := true
      sparesBraces := true, hasEscapes := false }
  match Regular.read dialect (Utf8.encodeString text) with
  | .error problem =>
    throw s!"failed to compile regular expression '{text}': {problem.message}"
  | .ok (regular, _, _) =>
    let whole := Regular.sequence regular (.anchor .textEnd)
    testing fun _ s =>
      let subject := Regular.subject whole foldsCase false (Utf8.encodeString s.path)
      match subject.find? whole 0 with
      | some found => found.first = 0
      | none => false

def depth (name text : String) : Reader Nat := do
  match Text.digits 10 text.toList with
  | (d :: ds, []) => return Text.ofDigits 10 (d :: ds)
  | _ =>
    throw (s!"Expected a positive decimal integer argument to {name}, but got " ++
      Quoting.always text)

/-- A file that others are compared with. -/
def reference (disk : Disk) (path : String) : Reader Entry := do
  match seen disk path true with
  | .ok (place, node) => return Entry.ofPlace disk path place node
  | .error error => throw s!"{Quoting.always path}: {error.description}"

def always : Reader Expression := testing fun _ _ => true

def manner (change : Manner → Manner) : Reader Expression := do
  modify fun r => { r with manner := change r.manner }
  always

def bareWord? (word : String) : Option (Reader Expression) :=
  match word with
  | "-print" => some (acting (.write fun _ s => s.path ++ "\n"))
  | "-print0" => some (acting (.write fun _ s => s.path ++ "\x00"))
  | "-ls" => some (acting (.write listing))
  | "-delete" => some do
    modify fun r => { r with manner := { r.manner with isFromBelow := true } }
    acting .remove
  | "-quit" => some (acting .quit)
  | "-prune" => some (return .act .prune)
  | "-true" => some always
  | "-false" => some (testing fun _ _ => false)
  | "-depth" => some (manner fun m => { m with isFromBelow := true })
  | "-d" => some (manner fun m => { m with isFromBelow := true })
  | "-follow" => some (manner fun m => { m with follows := true })
  | "-empty" => some (testing fun disk s =>
      match s.node with
      | .directory => (disk.list s.place).isEmpty
      | .file number => (disk.fileContents number).isEmpty
      | _ => false)
  | "-readable" => some always
  | "-writable" => some always
  | "-executable" => some (testing fun disk s =>
      s.node == .directory || disk.modeAt s.place &&& 0o111 ≠ 0)
  | "-nouser" => some (testing fun _ _ => false)
  | "-nogroup" => some (testing fun _ _ => false)
  | _ =>
    if ["-xdev", "-mount", "-daystart", "-noleaf", "-warn", "-nowarn", "-ignore_readdir_race",
        "-noignore_readdir_race"].contains word then some always
    else none

def wordWith? (disk : Disk) (word arg : String) : Option (Reader Expression) :=
  match word with
  | "-name" => some (testing fun _ s => matchesPattern arg s.name false)
  | "-iname" => some (testing fun _ s => matchesPattern arg s.name true)
  | "-path" => some (testing fun _ s => matchesPattern arg s.path false)
  | "-wholename" => some (testing fun _ s => matchesPattern arg s.path false)
  | "-ipath" => some (testing fun _ s => matchesPattern arg s.path true)
  | "-iwholename" => some (testing fun _ s => matchesPattern arg s.path true)
  | "-lname" => some (testing fun disk s =>
      ((entryOf disk s).target).any fun target => matchesPattern arg target false)
  | "-regex" => some (regularTest arg false)
  | "-iregex" => some (regularTest arg true)
  | "-regextype" => some do
    if !regularKinds.contains arg then
      let list := ", ".intercalate (regularKinds.map fun k => s!"'{k}'")
      throw s!"Unknown regular expression type '{arg}'; valid types are {list}."
    modify fun r => { r with regularKind := arg }
    always
  | "-type" => some do
    let letters ← kinds word arg
    testing fun _ s => letters.any fun c => isKind c s.node
  | "-xtype" => some do
    let letters ← kinds word arg
    testing fun disk s =>
      let node := ((lookUp? disk s.path).map Entry.node).getD s.node
      letters.any fun c => isKind c node
  | "-size" => some do
    let unit? := arg.toList.getLast?.bind fun c => sizeUnits.lookup c
    let text := if unit?.isSome then String.ofList arg.toList.dropLast else arg
    let unit := unit?.getD 512
    match compared? text with
    | some holds => testing fun disk s => holds (((entryOf disk s).size + unit - 1) / unit)
    | none =>
      let last := String.ofList (arg.toList.drop (arg.length - 1))
      if last.all Char.isDigit then throw s!"Invalid argument `{arg}' to {word}"
      else throw s!"invalid {word} type `{last}'"
  | "-perm" => some (permissionTest arg)
  | "-links" => some (numbered word arg fun disk s => (entryOf disk s).links)
  | "-inum" => some (numbered word arg fun disk s => Listing.number disk (entryOf disk s))
  | "-uid" => some (numbered word arg fun _ _ => 0)
  | "-gid" => some (numbered word arg fun _ _ => 0)
  | "-mtime" => some (ageTest word arg 86400)
  | "-atime" => some (ageTest word arg 86400)
  | "-ctime" => some (ageTest word arg 86400)
  | "-mmin" => some (ageTest word arg 60)
  | "-amin" => some (ageTest word arg 60)
  | "-cmin" => some (ageTest word arg 60)
  | "-user" => some do
    if arg = "root" || arg = "0" then always
    else if accounts.contains arg || arg.all Char.isDigit then testing fun _ _ => false
    else throw s!"{Quoting.always arg} is not the name of a known user"
  | "-group" => some do
    if arg = "root" || arg = "0" then always
    else if accounts.contains arg || arg.all Char.isDigit then testing fun _ _ => false
    else throw s!"{Quoting.always arg} is not the name of an existing group"
  | "-samefile" => some do
    let other ← reference disk arg
    testing fun _ s => isSame s.place other.place s.node other.node
  | "-maxdepth" => some do
    let n ← depth word arg
    manner fun m => { m with most := some n }
  | "-mindepth" => some do
    let n ← depth word arg
    manner fun m => { m with least := n }
  | "-printf" => some do
    if arg.endsWith "%" && !arg.endsWith "%%" then
      throw "error: % at end of format string"
    acting (.write (formatted arg))
  | "-fprint" => some do
    modify fun r => { r with written := r.written ++ [arg] }
    acting (.writeTo arg fun _ s => s.path ++ "\n")
  | "-fprint0" => some do
    modify fun r => { r with written := r.written ++ [arg] }
    acting (.writeTo arg fun _ s => s.path ++ "\x00")
  | "-fls" => some do
    modify fun r => { r with written := r.written ++ [arg] }
    acting (.writeTo arg listing)
  | _ =>
    if ["-newer", "-anewer", "-cnewer", "-newermm"].contains word then some do
      let other ← reference disk arg
      testing fun disk s => other.time < (entryOf disk s).time
    else if word = "-newermt" then some do
      match Calendar.ofText? disk.time arg with
      | some time => testing fun disk s => time < (entryOf disk s).time
      | none =>
        throw s!"I cannot figure out how to interpret {Quoting.always arg} as a date or time"
    else none

def program (word : String) (rest : List String) : Reader (Expression × List String) := do
  let (arguments, isMany, rest) ← commandOf word rest
  let asks := word = "-ok" || word = "-okdir"
  if isMany then
    let number := (← get).gathering.length
    modify fun r => { r with gathering := r.gathering ++ [arguments.dropLast] }
    return (← acting (.gather number), rest)
  else if asks then return (← acting (.ask arguments), rest)
  else return (← acting (.run arguments (word = "-execdir")), rest)

def primary (disk : Disk) (word : String) (rest : List String) (before : Option String) :
    Reader (Expression × List String) := do
  match bareWord? word with
  | some e => return (← e, rest)
  | none =>
    if ["-exec", "-execdir", "-ok", "-okdir"].contains word then program word rest
    else if word = "-fprintf" then
      match rest with
      | path :: format :: rest =>
        modify fun r => { r with written := r.written ++ [path] }
        return (← acting (.writeTo path (formatted format)), rest)
      | _ => throw s!"missing argument to `{word}'"
    else if (wordWith? disk word "").isSome then
      match rest with
      | [] => throw s!"missing argument to `{word}'"
      | arg :: rest =>
        match wordWith? disk word arg with
        | some e => return (← e, rest)
        | none => throw s!"unknown predicate `{word}'"
    else if word.startsWith "-" && word.length > 1 then throw s!"unknown predicate `{word}'"
    else
      let message := s!"paths must precede expression: `{word}'"
      match before with
      | some earlier =>
        if ["-name", "-iname", "-path", "-ipath", "-wholename", "-lname"].contains earlier then
          throw (message ++ s!"\nfind: possible unquoted pattern after predicate `{earlier}'?")
        else throw message
      | none => throw message

def joints : List String := ["-o", "-or", ",", "-a", "-and"]

mutual

/-- Reads expressions one after another, with commas between them. -/
def lists (disk : Disk) : Nat → List String → Reader (Expression × List String)
  | 0, _ => throw "expression too complicated"
  | steps + 1, words => do
    let (first, rest) ← choices disk steps words
    match rest with
    | "," :: rest =>
      if rest.isEmpty then throw "expected an expression after ','"
      let (second, rest) ← lists disk steps rest
      return (.inTurn first second, rest)
    | _ => return (first, rest)

def choices (disk : Disk) : Nat → List String → Reader (Expression × List String)
  | 0, _ => throw "expression too complicated"
  | steps + 1, words => do
    let (first, rest) ← conjunctions disk steps words
    match rest with
    | word :: rest =>
      if word = "-o" || word = "-or" then
        if rest.isEmpty then throw s!"expected an expression after '{word}'"
        let (second, rest) ← choices disk steps rest
        return (.either first second, rest)
      else return (first, word :: rest)
    | [] => return (first, [])

def conjunctions (disk : Disk) : Nat → List String → Reader (Expression × List String)
  | 0, _ => throw "expression too complicated"
  | steps + 1, words => do
    let (first, rest) ← factor disk steps words
    match rest with
    | [] => return (first, [])
    | word :: more =>
      if word = "-a" || word = "-and" then
        if more.isEmpty then throw s!"expected an expression after '{word}'"
        let (second, rest) ← conjunctions disk steps more
        return (.both first second, rest)
      else if word = ")" || joints.contains word then return (first, rest)
      else
        let before := if 2 ≤ words.length then words[0]? else none
        let isLoose := !(word.startsWith "-" && 1 < word.length) && word ≠ "(" && word ≠ "!"
        if isLoose then
          let _ ← primary disk word more before
          return (first, rest)
        else
          let (second, rest) ← conjunctions disk steps rest
          return (.both first second, rest)

def factor (disk : Disk) : Nat → List String → Reader (Expression × List String)
  | 0, _ => throw "expression too complicated"
  | _ + 1, [] => throw "invalid expression"
  | steps + 1, word :: rest => do
    if word = "!" || word = "-not" then
      if rest.isEmpty then throw s!"expected an expression after '{word}'"
      let (e, rest) ← factor disk steps rest
      return (.not e, rest)
    else if word = "(" then
      if rest.head? = some ")" then
        throw "invalid expression; empty parentheses are not allowed."
      if rest.isEmpty then
        throw "invalid expression; expected to find a ')' but didn't see one."
      let (e, rest) ← lists disk steps rest
      match rest with
      | ")" :: rest => return (e, rest)
      | _ =>
        throw ("invalid expression; I was expecting to find a ')' somewhere but did not see " ++
          "one.")
    else if joints.contains word then
      throw s!"invalid expression; you have used a binary operator '{word}' with nothing before it."
    else if word = ")" then throw "invalid expression; you have too many ')'"
    else primary disk word rest none

end

def expression (disk : Disk) (manner : Manner) (words : List String) :
    Except String (Expression × Reading) := do
  let start : Reading := ⟨manner, false, [], [], "emacs"⟩
  if words.isEmpty then return (.act (.test fun _ _ => true), start)
  let ((e, rest), reading) ← (lists disk (4 * words.length + 4) words).run start
  match rest with
  | [] => return (e, reading)
  | ")" :: _ => throw "you have too many ')'"
  | word :: _ => throw s!"paths must precede expression: `{word}'"

end Finding

/-- Walks through directories, and does something with the files that fit an expression. -/
def find : Program := fun args => do
  let flags := args.takeWhile fun a =>
    ["-H", "-L", "-P"].contains a || a.startsWith "-O" && a.length ≤ 3
  let manner : Finding.Manner :=
    match (flags.filter fun a => !a.startsWith "-O").getLast? with
    | some "-L" => { follows := true, followsStart := true }
    | some "-H" => { followsStart := true }
    | _ => {}
  let args := args.drop flags.length
  let args := if args.head? = some "--" then args.drop 1 else args
  let paths := args.takeWhile fun a =>
    !(a.startsWith "-" && 1 < a.length) && a ≠ "(" && a ≠ "!"
  let p ← get
  match Finding.expression p.disk manner (args.drop paths.length) with
  | .error message =>
    warn s!"{p.name}: {message}"
    raise 1
  | .ok (e, reading) =>
    for path in reading.written do
      match ← create path with
      | .ok _ => pure ()
      | .error error => fail s!"{Quoting.always path}: {error.description}"
    let e : Finding.Expression := if reading.acts then e
      else .both e (.act (.write fun _ s => s.path ++ "\n"))
    let environment := p.environment
    let disk ← disk
    let start : Finding.Walk := ⟨disk, false, false, []⟩
    let steps := disk.nodes.length + 40
    let atEnd (w : Finding.Walk) : List Output :=
      reading.gathering.zipIdx.flatMap fun (command, number) =>
        let files := w.gathered.reverse.filterMap fun (n, path) =>
          if n = number then some path else none
        if files.isEmpty then []
        else
          let errand : Errand :=
            { arguments := command ++ files, environment, complaint := Finding.complaint }
          [.errand errand fun status _ => if status = 0 then [] else [.raise 1]]
    let outputs := (if paths.isEmpty then ["."] else paths).foldr
      (fun path next (w : Finding.Walk) =>
        Finding.walk environment reading.manner e path steps 0 path w next) atEnd start
    modify fun (p : Process) => p.emit outputs

end SlotServer.Shell.Utility
