import SlotServer.Shell.Regular.Search
import SlotServer.Shell.Utility.Pages

/-!
# Lines that fit patterns

A program that writes the lines of files that fit one of several patterns, or the parts that fit,
or how many there are, or the names of the files.
-/

namespace SlotServer.Shell.Utility

open Pattern (code)
open Work

namespace Matching

/-- A pattern: an expression, or a text that stands for itself. -/
inductive Wanted where
  | regular (r : Regular)
  | text (bytes : Bytes)

/-- How lines are compared to patterns. -/
structure Criteria where
  wanted : List Wanted
  foldsCase : Bool
  wholeWords : Bool
  wholeLines : Bool

/-- Where a pattern fits from a place on: the ends of the parts, the furthest first. -/
def Wanted.ends (w : Wanted) (c : Criteria) (line : Array UInt8) (start : Nat) : List Nat :=
  let subject : Regular.Subject := ⟨line, c.foldsCase, false, false⟩
  match w with
  | .regular r =>
    let subject := { subject with keepsWays := r.recalls }
    (subject.reach r ⟨start, []⟩).map Regular.Reached.place
  | .text bytes =>
    let last := start + bytes.length
    let found := subject.slice start last
    let fits := found.length = bytes.length &&
      (bytes.zip found).all fun (a, b) => subject.areSame a b
    if fits then [last] else []

/-- The furthest end of a part that fits at a place. -/
def Criteria.best? (c : Criteria) (line : Array UInt8) (start : Nat) : Option Nat :=
  let isWord (place : Nat) : Bool := (getElem? line place).any Regular.isWordByte
  let accepts (last : Nat) : Bool :=
    (!c.wholeLines || (start = 0 && last = line.size)) &&
      (!c.wholeWords || c.wholeLines ||
        (!(0 < start && isWord (start - 1)) && !isWord last))
  let ends := c.wanted.flatMap fun w => (w.ends c line start).filter accepts
  ends.foldl (fun best last => some (max last (best.getD last))) none

/-- The first part of a line that fits, from a place on. -/
def Criteria.find? (c : Criteria) (line : Array UInt8) : Nat → Nat → Option (Nat × Nat)
  | 0, _ => none
  | steps + 1, start =>
    if line.size < start then none
    else
      match c.best? line start with
      | some last => some (start, last)
      | none => c.find? line steps (start + 1)

/-- The parts of a line that fit and are not empty. -/
def Criteria.findAll (c : Criteria) (line : Array UInt8) : Nat → Nat → List (Nat × Nat)
  | 0, _ => []
  | steps + 1, start =>
    match c.find? line (line.size + 2) start with
    | none => []
    | some (first, last) =>
      if first = last then c.findAll line steps (first + 1)
      else (first, last) :: c.findAll line steps last

/-- A line of a file. -/
structure Line where
  number : Nat
  offset : Nat
  bytes : Bytes
  isSelected : Bool

/-- The lines of a file, with their numbers and places. -/
def numbered (isSelected : Bytes → Bool) : Nat → Nat → List Bytes → List Line
  | _, _, [] => []
  | n, offset, line :: rest =>
    let inside := if line.getLast?.any (fun b => b = 0x0A || b = 0) then line.dropLast else line
    ⟨n, offset, inside, isSelected inside⟩ ::
      numbered isSelected (n + 1) (offset + line.length) rest

def upTo : Nat → List Line → List Line
  | _, [] => []
  | 0, _ => []
  | n + 1, line :: rest => line :: upTo (if line.isSelected then n else n + 1) rest

/-- How lines are written. -/
structure Layout where
  showsName : Bool
  showsNumber : Bool
  showsOffset : Bool
  onlyParts : Bool
  before : Nat
  after : Nat
  /-- What stands between lines that do not follow each other. -/
  gap : Option Bytes
  ending : UInt8
  nameEnding : Option UInt8

def Layout.front (l : Layout) (name : String) (mark : Char) (number offset : Nat) : Bytes :=
  (if l.showsName then Utf8.encodeString name ++ [l.nameEnding.getD (code mark)] else []) ++
    (if l.showsNumber then Utf8.encodeString (toString number) ++ [code mark] else []) ++
    (if l.showsOffset then Utf8.encodeString (toString offset) ++ [code mark] else [])

/-- The lines that are written, with those around them. `waiting` says how many of the lines that
come next are written because of one before them. -/
def Layout.chosen (l : Layout) : List Line → Nat → List Line → List Line
  | [], _, _ => []
  | line :: rest, waiting, held =>
    if line.isSelected then held.reverse ++ line :: l.chosen rest l.after []
    else if 0 < waiting then line :: l.chosen rest (waiting - 1) []
    else l.chosen rest 0 ((line :: held).take l.before)

/-- The text that is written for lines. `last` is the number of the line that was written last in
any file. -/
def Layout.text (l : Layout) (c : Criteria) (inverted : Bool) (name : String)
    (hadLines : Bool) (lines : List Line) : Bytes :=
  let shown (line : Line) : Bytes :=
    let mark := if line.isSelected then ':' else '-'
    if l.onlyParts then
      if !line.isSelected || inverted then []
      else
        let array := line.bytes.toArray
        (c.findAll array (array.size + 2) 0).flatMap fun (first, last) =>
          l.front name mark line.number (line.offset + first) ++
            (array.extract first last).toList ++ [l.ending]
    else l.front name mark line.number line.offset ++ line.bytes ++ [l.ending]
  (lines.foldl (fun (output, previous) line =>
    let isApart : Bool :=
      match previous with
      | some n => n + 1 < line.number
      | none => hadLines
    let gap := if isApart then l.gap.getD [] else []
    (shown line :: gap :: output, some line.number))
    (([] : List Bytes), (none : Option Nat))).1.reverse.flatten

def patterns (o : Options) (operand : Option String) : Work (List Bytes) := do
  let mut found : List Bytes := []
  let split (text : String) : List Bytes := Text.splitAt (0x0A : UInt8) (Utf8.encodeString text)
  match operand with
  | some text => found := split text
  | none =>
    for (option, value) in o.given do
      if option = "e" then found := found ++ split value
      else if option = "f" then
        match ← read value with
        | .ok bytes => found := found ++ (lines bytes).map bare
        | .error fault => fail s!"{value}: {fault.error.description}" 2
  return found

/-- The kinds of patterns. -/
inductive Kind where
  | basic | extended | fixed | shorthand
  deriving DecidableEq, Repr

def Kind.dialect (kind : Kind) : Regular.Dialect :=
  let isExtended := kind != .basic
  { extended := isExtended, sparesClosing := isExtended, sparesOperators := true
    sparesBraces := isExtended, hasEscapes := kind = .shorthand, hasDigits := kind = .shorthand }

/-- Whether a pattern is a class of characters without the brackets around it. -/
def isBareClass (bytes : Bytes) : Bool :=
  let open_ : Bytes := [code '[', code ':']
  let close : Bytes := [code ':', code ']']
  open_.isPrefixOf bytes && close.isSuffixOf bytes && 4 < bytes.length &&
    (((bytes.drop 2).take (bytes.length - 4)).all fun b => (Quoting.shown b).isAlpha)

def wanted (kind : Kind) (list : List Bytes) : Work (List Wanted) := do
  list.mapM fun bytes => do
    if kind = .fixed then return .text bytes
    else
      if isBareClass bytes then fail "character class syntax is [[:space:]], not [:space:]" 2
      match Regular.read kind.dialect bytes with
      | .ok (regular, _, stray) =>
        for c in stray do
          let shown := if c = '\x7b' then "\x7b...\x7d" else String.singleton c
          warn s!"{(← get).name}: warning: {shown} at start of expression"
        return .regular regular
      | .error problem => fail problem.message 2

/-- The files below a directory, each with its path. -/
def below (disk : Disk) (skips : String → Bool) : Nat → String → List String → List String
  | 0, _, _ => []
  | steps + 1, path, place =>
    let front := if path.isEmpty then "" else if path.endsWith "/" then path else path ++ "/"
    (disk.list place).flatMap fun (name, node) =>
      match node with
      | .directory =>
        if skips name then [] else below disk skips steps (front ++ name) (place ++ [name])
      | .file _ => [front ++ name]
      | _ => []

/-- The depth of a tree of directories that is gone through. -/
def maxDepth : Nat := 200

end Matching

open Matching in
/-- Writes the lines that fit patterns, which are of this kind if no option says otherwise. -/
def grepOf (usual : Matching.Kind) : Program := fun args => do
  if usual != .basic then modify fun p => { p with name := "grep" }
  let table : OptionTable :=
    { letters := "0123456789A:B:C:D:EFGHILPTUVX:abcd:e:f:hiLlm:noqRrsuvwxyZz"
      names := [("basic-regexp", "G"), ("extended-regexp", "E"), ("fixed-regexp", "F"),
        ("fixed-strings", "F"), ("perl-regexp", "P"), ("after-context=", "A"),
        ("before-context=", "B"), ("context=", "C"), ("group-separator=", "group"),
        ("no-group-separator", "nogroup"), ("binary-files=", "binary"),
        ("line-buffered", "line"), ("byte-offset", "b"), ("color=?", "color"),
        ("colour=?", "color"), ("count", "c"), ("devices=", "D"), ("directories=", "d"),
        ("exclude=", "exclude"), ("exclude-from=", "excludefrom"),
        ("exclude-dir=", "excludedir"), ("file=", "f"), ("files-with-matches", "l"),
        ("files-without-match", "L"), ("ignore-case", "i"), ("no-ignore-case", "noi"),
        ("include=", "include"), ("initial-tab", "T"), ("label=", "label"),
        ("line-number", "n"), ("line-regexp", "x"), ("max-count=", "m"),
        ("no-filename", "h"), ("no-messages", "s"), ("null", "Z"), ("null-data", "z"),
        ("only-matching", "o"), ("quiet", "q"), ("recursive", "r"),
        ("dereference-recursive", "r"), ("regexp=", "e"), ("invert-match", "v"),
        ("silent", "q"), ("text", "a"), ("binary", "U"), ("unix-byte-offsets", "u"),
        ("version", "V"), ("with-filename", "H"), ("word-regexp", "w")] }
  let name := (← get).name
  let usage : String :=
    s!"Usage: {name} [OPTION]... PATTERNS [FILE]...\nTry '{name} --help' for more information."
  let o ←
    match table.take args with
    | .ok o => pure o
    | .error fault =>
      warn s!"{name}: {fault.message}\n{usage}"
      raise 2
      stop
  let kindOf (option : String) : Option Kind :=
    match option with
    | "E" => some .extended
    | "F" => some .fixed
    | "G" => some .basic
    | "P" => some .shorthand
    | _ => none
  let own : List Kind := if usual == .basic then [] else [usual]
  let kinds := own ++ o.given.filterMap fun (n, _) => kindOf n
  let kind := kinds.headD usual
  if kinds.any (· != kind) then fail "conflicting matchers specified" 2
  let context (option : String) : Work (Option Nat) := do
    match o.value? option with
    | none => return none
    | some text =>
      match Text.digits 10 text.toList with
      | (d :: ds, []) => return some (Text.ofDigits 10 (d :: ds))
      | _ => fail s!"{text}: invalid context length argument" 2
  let isDigits (given : String × String) : Bool := given.1.toList.all Char.isDigit
  let digits := "".intercalate ((o.given.filter isDigits).map Prod.fst)
  let both ← context "C"
  let around := if digits.isEmpty then both else digits.toNat?
  let after ← context "A"
  let before ← context "B"
  let most ←
    match o.value? "m" with
    | none => pure none
    | some text =>
      match text.toInt? with
      | some n => pure (if n < 0 then none else some n.toNat)
      | none => fail "invalid max count" 2
  let needsOperand := !o.hasAny ["e", "f"]
  let (operand, files) ←
    match needsOperand, o.operands with
    | true, [] => do
      warn usage
      raise 2
      stop
    | true, pattern :: files => pure (some pattern, files)
    | false, files => pure (none, files)
  let wanted ← wanted kind (← patterns o operand)
  let foldsCase := match o.last? ["i", "y", "noi"] with
    | some option => option ≠ "noi"
    | none => false
  let criteria : Criteria := ⟨wanted, foldsCase, o.has "w", o.has "x"⟩
  let inverted := o.has "v"
  let isRecursive := o.hasAny ["r", "R"] || o.value? "d" = some "recurse"
  let skipsDirectories := o.value? "d" = some "skip"
  let files := if files.isEmpty then (if isRecursive then [""] else ["-"]) else files
  let fits (patterns : List String) (path : String) : Bool :=
    patterns.any fun p =>
      let pattern := Pattern.ofText (Utf8.encodeString p)
      let last := ((Text.splitAt '/' path.toList).getLast?.map String.ofList).getD path
      pattern.accepts (Utf8.encodeString path) || pattern.accepts (Utf8.encodeString last)
  let isLeftOut (path : String) : Bool :=
    fits (o.values "exclude") path ||
      (!(o.values "include").isEmpty && !fits (o.values "include") path)
  let isSilent := o.has "s"
  let expand (file : String) : Work (List String) := do
    if file = "-" then return [file]
    else
      let found ← lookUp? (if file.isEmpty then "." else file)
      match found with
      | .ok (place, .directory) =>
        if isRecursive then
          let skips (name : String) : Bool := fits (o.values "excludedir") name
          let disk ← disk
          return (below disk skips maxDepth file place).filter fun path => !isLeftOut path
        else if skipsDirectories then return []
        else return [file]
      | _ => return if isLeftOut file then [] else [file]
  let all := (← files.mapM expand).flatten
  let severalFiles := 1 < files.length ||
    (isRecursive && (← files.mapM fun f => isDirectory (if f.isEmpty then "." else f)).any id)
  let showsName := match o.last? ["H", "h"] with
    | some option => option = "H"
    | none => severalFiles
  let zero := o.has "z"
  let layout : Layout :=
    { showsName, showsNumber := o.has "n", showsOffset := o.has "b", onlyParts := o.has "o"
      before := (before.orElse fun _ => around).getD 0
      after := (after.orElse fun _ => around).getD 0
      gap :=
        if o.has "nogroup" || (before.orElse fun _ => after.orElse fun _ => around).isNone then none
        else some (Utf8.encodeString (((o.value? "group").getD "--") ++ "\n"))
      ending := if zero then 0 else 0x0A
      nameEnding := if o.has "Z" then some 0 else none }
  let mut anySelected := false
  let mut anyWritten := false
  let listing := o.last? ["l", "L"]
  if most = some 0 then
    raise 1
    stop
  for file in all do
    let label := if file = "-" then (o.value? "label").getD "(standard input)" else file
    let isDoubled ←
      if o.hasAny ["q", "l", "L", "c"] || most = some 1 then pure false else isOutput file true
    if isDoubled then complain s!"{label}: input file is also the output" 2
    else
    match ← read file with
    | .error fault =>
      if !isSilent then complain s!"{label}: {fault.error.description}" 2 else raise 2
    | .ok bytes =>
      let isBinary := !zero && !o.has "a" && bytes.contains 0
      let isIgnored := isBinary && (o.has "I" || o.value? "binary" = some "without-match")
      let isSelected (line : Bytes) : Bool :=
        let array := line.toArray
        (criteria.find? array (array.size + 2) 0).isSome != inverted
      let list := numbered isSelected 1 0 (if isIgnored then [] else linesOr zero bytes)
      let counted := (most.map fun n => upTo n list).getD list
      if file = "-" && most.isSome && !o.has "q" then
        let selectedAll := (counted.filter Line.isSelected).length
        match most, counted.getLast? with
        | some n, some line =>
          if selectedAll = n then giveBack (bytes.drop (line.offset + line.bytes.length + 1))
        | _, _ => pure ()
      let count := (counted.filter Line.isSelected).length
      if 0 < count then anySelected := true
      let ended (text : String) : Bytes :=
        Utf8.encodeString text ++ [if o.has "Z" then 0 else 0x0A]
      if o.has "q" then
        if 0 < count then
          modify fun p => { p with status := 0 }
          stop
      else if o.has "c" then
        let front := if showsName then
            Utf8.encodeString label ++ [if o.has "Z" then 0 else code ':'] else []
        put (front ++ Utf8.encodeString s!"{count}\n")
        if listing = some "l" && 0 < count || listing = some "L" && count = 0 then
          put (ended label)
      else if listing = some "l" then
        if 0 < count then put (ended label)
      else if listing = some "L" then
        if count = 0 then put (ended label)
      else if isBinary then
        if 0 < count && !(o.has "o" && inverted) then
          putLine s!"{name}: {label}: binary file matches"
      else
        let isEnough := most.any fun n => n ≤ count
        let later := if isEnough then (list.drop counted.length).take layout.after else []
        let context := later.map fun line => { line with isSelected := false }
        let shown := layout.chosen (counted ++ context) 0 []
        put (layout.text criteria inverted label anyWritten shown)
        if !shown.isEmpty then anyWritten := true
  if !anySelected then raise 1

/-- Writes the lines that fit patterns. -/
def grep : Program := grepOf .basic

/-- Writes the lines that fit patterns in their extended form. -/
def egrep : Program := grepOf .extended

def fgrep : Program := grepOf .fixed

end SlotServer.Shell.Utility
