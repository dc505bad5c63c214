import SlotServer.Shell.Utility.Counting
import SlotServer.Shell.Utility.Inspecting

/-!
# Comparing files

Programs that say where two files differ: at which byte, or in which lines.
-/

namespace SlotServer.Shell.Utility

open Work

/-- Says that a program was called in a wrong way, under its name in both lines. -/
def misuseNamed {α : Type} (message : String) : Work α := do
  let name := (← get).name
  fail s!"{message}\n{name}: Try '{name} --help' for more information." 2

/-- The options of a program whose hint stands under its name too. -/
def optionsNamed (table : OptionTable) (args : List String) : Work Options := do
  match table.take args with
  | .ok o => return o
  | .error fault => misuseNamed fault.message

/-! ## Bytes -/

/-- The first place where two texts differ, with the number of newlines before it; the place is
missing where one of them begins the other. -/
def firstDifference : Nat → Nat → Bytes → Bytes → Option (Nat × UInt8 × UInt8) × Nat × Nat
  | place, newlines, a :: as, b :: bs =>
    if a = b then firstDifference (place + 1) (newlines + if a = 0x0A then 1 else 0) as bs
    else (some (place, a, b), place, newlines)
  | place, newlines, _, _ => (none, place, newlines)

/-- Says where two files differ. -/
def cmp : Program := fun args => do
  let table : OptionTable :=
    { letters := "bci:ln:sv"
      names := [("print-bytes", "b"), ("print-chars", "b"), ("ignore-initial=", "i"),
        ("verbose", "l"), ("bytes=", "n"), ("quiet", "s"), ("silent", "s")] }
  let o ← optionsNamed table args
  let (first, second) ←
    match o.operands with
    | [] => do
      let name := (← get).name
      misuseNamed s!"missing operand after {Quoting.always name}"
    | [one] => pure (one, "-")
    | one :: two :: _ => pure (one, two)
  let amount (text option : String) : Work Nat := do
    match Amount.ofText text with
    | .ok n => return n
    | .error _ => misuseNamed s!"invalid --{option} value {Quoting.always text}"
  let (skipFirst, skipSecond) ←
    match o.value? "i" with
    | none => pure (0, 0)
    | some text =>
      match Text.splitAt ':' text.toList with
      | [a, b] => do
        pure (← amount (String.ofList a) "ignore-initial",
          ← amount (String.ofList b) "ignore-initial")
      | _ => do
        let n ← amount text "ignore-initial"
        pure (n, n)
  let (skipFirst, skipSecond) ←
    match o.operands.drop 2 with
    | [] => pure (skipFirst, skipSecond)
    | [a] => do pure (← amount a "ignore-initial", skipSecond)
    | [a, b] => do pure (← amount a "ignore-initial", ← amount b "ignore-initial")
    | _ :: _ :: extra :: _ => misuseNamed s!"extra operand {Quoting.always extra}"
  let most ←
    match o.value? "n" with
    | none => pure none
    | some text => do pure (some (← amount text "bytes"))
  let load (file : String) (skipped : Nat) : Work Bytes := do
    match ← read file with
    | .ok bytes =>
      let rest := bytes.drop skipped
      return match most with
        | some n => rest.take n
        | none => rest
    | .error fault =>
      if !o.has "s" then complain s!"{file}: {fault.error.description}" 2 else raise 2
      stop
  let isTwice := first = second
  let a ← load first skipFirst
  let b ← if isTwice then pure a else load second skipSecond
  let (found, place, newlines) := firstDifference 0 0 a b
  let tell (isEnd : Bool) : Work Unit := do
    if !o.has "s" && isEnd then
      let (short, size) := if a.length < b.length then (first, a.length) else (second, b.length)
      if size = 0 then warn s!"{(← get).name}: EOF on {short} which is empty"
      else
        let isWhole := newlines ≠ 0 && (a.drop (place - 1)).head? = some 0x0A
        let line := if isWhole then s!"line {newlines}" else s!"in line {newlines + 1}"
        if o.has "l" then warn s!"{(← get).name}: EOF on {short} after byte {size}"
        else warn s!"{(← get).name}: EOF on {short} after byte {size}, {line}"
  if a = b then pure ()
  else
    raise 1
    if o.has "s" then pure ()
    else if o.has "l" then
      tell (a.length ≠ b.length)
      let size := min a.length b.length
      let width := (toString size).length
      for ((x, y), i) in (a.zip b).zipIdx do
        if x ≠ y then
          let octal (n : UInt8) : String := padLeft 3 (String.ofList (Nat.toDigits 8 n.toNat))
          putLine s!"{padLeft width (toString (i + 1))} {octal x} {octal y}"
    else
      match found with
      | none => tell true
      | some (place, x, y) =>
        let line := newlines + 1
        if o.has "b" then
          let octal (n : UInt8) : String := padLeft 3 (String.ofList (Nat.toDigits 8 n.toNat))
          let shown (n : UInt8) : String := String.ofList (visible n)
          putLine (s!"{first} {second} differ: byte {place + 1}, line {line} is " ++
            s!"{octal x} {shown x} {octal y} {shown y}")
        else putLine s!"{first} {second} differ: char {place + 1}, line {line}"
where
  /-- A byte as it is shown. -/
  visible (b : UInt8) : List Char :=
    let n := b.toNat
    let (front, n) : List Char × Nat := if 128 ≤ n then (['M', '-'], n - 128) else ([], n)
    front ++ (if n < 32 then ['^', Char.ofNat (n + 64)] else if n = 127 then ['^', '?']
      else [Char.ofNat n])

/-! ## Lines -/

namespace Difference

/-- A change: lines of the first file from a place on that give way to lines of the second. -/
structure Change where
  first : Nat
  removed : Nat
  second : Nat
  added : Nat
  deriving DecidableEq, Repr

/-- For every pair of places, how many lines have to be left out after it, as rows from the last one
on. -/
def table (a b : Array Bytes) : Array (Array Nat) :=
  let n := a.size
  let m := b.size
  let last : Array Nat := (Array.range (m + 1)).map fun j => m - j
  let rows := (List.range n).foldl (fun (rows : List (Array Nat)) k =>
    let i := n - 1 - k
    let below := rows.headD last
    let row := (List.range m).foldl (fun (row : Array Nat) l =>
      let j := m - 1 - l
      let same := a.getD i [] == b.getD j []
      let right := row.getD l 0
      let down := below.getD j 0
      row.push (if same then below.getD (j + 1) 0 else 1 + min right down))
      #[n - i]
    row.reverse :: rows) [last]
  rows.toArray

/-- The changes from a pair of places on. `open_` is the change that may still grow. -/
def walk (a b : Array Bytes) (t : Array (Array Nat)) :
    Nat → Nat → Nat → Option Change → List Change
  | 0, _, _, open_ => open_.toList
  | steps + 1, i, j, open_ =>
    let value (i j : Nat) : Nat := (t.getD i #[]).getD j 0
    let change : Change := open_.getD ⟨i, 0, j, 0⟩
    if i < a.size && j < b.size && a.getD i [] == b.getD j [] then
      open_.toList ++ walk a b t steps (i + 1) (j + 1) none
    else if i < a.size && (b.size ≤ j || value (i + 1) j ≤ value i (j + 1)) then
      walk a b t steps (i + 1) j (some { change with removed := change.removed + 1 })
    else if j < b.size then
      walk a b t steps i (j + 1) (some { change with added := change.added + 1 })
    else open_.toList

/-- A change that only removes or only adds lines, moved as far down as it goes. -/
def lowered (a b : Array Bytes) (limit : Nat × Nat) : Nat → Change → Change
  | 0, c => c
  | steps + 1, c =>
    if c.removed = 0 && c.added ≠ 0 && c.second + c.added < limit.2 &&
        b.getD c.second [] == b.getD (c.second + c.added) [] then
      lowered a b limit steps { c with first := c.first + 1, second := c.second + 1 }
    else if c.added = 0 && c.removed ≠ 0 && c.first + c.removed < limit.1 &&
        a.getD c.first [] == a.getD (c.first + c.removed) [] then
      lowered a b limit steps { c with first := c.first + 1, second := c.second + 1 }
    else c

/-- Changes moved down, those that meet put together. -/
def settled (a b : Array Bytes) : Nat → List Change → List Change
  | 0, changes => changes
  | _ + 1, [] => []
  | steps + 1, c :: rest =>
    let limit := match rest with
      | [] => (a.size, b.size)
      | next :: _ => (next.first, next.second)
    let moved := lowered a b limit (a.size + b.size + 1) c
    match rest with
    | [] => [moved]
    | next :: more =>
      if moved.first + moved.removed = next.first && moved.second + moved.added = next.second then
        settled a b steps
          (⟨moved.first, moved.removed + next.removed, moved.second,
            moved.added + next.added⟩ :: more)
      else moved :: settled a b steps rest

/-- The changes that lead from one row of lines to another. -/
def changes (a b : Array Bytes) : List Change :=
  let steps := a.size + b.size + 2
  settled a b steps (walk a b (table a b) steps 0 0 none)

/-- How lines are compared. -/
structure Likeness where
  foldsCase : Bool
  ignoresBlanks : Bool
  foldsBlanks : Bool
  ignoresEndBlanks : Bool
  ignoresBlankLines : Bool

def oneBlank : Bytes → Bytes
  | a :: b :: rest =>
    if isBlank a && isBlank b then oneBlank (b :: rest)
    else (if isBlank a then 0x20 else a) :: oneBlank (b :: rest)
  | [a] => [if isBlank a then 0x20 else a]
  | [] => []
where
  isBlank (b : UInt8) : Bool := b = 0x20 || b = 0x09

def Likeness.key (l : Likeness) (line : Bytes) : Bytes :=
  let isBlank (b : UInt8) : Bool := b = 0x20 || (0x09 ≤ b && b ≤ 0x0D && b ≠ 0x0A)
  let hasEnd := line.getLast? = some 0x0A
  let inside := if hasEnd then line.dropLast else line
  let inside := if l.ignoresBlanks then inside.filter (!isBlank ·) else inside
  let cut (bytes : Bytes) : Bytes := (bytes.reverse.dropWhile isBlank).reverse
  let inside := if l.foldsBlanks then cut (oneBlank inside)
    else if l.ignoresEndBlanks then cut inside else inside
  let inside := if l.foldsCase then inside.map fun b => if 0x41 ≤ b && b ≤ 0x5A then b + 0x20 else b
    else inside
  if hasEnd then inside ++ [0x0A]
  else if l.ignoresBlanks || l.foldsBlanks || l.ignoresEndBlanks then inside ++ [0x0A]
  else inside

def isOfEmptyLines (a b : Array Bytes) (c : Change) : Bool :=
  let isEmpty (line : Bytes) : Bool := line.all fun x => x = 0x0A
  ((List.range c.removed).all fun k => isEmpty (a.getD (c.first + k) [])) &&
    (List.range c.added).all fun k => isEmpty (b.getD (c.second + k) [])

def marked (mark : String) (lines : Array Bytes) (first count : Nat) : Bytes :=
  (List.range count).flatMap fun k =>
    let line := lines.getD (first + k) []
    let front := Utf8.encodeString mark ++ line
    if line.getLast? = some 0x0A then front
    else front ++ Utf8.encodeString "\n\\ No newline at end of file\n"

/-- Numbers of lines, from a place on. -/
def range (first count : Nat) : String :=
  if count = 0 then toString first
  else if count = 1 then toString (first + 1)
  else s!"{first + 1},{first + count}"

def normal (a b : Array Bytes) (changes : List Change) : Bytes :=
  changes.flatMap fun c =>
    let letter := if c.removed = 0 then "a" else if c.added = 0 then "d" else "c"
    let head := s!"{range c.first c.removed}{letter}{range c.second c.added}\n"
    Utf8.encodeString head ++ marked "< " a c.first c.removed ++
      (if letter = "c" then Utf8.encodeString "---\n" else []) ++
      marked "> " b c.second c.added

/-- Changes that are so near to each other that they are shown together. -/
def grouped (context : Nat) : List Change → List (List Change)
  | [] => []
  | c :: rest =>
    match grouped context rest with
    | [] => [[c]]
    | [] :: more => [c] :: more
    | (next :: group) :: more =>
      if next.first - (c.first + c.removed) ≤ 2 * context then (c :: next :: group) :: more
      else [c] :: (next :: group) :: more

/-- The numbers of lines in the head of a group. -/
def hunkRange (first count : Nat) : String :=
  if count = 0 then s!"{first},0" else if count = 1 then toString (first + 1)
  else s!"{first + 1},{count}"

/-- The lines from which and up to which a group is shown, in both files. -/
def extent (context sizeA sizeB : Nat) (group : List Change) : Nat × Nat × Nat × Nat :=
  let c := group.headD ⟨0, 0, 0, 0⟩
  let d := group.getLast?.getD c
  let before := min context (min c.first c.second)
  let endA := min sizeA (d.first + d.removed + context)
  let endB := min sizeB (d.second + d.added + context)
  (c.first - before, endA, c.second - before, endB)

/-- Groups of changes with the lines around them. -/
def unified (a b : Array Bytes) (context : Nat) (changes : List Change) : Bytes :=
  (grouped context changes).flatMap fun group =>
    let (startA, endA, startB, endB) := extent context a.size b.size group
    let head :=
      s!"@@ -{hunkRange startA (endA - startA)} +{hunkRange startB (endB - startB)} @@\n"
    let (body, place) := group.foldl (fun (body, place) c =>
      (body ++ marked " " a place (c.first - place) ++ marked "-" a c.first c.removed ++
        marked "+" b c.second c.added, c.first + c.removed)) (([] : Bytes), startA)
    Utf8.encodeString head ++ body ++ marked " " a place (endA - place)

/-- Groups of changes, the lines of each file for themselves. -/
def inContext (a b : Array Bytes) (context : Nat) (changes : List Change) : Bytes :=
  (grouped context changes).flatMap fun group =>
    let (startA, endA, startB, endB) := extent context a.size b.size group
    let numbers (start end_ : Nat) : String :=
      if end_ ≤ start + 1 then toString (if end_ = start then start else end_)
      else s!"{start + 1},{end_}"
    let side (lines : Array Bytes) (start end_ : Nat) (part : Change → Nat × Nat × Nat)
        (lone : String) : Bytes :=
      if group.all fun c => (part c).2.1 = 0 then []
      else
        let (body, place) := group.foldl (fun (body, place) c =>
          let (first, count, other) := part c
          let mark := if other = 0 then lone else "! "
          (body ++ marked "  " lines place (first - place) ++ marked mark lines first count,
            first + count)) (([] : Bytes), start)
        body ++ marked "  " lines place (end_ - place)
    Utf8.encodeString s!"***************\n*** {numbers startA endA} ****\n" ++
      side a startA endA (fun c => (c.first, c.removed, c.added)) "- " ++
      Utf8.encodeString s!"--- {numbers startB endB} ----\n" ++
      side b startB endB (fun c => (c.second, c.added, c.removed)) "+ "

/-- Commands of an editor that make the second file from the first. -/
def script (b : Array Bytes) (changes : List Change) : Bytes :=
  changes.reverse.flatMap fun c =>
    let letter := if c.removed = 0 then "a" else if c.added = 0 then "d" else "c"
    let lines := (List.range c.added).flatMap fun k => b.getD (c.second + k) []
    Utf8.encodeString s!"{range c.first c.removed}{letter}\n" ++ lines ++
      (if c.added = 0 then [] else Utf8.encodeString ".\n")

end Difference

/-- Compares two files, and gives the status. -/
def compareFiles (o : Options) (command : String) (first second : String) : Work Nat := do
  let empties := o.hasAny ["N"]
  let load (file : String) : Work (Option Bytes) := do
    match ← read file with
    | .ok bytes => return some bytes
    | .error fault =>
      if empties && fault.error = .noSuchEntry then return some []
      complain s!"{file}: {fault.error.description}" 2
      return none
  let a? ← load first
  let b? ← if first = second then pure a? else load second
  match a?, b? with
  | some a, some b =>
    let l : Difference.Likeness :=
      { foldsCase := o.has "i", ignoresBlanks := o.has "w", foldsBlanks := o.has "b"
        ignoresEndBlanks := o.has "Z", ignoresBlankLines := o.has "B" }
    let isBinary := !o.has "a" && (a.contains 0 || b.contains 0)
    let linesA := (lines a).toArray
    let linesB := (lines b).toArray
    let all := if a = b then [] else
      Difference.changes (linesA.map l.key) (linesB.map l.key)
    let found := if l.ignoresBlankLines then
        all.filter fun c => !Difference.isOfEmptyLines linesA linesB c else all
    if a = b || (!isBinary && found.isEmpty) then
      if o.has "s" then putLine s!"Files {first} and {second} are identical"
      return 0
    else
      if o.has "q" then putLine s!"Files {first} and {second} differ"
      else if isBinary then putLine s!"Binary files {first} and {second} differ"
      else
        putText command
        let number (option : String) (usual : Nat) : Nat :=
          ((o.value? option).bind String.toNat?).getD usual
        let labels := o.values "label"
        let time (file : String) : Work String := do
          let now := (← disk).time
          match ← lookUp? file with
          | .ok (_, .file n) =>
            let disk ← disk
            return fullTime (((disk.file? n).map DiskFile.time).getD now)
          | _ => return fullTime now
        let heading (i : Nat) (file : String) : Work String := do
          match labels[i]? with
          | some label => return label
          | none => return s!"{file}\t{← time file}"
        match o.last? ["u", "U", "c", "C", "e", "n"] with
        | some "e" => put (Difference.script linesB found)
        | some option =>
          let headA ← heading 0 first
          let headB ← heading 1 second
          if option = "u" || option = "U" then
            putText s!"--- {headA}\n+++ {headB}\n"
            put (Difference.unified linesA linesB (number "U" 3) found)
          else
            putText s!"*** {headA}\n--- {headB}\n"
            put (Difference.inContext linesA linesB (number "C" 3) found)
        | none => put (Difference.normal linesA linesB found)
      return 1
  | _, _ => return 2

/-- Compares two directories, and gives the status. -/
def compareDirectories (o : Options) (command : String → String → String) :
    Nat → String → String → Work Nat
  | 0, _, _ => return 2
  | steps + 1, first, second => do
    let disk ← disk
    let namesOf (path : String) : Work (List (String × DiskNode)) := do
      match ← lookUp? path with
      | .ok (place, .directory) => return disk.list place
      | _ => return []
    let a ← namesOf first
    let b ← namesOf second
    let all := ((a ++ b).map Prod.fst).eraseDups.mergeSort fun x y =>
      Listing.isBefore (Utf8.encodeString x) (Utf8.encodeString y)
    let mut status := 0
    for name in all do
      let pathA := inDirectory first name
      let pathB := inDirectory second name
      match a.lookup name, b.lookup name with
      | some x, some y =>
        if x == .directory && y == .directory then
          if o.has "r" then
            status := max status (← compareDirectories o command steps pathA pathB)
          else putLine s!"Common subdirectories: {pathA} and {pathB}"
        else if x == .directory || y == .directory then
          let kind (n : DiskNode) : String := kindName disk n
          putLine (s!"File {pathA} is a {kind x} while file {pathB} is a {kind y}")
          status := max status 1
        else status := max status (← compareFiles o (command pathA pathB) pathA pathB)
      | some _, none =>
        if o.has "N" then
          status := max status (← compareFiles o (command pathA pathB) pathA pathB)
        else
          putLine s!"Only in {first}: {name}"
          status := max status 1
      | none, _ =>
        if o.has "N" then
          status := max status (← compareFiles o (command pathA pathB) pathA pathB)
        else
          putLine s!"Only in {second}: {name}"
          status := max status 1
    return status

/-- Says in which lines files differ. -/
def diff : Program := fun args => do
  let table : OptionTable :=
    { letters := "0123456789abBcC:dD:eEfF:hHiI:lL:nNpPqrsS:tTuU:vwW:x:X:yZ"
      names := [("normal", "normal"), ("brief", "q"), ("report-identical-files", "s"),
        ("context=?", "c"), ("unified=?", "u"), ("ed", "e"), ("rcs", "n"), ("side-by-side", "y"),
        ("width=", "W"), ("show-c-function", "p"), ("label=", "label"), ("expand-tabs", "t"),
        ("initial-tab", "T"), ("recursive", "r"), ("new-file", "N"), ("exclude=", "x"),
        ("ignore-case", "i"), ("ignore-tab-expansion", "E"), ("ignore-trailing-space", "Z"),
        ("ignore-space-change", "b"), ("ignore-all-space", "w"), ("ignore-blank-lines", "B"),
        ("text", "a"), ("strip-trailing-cr", "strip"), ("minimal", "d"),
        ("speed-large-files", "H"), ("color=?", "color")] }
  let o ← optionsNamed table args
  let spelledOut (given : String × String) : List (String × String) :=
    match given with
    | ("u", "") => [given]
    | ("u", n) => [("U", n)]
    | ("c", "") => [given]
    | ("c", n) => [("C", n)]
    | ("L", label) => [("label", label)]
    | _ => [given]
  let o := { o with given := o.given.flatMap spelledOut }
  let name := (← get).name
  match o.operands with
  | [] => misuseNamed s!"missing operand after {Quoting.always (args.getLast?.getD name)}"
  | [_] => misuseNamed s!"missing operand after {Quoting.always (args.getLast?.getD name)}"
  | [first, second] =>
    let isDirectoryA ← isDirectory first
    let isDirectoryB ← isDirectory second
    let flags := args.filter fun a => a.startsWith "-" && a ≠ "-"
    let command (a b : String) : String :=
      " ".intercalate (name :: flags.map Quoting.ifNeeded ++
        [Quoting.ifNeeded a, Quoting.ifNeeded b]) ++ "\n"
    let status ←
      if isDirectoryA && isDirectoryB then
        compareDirectories o command ((← disk).nodes.length + 1) first second
      else if isDirectoryA then
        compareFiles o "" (inDirectory first (lastPart second)) second
      else if isDirectoryB then compareFiles o "" first (inDirectory second (lastPart first))
      else compareFiles o "" first second
    raise status
  | _ :: _ :: extra :: _ => misuseNamed s!"extra operand {Quoting.always extra}"

end SlotServer.Shell.Utility
