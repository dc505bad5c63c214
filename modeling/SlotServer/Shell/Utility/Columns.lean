import SlotServer.Shell.Utility.Pages
import SlotServer.Text.Split

/-!
# Utilities for parts of lines

Programs that take columns or fields out of lines, and that put the lines of several files side by
side.
-/

namespace SlotServer.Shell.Utility

open Pattern (code)
open Work

/-! ## Ranges -/

/-- A range of positions; the first is one, and there may be no last one. -/
structure Span where
  low : Nat
  high : Option Nat
  deriving Repr

def Span.contains (s : Span) (n : Nat) : Bool :=
  s.low ≤ n && s.high.all fun high => n ≤ high

def greatestPosition : Nat := 18446744073709551614

/-- Reads a list of ranges; `ofFields` says what positions are called. -/
def spans (ofFields : Bool) (text : String) : Work (List Span) := do
  let zero := if ofFields then "fields are numbered from 1"
    else "byte/character positions are numbered from 1"
  let number (digits : List Char) : Work Nat := do
    match Text.digits 10 digits with
    | (ds, []) =>
      let n := Text.ofDigits 10 ds
      if greatestPosition < n then
        let what := if ofFields then "field number" else "byte/character offset"
        misuse s!"{what} {Quoting.literal (String.ofList digits)} is too large"
      else return n
    | (_, rest) =>
      let what := if ofFields then "field value" else "byte/character position"
      misuse s!"invalid {what} {Quoting.literal (String.ofList rest)}"
  let parts := text.toList.splitBy fun a b => !(a = ',' || a = ' ' || b = ',' || b = ' ')
  let mut found : List Span := []
  let mut afterSeparator := true
  for part in parts do
    if part = [','] || part = [' '] then
      if afterSeparator then misuse zero
      afterSeparator := true
    else
      afterSeparator := false
      match Text.splitAt '-' part with
      | [one] =>
        let n ← number one
        if n = 0 then misuse zero
        found := ⟨n, some n⟩ :: found
      | [low, high] =>
        if low.isEmpty && high.isEmpty then misuse "invalid range with no endpoint: -"
        let a ← if low.isEmpty then pure 1 else number low
        if a = 0 then misuse zero
        if high.isEmpty then found := ⟨a, none⟩ :: found
        else
          let b ← number high
          if b < a then misuse "invalid decreasing range"
          found := ⟨a, some b⟩ :: found
      | _ => misuse (if ofFields then "invalid field range" else "invalid byte or character range")
  if afterSeparator then misuse zero
  return found.reverse

/-! ## Cutting -/

/-- The parts of a line at chosen positions, and whether each begins a new range. -/
def chosen {α : Type} (isChosen begins : Nat → Bool) (items : List α) : List (Bool × α) :=
  (items.zipIdx 1).filterMap fun (item, n) =>
    if isChosen n then some (begins n, item) else none

def cut : Program := fun args => do
  let table : OptionTable :=
    { letters := "b:c:d:f:nsz"
      names := [("bytes=", "b"), ("characters=", "c"), ("delimiter=", "d"), ("fields=", "f"),
        ("only-delimited", "s"), ("complement", "complement"),
        ("output-delimiter=", "output"), ("zero-terminated", "z")] }
  let o ← options table args
  match o.given.filter fun (n, _) => n = "b" || n = "c" || n = "f" with
  | [] => misuse "you must specify a list of bytes, characters, or fields"
  | _ :: _ :: _ => misuse "only one list may be specified"
  | [(option, list)] =>
    let ofFields := option = "f"
    let delimiter := (o.value? "d").map Utf8.encodeString
    if delimiter.any fun d => 1 < d.length then misuse "the delimiter must be a single character"
    if !ofFields then
      if delimiter.isSome then
        misuse "an input delimiter may be specified only when operating on fields"
      if o.has "s" then
        misuse ("suppressing non-delimited lines makes sense\n" ++
          "\tonly when operating on fields")
    let spans ← spans ofFields list
    let inverted := o.has "complement"
    let isChosen (n : Nat) : Bool := (spans.any fun s => s.contains n) != inverted
    let begins (n : Nat) : Bool :=
      if inverted then n = 1 || spans.any fun s => s.high = some (n - 1)
      else (spans.any fun s => s.low = n) && !(spans.any fun s => s.low < n && s.contains n)
    let separator := ((delimiter.map fun d => d.headD 0).getD 0x09)
    let output := (o.value? "output").map Utf8.encodeString
    let ending : UInt8 := if o.has "z" then 0 else 0x0A
    let cutLine (line : Bytes) : Option Bytes :=
      if ofFields then
        let fields := Text.splitAt separator line
        if fields.length ≤ 1 then if o.has "s" then none else some line
        else
          let kept := (chosen isChosen begins fields).map Prod.snd
          some ((output.getD [separator]).intercalate kept)
      else
        let kept := chosen isChosen begins (line.map fun b => [b])
        let joined := kept.zipIdx.map fun ((isNew, piece), i) =>
          (if isNew && i ≠ 0 then output.getD [] else []) ++ piece
        some joined.flatten
    for file in filesOrInput o.operands do
      match ← readOrComplain? file with
      | none => pure ()
      | some bytes =>
        for line in linesOr (o.has "z") bytes do
          let inside := if line.getLast? = some ending then line.dropLast else line
          match cutLine inside with
          | some shown => put (shown ++ [ending])
          | none => pure ()

/-! ## Side by side -/

/-- The separators that a list of them says; an empty one is nothing. -/
def separators : List Char → Option (List Bytes)
  | [] => some []
  | ['\\'] => none
  | '\\' :: c :: rest =>
    let value : Bytes :=
      match c with
      | '0' => []
      | 'n' => [0x0A]
      | 't' => [0x09]
      | 'b' => [0x08]
      | 'f' => [0x0C]
      | 'r' => [0x0D]
      | 'v' => [0x0B]
      | c => Utf8.encode [c]
    (separators rest).map (value :: ·)
  | c :: rest => (separators rest).map ((Utf8.encode [c]).map (fun b => [b]) ++ ·)

def joinInTurn (separators : List Bytes) (items : List Bytes) : Bytes :=
  let count := max separators.length 1
  (items.zipIdx.map fun (item, i) =>
    if i = 0 then item else separators.getD ((i - 1) % count) [] ++ item).flatten

/-- The rows that lines of several files make up; a hyphen that is given several times takes the
lines of the standard input in turn. -/
def rows : Nat → List (List Bytes) → List (List Bytes)
  | 0, _ => []
  | steps + 1, columns =>
    if columns.all List.isEmpty then []
    else (columns.map fun c => c.headD []) :: rows steps (columns.map (List.drop 1))

/-- Writes the lines of files side by side. -/
def paste : Program := fun args => do
  let table : OptionTable :=
    { letters := "d:sz"
      names := [("delimiters=", "d"), ("serial", "s"), ("zero-terminated", "z")] }
  let o ← options table args
  let given := (o.value? "d").getD "\t"
  let list ←
    match separators given.toList with
    | some list => pure list
    | none => fail s!"delimiter list ends with an unescaped backslash: {given}"
  let files := filesOrInput o.operands
  let dashes := files.filter (· = "-")
  let standard : List Bytes ←
    if dashes.isEmpty then pure [] else do
      match ← input with
      | .ok bytes => pure ((lines bytes).map bare)
      | .error error => fail s!"-: {error.description}"
  let turn (i : Nat) : List Bytes :=
    standard.zipIdx.filterMap fun (line, n) => if n % dashes.length = i then some line else none
  let mut columns : List (List Bytes) := []
  let mut dash := 0
  for file in files do
    if file = "-" then
      let column :=
        if o.has "s" then (if dash = 0 then standard else []) else turn dash
      columns := columns ++ [column]
      dash := dash + 1
    else
      match ← read file with
      | .ok bytes => columns := columns ++ [(lines bytes).map bare]
      | .error fault =>
        complain s!"{Quoting.ifNeeded file}: {fault.error.description}"
        if !o.has "s" then stop
  if o.has "s" then
    for column in columns do put (joinInTurn list column ++ [0x0A])
  else
    let most := (columns.map List.length).foldl max 0
    for row in rows (most + 1) columns do put (joinInTurn list row ++ [0x0A])

/-! ## Joining -/

/-- The fields of a line: between blanks, or between separators. -/
def fieldsOf (separator : Option UInt8) (line : Bytes) : List Bytes :=
  match separator with
  | some s => Text.splitAt s line
  | none =>
    let isBlank (b : UInt8) : Bool := b = 0x20 || b = 0x09
    (line.splitBy fun a b => isBlank a == isBlank b).filter fun p => !(p.head?.any isBlank)

/-- How lines are joined. -/
structure Joining where
  separator : Option UInt8
  keys : Nat × Nat
  empty : Bytes
  /-- The fields that are written: of the first line, of the second, or the key. -/
  format : List (Nat × Nat)

/-- The row of two lines that belong together, or of one. -/
def Joining.row (j : Joining) (first second : Option (List Bytes)) : Bytes :=
  let key (line : List Bytes) (n : Nat) : Bytes := line.getD (n - 1) []
  let shared :=
    match first, second with
    | some line, _ => key line j.keys.1
    | none, some line => key line j.keys.2
    | none, none => []
  let others (line : Option (List Bytes)) (n : Nat) : List Bytes :=
    match line with
    | some line => (line.zipIdx 1).filterMap fun (f, i) => if i = n then none else some f
    | none => []
  let filled (b : Bytes) : Bytes := if b.isEmpty then j.empty else b
  let fields :=
    if j.format.isEmpty then
      shared :: (others first j.keys.1 ++ others second j.keys.2).map filled
    else
      j.format.map fun (file, n) =>
        let line := if file = 1 then first else second
        if file = 0 then shared
        else filled ((line.map fun l => key l n).getD [])
  [j.separator.getD 0x20].intercalate fields ++ [0x0A]

/-- Joins lines that are in order. `shown` says of which file lines without a partner are written,
and whether pairs are. -/
def Joining.run (j : Joining) (shown : Bool × Bool × Bool) :
    Nat → List (List Bytes) → List (List Bytes) → List Bytes
  | 0, _, _ => []
  | _ + 1, [], seconds =>
    if shown.2.1 then seconds.map fun l => j.row none (some l) else []
  | _ + 1, firsts, [] =>
    if shown.1 then firsts.map fun l => j.row (some l) none else []
  | steps + 1, a :: firsts, b :: seconds =>
    let keyOf (n : Nat) (line : List Bytes) : Bytes := line.getD (n - 1) []
    let x := keyOf j.keys.1 a
    let y := keyOf j.keys.2 b
    if x = y then
      let mine := (a :: firsts).takeWhile fun l => keyOf j.keys.1 l = x
      let theirs := (b :: seconds).takeWhile fun l => keyOf j.keys.2 l = x
      let pairs := mine.flatMap fun l => theirs.map fun m => j.row (some l) (some m)
      (if shown.2.2 then pairs else []) ++
        j.run shown steps ((a :: firsts).drop mine.length) ((b :: seconds).drop theirs.length)
    else if List.lex x y fun a b => a < b then
      (if shown.1 then [j.row (some a) none] else []) ++ j.run shown steps firsts (b :: seconds)
    else
      (if shown.2.1 then [j.row none (some b)] else []) ++ j.run shown steps (a :: firsts) seconds

/-- Writes the lines of two files that have a field in common. -/
def join : Program := fun args => do
  let table : OptionTable :=
    { letters := "a:e:i1:2:j:o:t:v:z"
      names := [("ignore-case", "i"), ("check-order", "check"), ("nocheck-order", "nocheck"),
        ("header", "header"), ("zero-terminated", "z")] }
  let o ← options table args
  match o.operands with
  | [] => misuse "missing operand"
  | [one] => misuse s!"missing operand after {Quoting.literal one}"
  | _ :: _ :: third :: _ => misuse s!"extra operand {Quoting.literal third}"
  | [left, right] =>
    let separator ←
      match (o.value? "t").map Utf8.encodeString with
      | none => pure none
      | some [b] => pure (some b)
      | some _ =>
        let shown := Quoting.literal ((o.value? "t").getD "")
        fail s!"multi-character tab {shown}"
    let number (option : String) : Nat :=
      (((o.value? option).orElse fun _ => o.value? "j").bind String.toNat?).getD 1
    let format := (o.values "o").flatMap fun text =>
      ((text.toList.splitBy fun a b => a ≠ ',' && b ≠ ',' && a ≠ ' ' && b ≠ ' ').filter
        fun p => p ≠ [','] && p ≠ [' ']).map fun part =>
          match Text.splitAt '.' part with
          | [file, field] =>
            ((String.ofList file).toNat?.getD 0, (String.ofList field).toNat?.getD 0)
          | _ => (0, 0)
    let j : Joining :=
      ⟨separator, (number "1", number "2"), Utf8.encodeString ((o.value? "e").getD ""), format⟩
    let load (file : String) : Work (List (List Bytes)) := do
      match ← read file with
      | .ok bytes => return (lines bytes).map fun l => fieldsOf separator (bare l)
      | .error fault => fail s!"{Quoting.ifNeeded file}: {fault.error.description}"
    let firsts ← load left
    let seconds ← load right
    let unpaired := o.values "a" ++ o.values "v"
    let shown := (unpaired.contains "1", unpaired.contains "2", (o.values "v").isEmpty)
    put (j.run shown (firsts.length + seconds.length + 1) firsts seconds).flatten

end SlotServer.Shell.Utility
