import SlotServer.Shell.Utility.Pages

/-!
# Counting

A program that counts the lines, words, characters and bytes of files. The numbers stand in columns
that are wide enough for the sizes of all files together.
-/

namespace SlotServer.Shell.Utility

open Work

structure Counts where
  lines : Nat
  words : Nat
  bytes : Nat
  /-- The columns of the longest line. -/
  longest : Nat

def wordCount (bytes : Bytes) : Nat :=
  let isBlank (b : UInt8) : Bool := b = 0x20 || (0x09 ≤ b && b ≤ 0x0D)
  (bytes.foldl (fun (count, inWord) b =>
    if isBlank b then (count, false)
    else if Quoting.isPrintable b then (if inWord then count else count + 1, true)
    else (count, inWord)) ((0, false) : Nat × Bool)).1

def columnsOf (line : Bytes) : Nat :=
  line.foldl (fun n b =>
    if b = 0x09 then n + 8 - n % 8 else if Quoting.isPrintable b then n + 1 else n) 0

def Counts.ofBytes (bytes : Bytes) : Counts where
  lines := bytes.count Transfer.newline
  words := wordCount bytes
  bytes := bytes.length
  longest := ((Utility.lines bytes).map columnsOf).foldl max 0

/-- The counts of two files together. -/
def Counts.add (a b : Counts) : Counts where
  lines := a.lines + b.lines
  words := a.words + b.words
  bytes := a.bytes + b.bytes
  longest := max a.longest b.longest

def Counts.wanted (c : Counts) (o : Options) : List Nat :=
  let all := [("l", c.lines), ("w", c.words), ("m", c.bytes), ("c", c.bytes), ("L", c.longest)]
  if all.any fun (n, _) => o.has n then
    all.filterMap fun (n, count) => if o.has n then some count else none
  else [c.lines, c.words, c.bytes]

def countWidth (files : List String) (columns : Nat) : Work Nat := do
  let p ← get
  let size (file : String) : Work (Except SystemError (Option Nat)) := do
    if file = "-" then
      return .ok (if p.isSeekable then some p.input.length else none)
    else
      match ← lookUp? file with
      | .ok (_, .file number) => return .ok (some ((← disk).fileContents number).length)
      | .ok _ => return .ok none
      | .error error => return .error error
  let sizes ← (filesOrInput files).mapM size
  if (sizes.length = 1 && columns = 1) || sizes.head?.any fun s => s matches .error _ then
    return 1
  else
    let least := if sizes.any fun s => s matches .ok none then 7 else 1
    let total := sizes.foldl (fun n s => n + (s.toOption.join.getD 0)) 0
    return max least (toString total).length

/-- Counts lines, words and bytes. -/
def wc : Program := fun args => do
  let table : OptionTable :=
    { letters := "clLmw"
      names := [("bytes", "c"), ("chars", "m"), ("lines", "l"), ("words", "w"),
        ("max-line-length", "L"), ("total=", "total"), ("files0-from=", "files")] }
  let o ← options table args
  let columns := (Counts.wanted ⟨0, 0, 0, 0⟩ o).length
  let width ← countWidth o.operands columns
  let total := (o.value? "total").getD "auto"
  let width := if total = "only" then 1 else width
  let row (c : Counts) (name : String) : Work Unit := do
    let numbers := (c.wanted o).map fun n => padLeft width (toString n)
    putLine (" ".intercalate numbers ++ (if name.isEmpty then "" else " " ++ name))
  let mut sum : Counts := ⟨0, 0, 0, 0⟩
  for file in filesOrInput o.operands do
    let name := if o.operands.isEmpty then "" else Quoting.ifNeeded file
    match ← read file with
    | .ok bytes =>
      let c := Counts.ofBytes bytes
      sum := sum.add c
      if total ≠ "only" then row c name
    | .error (.opening error) =>
      complain s!"{Quoting.ifNeeded file}: {error.description}"
    | .error (.reading error) =>
      complain s!"{Quoting.ifNeeded (shownName file)}: {error.description}"
      if total ≠ "only" then row ⟨0, 0, 0, 0⟩ name
  if total = "only" then row sum ""
  else if total = "always" || (total = "auto" && 1 < o.operands.length) then row sum "total"

end SlotServer.Shell.Utility
