import SlotServer.Shell.Utility.Inspecting
import SlotServer.Shell.Utility.Translation

/-!
# Blocks of bytes

Programs that copy bytes in blocks, that cut files into pieces, and that tell how much room files
take.
-/

namespace SlotServer.Shell.Utility

open Work

/-- A number of bytes as the operands of the copying program give it: factors with an `x` between
them. -/
def blockAmount? (text : String) : Option Nat :=
  (Text.splitAt 'x' text.toList).foldl (fun product part =>
    product.bind fun n =>
      match part.getLast? with
      | some 'c' =>
        match Amount.ofText (String.ofList part.dropLast) with
        | .ok m => some (n * m)
        | .error _ => none
      | some 'w' =>
        match Amount.ofText (String.ofList part.dropLast) with
        | .ok m => some (n * m * 2)
        | .error _ => none
      | _ =>
        match Amount.ofText (String.ofList part) with
        | .ok m => some (n * m)
        | .error _ => none) (some 1)

/-- The words that say how bytes are changed on the way. -/
def conversions : List String :=
  ["ascii", "ebcdic", "ibm", "block", "unblock", "lcase", "ucase", "sparse", "swab", "sync", "excl",
    "nocreat", "notrunc", "noerror", "fdatasync", "fsync"]

/-- Pairs of bytes with their places changed. -/
def swapped : Bytes → Bytes
  | a :: b :: rest => b :: a :: swapped rest
  | short => short

def dd : Program := fun args => do
  let known := ["if", "of", "bs", "ibs", "obs", "cbs", "count", "skip", "seek", "conv", "status",
    "iflag", "oflag", "iseek", "oseek"]
  let mut given : List (String × String) := []
  for arg in args do
    let name := String.ofList (arg.toList.takeWhile (· ≠ '='))
    if arg ≠ "--" then
      if !arg.toList.contains '=' || !known.contains name then
        misuse s!"unrecognized operand {Quoting.literal arg}"
      given := (name, (arg.drop (name.length + 1)).copy) :: given
  let operands := given
  let number (name : String) (usual least : Nat) : Work Nat := do
    match operands.lookup name with
    | none => return usual
    | some text =>
      match blockAmount? text with
      | some n => if n < least then fail s!"invalid number: {Quoting.literal text}" else return n
      | none => fail s!"invalid number: {Quoting.literal text}"
  let bs ← number "bs" 0 1
  let ibs ← number "ibs" 512 1
  let obs ← number "obs" 512 1
  let size := if bs = 0 then ibs else bs
  let outSize := if bs = 0 then obs else bs
  let count ← number "count" 1000000000 0
  let skip ← number "skip" (← number "iseek" 0 0) 0
  let seek ← number "seek" (← number "oseek" 0 0) 0
  let words := (Text.splitAt ',' ((operands.lookup "conv").getD "").toList).map String.ofList
  let words := words.filter fun w => !w.isEmpty
  for word in words do
    if !conversions.contains word then misuse s!"invalid conversion: {Quoting.literal word}"
  let flagWords (name : String) : List String :=
    (Text.splitAt ',' ((operands.lookup name).getD "").toList).map String.ofList
  let status := operands.lookup "status"
  match status with
  | some level =>
    if !(["none", "noxfer", "progress"].contains level) then
      misuse s!"invalid status level: {Quoting.literal level}"
  | none => pure ()
  let countsBytes := (flagWords "iflag").contains "count_bytes"
  let wanted := if countsBytes then count else count * size
  let skipped := if (flagWords "iflag").contains "skip_bytes" then skip else skip * size
  let source := (operands.lookup "if").getD "-"
  let all ←
    match ← read (if operands.lookup "if" = some "-" then "./-" else source) (skipped + wanted) with
    | .ok bytes => pure bytes
    | .error (.opening error) =>
      fail s!"failed to open {Quoting.always source}: {error.description}"
    | .error (.reading error) =>
      if source = "-" then fail s!"error reading 'standard input': {error.description}"
      else fail s!"error reading {Quoting.always source}: {error.description}"
  let bytes := (all.drop skipped).take wanted
  if source = "-" then giveBack (all.drop (skipped + wanted))
  let whole := bytes.length / size
  let partly := if bytes.length % size = 0 then 0 else 1
  let bytes := if words.contains "sync" && partly = 1 then
      bytes ++ List.replicate (size - bytes.length % size) (0 : UInt8) else bytes
  let bytes := if words.contains "swab" then swapped bytes else bytes
  let bytes := bytes.map fun b =>
    if words.contains "ucase" && 0x61 ≤ b && b ≤ 0x7A then b - 0x20
    else if words.contains "lcase" && 0x41 ≤ b && b ≤ 0x5A then b + 0x20 else b
  match operands.lookup "of" with
  | none => put bytes
  | some path =>
    let isThere := (← lookUp? path).toOption.isSome
    if words.contains "nocreat" && !isThere then
      fail s!"failed to open {Quoting.always path}: No such file or directory"
    if words.contains "excl" && isThere then
      fail s!"failed to open {Quoting.always path}: File exists"
    match ← create path false with
    | .error error => fail s!"failed to open {Quoting.always path}: {error.description}"
    | .ok (some file) =>
      let place := if (flagWords "oflag").contains "seek_bytes" then seek else seek * outSize
      let appends := (flagWords "oflag").contains "append"
      setDisk ((← disk).writeFile file fun old =>
        let place := if appends then old.length else place
        let front := old.take place ++ List.replicate (place - old.length) (0 : UInt8)
        let keeps := appends || words.contains "notrunc"
        front ++ bytes ++ (if keeps then old.drop (place + bytes.length) else []))
    | .ok none =>
      match ← append path none bytes with
      | .ok () => pure ()
      | .error error => complain s!"error writing {Quoting.always path}: {error.description}"
  if status ≠ some "none" then
    let outWhole := bytes.length / outSize
    let outPartly := if bytes.length % outSize = 0 then 0 else 1
    warn s!"{whole}+{partly} records in\n{outWhole}+{outPartly} records out"
    if status ≠ some "noxfer" then
      warn (if bytes.length = 1 then "1 byte copied, 0 s, Infinity B/s"
        else s!"{bytes.length} bytes copied, 0 s, Infinity B/s")

/-! ## Pieces -/

def pieceEnding (digits : List Char) : Nat → Nat → List Char
  | 0, _ => []
  | length + 1, n =>
    pieceEnding digits length (n / digits.length) ++
      [digits.getD (n % digits.length) 'a']

/-- Cuts a file into pieces. -/
def split : Program := fun args => do
  let table : OptionTable :=
    { letters := "a:b:C:del:n:ut:x0123456789"
      names := [("suffix-length=", "a"), ("bytes=", "b"), ("line-bytes=", "C"), ("lines=", "l"),
        ("number=", "n"), ("numeric-suffixes=?", "d"), ("hex-suffixes=?", "x"),
        ("additional-suffix=", "suffix"), ("elide-empty-files", "e"), ("unbuffered", "u"),
        ("separator=", "t"), ("verbose", "verbose")] }
  let o ← options table args
  let digits := "".intercalate
    ((o.given.filter fun (given : String × String) => given.1.toList.all Char.isDigit).map Prod.fst)
  let kinds := ["b", "l", "n", "C"].filter o.has
  if 1 < kinds.length + (if digits.isEmpty then 0 else 1) then
    misuse "cannot split in more than one way"
  let amount (option what : String) : Work Nat := do
    let text := (o.value? option).getD ""
    match Amount.ofText text with
    | .ok n => if n = 0 then fail s!"invalid number of {what}: {Quoting.literal text}" else return n
    | .error _ => fail s!"invalid number of {what}: {Quoting.literal text}"
  match o.operands with
  | _ :: _ :: extra :: _ => misuse s!"extra operand {Quoting.literal extra}"
  | _ => pure ()
  let file := o.operands.headD "-"
  let start := o.operands.getD 1 "x"
  let bytes ←
    match ← read file with
    | .ok bytes => pure bytes
    | .error (.opening error) =>
      fail s!"cannot open {Quoting.always file} for reading: {error.description}"
    | .error (.reading error) => fail s!"{Quoting.ifNeeded file}: {error.description}"
  let all := lines bytes
  let byLines (n : Nat) : List Bytes :=
    (groups n (all.length + 1) all).map List.flatten
  let pieces ←
    match kinds with
    | ["b"] => do pure (groups (← amount "b" "bytes") (bytes.length + 1) bytes)
    | ["C"] => do
      let n ← amount "C" "lines"
      pure (all.foldr (fun line pieces =>
        match pieces with
        | [] => [line]
        | first :: more =>
          if line.length + first.length ≤ n then (line ++ first) :: more else line :: pieces) [])
    | ["n"] => do
      let n ← amount "n" "chunks"
      pure ((List.range n).map fun i =>
        let first := bytes.length * i / n
        (bytes.drop first).take (bytes.length * (i + 1) / n - first))
    | ["l"] => do pure (byLines (← amount "l" "lines"))
    | _ => pure (byLines (digits.toNat?.getD 1000))
  let alphabet := if o.has "x" then "0123456789abcdef".toList
    else if o.has "d" then "0123456789".toList
    else "abcdefghijklmnopqrstuvwxyz".toList
  let length := ((o.value? "a").bind String.toNat?).getD 2
  for (piece, i) in pieces.zipIdx do
    let ending := String.ofList (pieceEnding alphabet length i)
    let name := start ++ ending ++ (o.value? "suffix").getD ""
    if o.has "verbose" then putLine s!"creating file {Quoting.always name}"
    match ← write name piece with
    | .ok () => pure ()
    | .error error => fail s!"{Quoting.ifNeeded name}: {error.description}"
where
  groups {α : Type} (size : Nat) : Nat → List α → List (List α)
    | 0, _ => []
    | _, [] => []
    | steps + 1, items => items.take size :: groups size steps (items.drop size)

/-! ## Room -/

/-- The room that a file takes, in bytes, apart from what is below it. -/
def roomOf (o : Options) (e : Entry) : Nat :=
  if o.hasAny ["b", "apparent-size"] then
    (if e.node == .directory then 4096 else e.size)
  else e.blocks * 1024

/-- Writes how much room is taken by what is at a path and below it, and gives the sum. -/
def measure (o : Options) (disk : Disk) (limit : Option Nat) :
    Nat → Nat → String → List String → DiskNode → Work Nat
  | 0, _, _, _, _ => return 0
  | steps + 1, depth, path, place, node => do
    let own := roomOf o (Entry.ofPlace disk path place node)
    let mut total := own
    if node == .directory then
      for (name, child) in disk.list place do
        total := total +
          (← measure o disk limit steps (depth + 1) (inDirectory path name) (place ++ [name]) child)
    let isShown := depth = 0 || (!o.has "s" && (node == .directory || o.has "a") &&
      limit.all fun n => depth ≤ n)
    if isShown then
      let shown := if o.has "h" then Listing.scaled total
        else if o.has "b" then toString total
        else if o.has "m" then toString ((total + 1048575) / 1048576)
        else toString ((total + 1023) / 1024)
      putLine s!"{shown}\t{path}"
    return total

/-- Writes how much room files take. -/
def du : Program := fun args => do
  let table : OptionTable :=
    { letters := "0abcd:DhHklLmPsSxB:t:X:"
      names := [("all", "a"), ("apparent-size", "apparent-size"), ("bytes", "b"), ("total", "c"),
        ("max-depth=", "d"), ("human-readable", "h"), ("summarize", "s"), ("separate-dirs", "S"),
        ("block-size=", "B"), ("count-links", "l"), ("dereference", "L"), ("no-dereference", "P"),
        ("one-file-system", "x"), ("null", "0")] }
  let o ← options table args
  let limit ←
    match o.value? "d" with
    | none => pure none
    | some text =>
      match text.toNat? with
      | some n => pure (some n)
      | none => fail s!"invalid maximum depth {Quoting.literal text}"
  if o.hasAny ["a"] && o.has "s" then misuse "cannot both summarize and show all entries"
  let mut total := 0
  for path in if o.operands.isEmpty then ["."] else o.operands do
    match ← lookUp? path false with
    | .error error => complain s!"cannot access {Quoting.always path}: {error.description}"
    | .ok (place, node) =>
      let disk ← disk
      total := total + (← measure o disk limit (disk.nodes.length + 1) 0 path place node)
  if o.has "c" then
    let shown := if o.has "b" then total else (total + 1023) / 1024
    putLine s!"{shown}\ttotal"

end SlotServer.Shell.Utility
