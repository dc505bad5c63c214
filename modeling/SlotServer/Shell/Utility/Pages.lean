import SlotServer.Shell.Pattern
import SlotServer.Shell.Utility.Amount
import SlotServer.Shell.Utility.Basic

/-!
# Utilities that show files

Programs that write files whole or in part: from their start, from their end, backwards, with
numbers in front of the lines, or folded to a width.
-/

namespace SlotServer.Shell.Utility

open Pattern (code)
open Work

/-! ## Whole files -/

/-- How bytes are made visible. -/
structure Visibility where
  ends : Bool
  tabs : Bool
  others : Bool

def Visibility.show (v : Visibility) (b : UInt8) : Bytes :=
  let low (b : UInt8) : Bytes :=
    if b < 0x20 then [code '^', b + 0x40] else if b = 0x7F then [code '^', code '?'] else [b]
  if b = 0x09 then if v.tabs then [code '^', code 'I'] else [b]
  else if !v.others then [b]
  else if 0x80 ≤ b then [code 'M', code '-'] ++ low (b - 0x80)
  else low b

def Visibility.showLine (v : Visibility) (line : Bytes) : Bytes :=
  let inside := bare line
  let isEnded := inside.length < line.length
  let returns := v.ends && isEnded && !v.others && inside.getLast? = some 0x0D
  let shown := (if returns then inside.dropLast else inside).flatMap v.show
  let shown := if returns then shown ++ [code '^', code 'M'] else shown
  shown ++ (if isEnded then (if v.ends then [code '$'] else []) ++ [0x0A] else [])

/-- Leaves out empty lines that follow an empty line. -/
def squeezeLines (before : Bool) : List Bytes → List Bytes
  | [] => []
  | line :: rest =>
    let isEmpty := line = [0x0A]
    if isEmpty && before then squeezeLines true rest
    else line :: squeezeLines isEmpty rest

/-- How lines are shown, given the number of the first one. -/
structure Showing where
  visibility : Visibility
  numbers : Bool
  /-- Whether empty lines get no number. -/
  sparesEmpty : Bool

def Showing.showAll (s : Showing) : Nat → List Bytes → List Bytes
  | _, [] => []
  | n, line :: rest =>
    if s.numbers && !(s.sparesEmpty && line = [0x0A]) then
      let number := Utf8.encodeString (padLeft 6 (toString n) ++ "\t")
      (number ++ s.visibility.showLine line) :: s.showAll (n + 1) rest
    else s.visibility.showLine line :: s.showAll n rest

def cat : Program := fun args => do
  let table : OptionTable :=
    { letters := "AbeEnstTuv"
      names := [("show-all", "A"), ("number-nonblank", "b"), ("show-ends", "E"), ("number", "n"),
        ("squeeze-blank", "s"), ("show-tabs", "T"), ("show-nonprinting", "v")] }
  let o ← options table args
  let visibility : Visibility :=
    ⟨o.hasAny ["A", "e", "E"], o.hasAny ["A", "t", "T"], o.hasAny ["A", "e", "t", "v"]⟩
  let showing : Showing := ⟨visibility, o.hasAny ["n", "b"], o.has "b"⟩
  let isPlain := !o.hasAny ["A", "b", "e", "E", "n", "s", "t", "T", "v"]
  if isPlain then
    for file in filesOrInput o.operands do
      if ← isOutput file false then
        complain s!"{Quoting.ifNeeded file}: input file is output file"
      else
        match ← readOrComplain? file with
        | some bytes => put bytes
        | none => pure ()
  else
    let list := lines (← readAll o.operands)
    let list := if o.has "s" then squeezeLines false list else list
    put (showing.showAll 1 list).flatten

def pieces (separator : Bytes) : Nat → Bytes → Bytes → List Bytes
  | 0, piece, _ => [piece.reverse]
  | _ + 1, piece, [] => if piece.isEmpty then [] else [piece.reverse]
  | steps + 1, piece, b :: rest =>
    if separator.isPrefixOf (b :: rest) then
      (piece.reverse ++ separator) ::
        pieces separator steps [] (rest.drop (separator.length - 1))
    else pieces separator steps (b :: piece) rest

def piecesBefore (separator : Bytes) (bytes : Bytes) : List Bytes :=
  let list := pieces separator (bytes.length + 1) [] bytes
  let ended := list.map fun p => separator.isSuffixOf p
  let cores := (list.zip ended).map fun (p, isEnded) =>
    if isEnded then p.take (p.length - separator.length) else p
  let cores := if ended.getLast? = some true then cores ++ [[]] else cores
  match cores with
  | [] => []
  | first :: rest => first :: rest.map (separator ++ ·)

/-- Writes the lines of each file backwards. -/
def tac : Program := fun args => do
  let table : OptionTable :=
    { letters := "brs:", names := [("before", "b"), ("regex", "r"), ("separator=", "s")] }
  let o ← options table args
  let separator := Utf8.encodeString ((o.value? "s").getD "\n")
  let separator := if separator.isEmpty then [0] else separator
  for file in filesOrInput o.operands do
    match ← read file with
    | .ok bytes =>
      let list := if o.has "b" then piecesBefore separator bytes
        else pieces separator (bytes.length + 1) [] bytes
      put list.reverse.flatten
    | .error (.opening error) =>
      complain s!"failed to open {Quoting.always file} for reading: {error.description}"
    | .error (.reading _) =>
      complain s!"{Quoting.ifNeeded file}: read error: Invalid argument"

def rev : Program := fun args => do
  let o ← options { letters := "0" } args
  for file in filesOrInput o.operands do
    match ← read file with
    | .ok bytes =>
      put ((lines bytes).flatMap fun line =>
        let inside := bare line
        inside.reverse ++ line.drop inside.length)
    | .error (.opening error) => complain s!"cannot open {file}: {error.description}"
    | .error (.reading error) => complain s!"{file}: {error.description}"

/-! ## Parts of files -/

/-- How much of a file is wanted. -/
structure Extent where
  count : Nat
  ofBytes : Bool
  /-- Counted from the other end: all but so much of the end, or all from a certain part on. -/
  isReversed : Bool

/-- The lines of bytes, or the pieces that end in a NUL. -/
def linesOr (zero : Bool) (bytes : Bytes) : List Bytes :=
  if zero then pieces [0] (bytes.length + 1) [] bytes else lines bytes

def Extent.start (e : Extent) (zero : Bool) (bytes : Bytes) : Bytes × Bytes :=
  if e.ofBytes then
    let n := if e.isReversed then bytes.length - e.count else e.count
    bytes.splitAt n
  else
    let list := linesOr zero bytes
    let n := if e.isReversed then list.length - e.count else e.count
    ((list.take n).flatten, (list.drop n).flatten)

def Extent.finish (e : Extent) (zero : Bool) (bytes : Bytes) : Bytes :=
  if e.ofBytes then
    bytes.drop (if e.isReversed then e.count - 1 else bytes.length - e.count)
  else
    let list := linesOr zero bytes
    (list.drop (if e.isReversed then e.count - 1 else list.length - e.count)).flatten

def extentOf (text : String) (ofBytes isReversed : Bool) : Work Extent := do
  let unit := if ofBytes then "bytes" else "lines"
  match Amount.ofText text with
  | .ok n => return ⟨n, ofBytes, isReversed⟩
  | .error .invalid => fail s!"invalid number of {unit}: {Quoting.literal text}"
  | .error .tooLarge =>
    let shown := Quoting.literal text
    fail s!"invalid number of {unit}: {shown}: Value too large for defined data type"

def shownName (file : String) : String := if file = "-" then "standard input" else file

/-- Writes parts of files, with their names above them if `named` says so. -/
def parts (files : List String) (named : Bool) (wanted : Nat)
    (part : String → Bytes → Work Bytes) : Work Unit := do
  let mut isFirst := true
  for file in filesOrInput files do
    let heading := (if isFirst then "" else "\n") ++ s!"==> {shownName file} <==\n"
    match ← read file wanted with
    | .ok bytes =>
      if named then putText heading
      isFirst := false
      put (← part file bytes)
    | .error (.opening error) =>
      complain s!"cannot open {Quoting.always file} for reading: {error.description}"
    | .error (.reading error) =>
      if named then putText heading
      isFirst := false
      complain s!"error reading {Quoting.always (shownName file)}: {error.description}"

/-- Whether names are written above parts of files. -/
def areNamed (o : Options) : Bool :=
  match o.last? ["q", "v"] with
  | some option => option = "v"
  | none => 1 < o.operands.length

def partOptions : OptionTable where
  letters := "c:n:qvz"
  names := [("bytes=", "c"), ("lines=", "n"), ("quiet", "q"), ("silent", "q"), ("verbose", "v"),
    ("zero-terminated", "z")]

/-- An argument that begins with a digit after its hyphen, as it would be written with options. -/
def headArgument (digits letters : List Char) : Work (List String) := do
  let option := fun (c : Char) => c = 'c' || c = 'b' || c = 'k' || c = 'm'
  let unit := letters.filter option
  let scale := (unit.filter (· ≠ 'c')).getLast?
  let flags := letters.filter fun c => c = 'q' || c = 'v' || c = 'z'
  match letters.find? fun c => !"bckmlqvz".toList.contains c with
  | some c => misuse s!"invalid trailing option -- {c}"
  | none =>
    let amount := String.ofList (digits ++ scale.toList)
    return [if unit.isEmpty then s!"-n{amount}" else s!"-c{amount}"] ++
      flags.map fun c => s!"-{c}"

/-- Writes the first part of files. -/
def head : Program := fun args => do
  let args ←
    match args with
    | first :: rest =>
      match first.toList with
      | '-' :: c :: more =>
        if c.isDigit then do
          let digits := (c :: more).takeWhile Char.isDigit
          let given ← headArgument digits ((c :: more).drop digits.length)
          pure (given ++ rest)
        else pure args
      | _ => pure args
    | [] => pure args
  let table := { partOptions with letters := "c:n:qvz0123456789" }
  let o ← options table args
  match o.given.find? fun (name, _) => name.toList.all Char.isDigit && !name.isEmpty with
  | some (digit, _) => misuse s!"invalid trailing option -- {digit}"
  | none =>
    let extents ← (o.given.filter fun (n, _) => n = "c" || n = "n").mapM fun (option, value) =>
      let isReversed := value.startsWith "-"
      let amount := if isReversed then (value.drop 1).copy else value
      extentOf amount (option = "c") isReversed
    let e := extents.getLast?.getD ⟨10, false, false⟩
    parts o.operands (areNamed o) (if e.ofBytes then e.count else 0) fun file bytes => do
      let (start, rest) := e.start (o.has "z") bytes
      if file = "-" then giveBack rest
      return start

/-- An argument of `tail` that is an amount after a sign, as it would be written with options. -/
def tailArgument? (sign : Char) (text : List Char) : Option (List String) :=
  let digits := text.takeWhile Char.isDigit
  let letters := (text.drop digits.length).filter (· ≠ 'f')
  let amount := String.ofList (if digits.isEmpty then ['1', '0'] else digits)
  let value (option : String) (scale : String) : List String :=
    let signed := if sign = '+' then s!"+{amount}{scale}" else amount ++ scale
    [s!"-{option}{signed}"]
  match letters with
  | [] => if digits.isEmpty then none else some (value "n" "")
  | ['l'] => some (value "n" "")
  | ['c'] => if sign = '-' && digits.isEmpty then none else some (value "c" "")
  | ['b'] => some (value "c" "b")
  | _ => none

/-- Writes the last part of files. -/
def tail : Program := fun args => do
  let args :=
    match args with
    | [] => args
    | first :: rest =>
      match first.toList with
      | sign :: more =>
        let isOld := (sign = '+' || sign = '-') && rest.length ≤ 1 &&
          !(rest.any fun a => a.startsWith "-" && a ≠ "-")
        match if isOld then tailArgument? sign more else none with
        | some given => given ++ rest
        | none => args
      | [] => args
  let table :=
    { partOptions with
      letters := "c:fFn:qs:vz0123456789"
      names := partOptions.names ++ [("follow=?", "f"), ("pid=", "pid"), ("retry", "retry"),
        ("sleep-interval=", "s"), ("max-unchanged-stats=", "max")] }
  let o ← options table args
  match o.given.find? fun (name, _) => name.toList.all Char.isDigit && !name.isEmpty with
  | some (digit, _) => fail s!"option used in invalid context -- {digit}"
  | none =>
    let extents ← (o.given.filter fun (n, _) => n = "c" || n = "n").mapM fun (option, value) =>
      let isReversed := value.startsWith "+"
      let amount := if value.startsWith "-" then (value.drop 1).copy else value
      extentOf amount (option = "c") isReversed
    let e := extents.getLast?.getD ⟨10, false, false⟩
    parts o.operands (areNamed o) 0 fun _ bytes => return e.finish (o.has "z") bytes

/-! ## Lines with numbers, lines of a width -/

def wholeNumber (what text : String) (least : Int := 0) (greatest : Int := 2147483647) :
    Work Int := do
  let shown := text.toList.dropWhile (· = ' ')
  let (negative, digits) : Bool × List Char :=
    match shown with
    | '-' :: digits => (true, digits)
    | '+' :: digits => (false, digits)
    | digits => (false, digits)
  match Text.digits 10 digits with
  | (d :: ds, []) =>
    let n : Int := Text.ofDigits 10 (d :: ds)
    let n := if negative then -n else n
    if n < least || greatest < n then
      fail s!"invalid {what}: {Quoting.literal text}: Numerical result out of range"
    else return n
  | _ => fail s!"invalid {what}: {Quoting.literal text}"

/-- Writes the lines of files with numbers in front of them. -/
def nl : Program := fun args => do
  let table : OptionTable :=
    { letters := "b:d:f:h:i:l:n:ps:v:w:"
      names := [("body-numbering=", "b"), ("section-delimiter=", "d"), ("footer-numbering=", "f"),
        ("header-numbering=", "h"), ("line-increment=", "i"), ("join-blank-lines=", "l"),
        ("number-format=", "n"), ("no-renumber", "p"), ("number-separator=", "s"),
        ("starting-line-number=", "v"), ("number-width=", "w")] }
  let o ← options table args
  let style := (o.value? "b").getD "t"
  if !(["a", "t", "n"].contains style) then
    misuse s!"invalid body numbering style: {Quoting.literal style}"
  let format := (o.value? "n").getD "rn"
  if !(["ln", "rn", "rz"].contains format) then
    misuse s!"invalid line numbering format: {Quoting.literal format}"
  let width ← wholeNumber "line number field width" ((o.value? "w").getD "6") 1
  let width := width.toNat
  let increment ← wholeNumber "line number increment" ((o.value? "i").getD "1") (-2147483648)
  let first ← wholeNumber "starting line number" ((o.value? "v").getD "1") (-2147483648)
  let separator := (o.value? "s").getD "\t"
  let shown (n : Int) : String :=
    match format with
    | "ln" => padRight width (toString n)
    | "rz" =>
      let digits := toString n.natAbs
      let sign := if n < 0 then "-" else ""
      let zeros := List.replicate (width - sign.length - digits.length) '0'
      sign ++ String.ofList zeros ++ digits
    | _ => padLeft width (toString n)
  let blank := String.ofList (List.replicate (width + separator.utf8ByteSize) ' ')
  let mut n := first
  for line in lines (← readAll o.operands) do
    let isNumbered := style = "a" || (style = "t" && bare line ≠ [])
    if isNumbered then
      putText (shown n ++ separator)
      n := n + increment
    else putText blank
    put (full line)

def columnAfter (byBytes : Bool) (column : Nat) (b : UInt8) : Nat :=
  if byBytes then column + 1
  else if b = 0x08 then column - 1
  else if b = 0x0D then 0
  else if b = 0x09 then column + 8 - column % 8
  else column + 1

/-- Folds a line without its newline to a width. `row` has what is in the row so far, backwards. -/
def foldLine (byBytes atBlanks : Bool) (width : Nat) :
    Nat → Bytes → Nat → Bytes → List Bytes
  | 0, row, _, rest => [row.reverse ++ rest]
  | _ + 1, row, _, [] => [row.reverse]
  | steps + 1, row, column, b :: rest =>
    let next := columnAfter byBytes column b
    if next ≤ width || row.isEmpty then foldLine byBytes atBlanks width steps (b :: row) next rest
    else
      let kept := row.dropWhile fun c => c ≠ 0x20 && c ≠ 0x09
      if atBlanks && !kept.isEmpty then
        let moved := row.take (row.length - kept.length)
        let column := moved.reverse.foldl (columnAfter byBytes) 0
        kept.reverse :: foldLine byBytes atBlanks width steps moved column (b :: rest)
      else row.reverse :: foldLine byBytes atBlanks width steps [] 0 (b :: rest)

/-- Folds the lines of files to a width. -/
def fold : Program := fun args => do
  let table : OptionTable :=
    { letters := "bsw:0123456789", names := [("bytes", "b"), ("spaces", "s"), ("width=", "w")] }
  let o ← options table args
  let digits := (o.given.filter fun (n, _) => n.toList.all Char.isDigit).map Prod.fst
  let width? := if digits.isEmpty then o.value? "w" else some ("".intercalate digits)
  let text := width?.getD "80"
  let width ←
    match Amount.ofText text with
    | .ok n => if n = 0 then fail s!"invalid number of columns: {Quoting.literal text}" else pure n
    | .error _ => fail s!"invalid number of columns: {Quoting.literal text}"
  for file in filesOrInput o.operands do
    match ← readOrComplain? file with
    | some bytes =>
      for line in lines bytes do
        let inside := bare line
        let steps := 2 * inside.length + 2
        let rows := foldLine (o.has "b") (o.has "s") width steps [] 0 inside
        put ([(0x0A : UInt8)].intercalate rows ++ line.drop inside.length)
    | none => pure ()

/-- Tabs as blanks: every tab goes to the next of the stops, or to a multiple of `every`. -/
def expandLine (every : Nat) (stops : List Nat) (onlyFirst : Bool) :
    Nat → Bool → Bytes → Bytes
  | _, _, [] => []
  | column, isInside, b :: rest =>
    if b = 0x09 && !(onlyFirst && isInside) then
      let next :=
        match stops.find? (column < ·) with
        | some stop => stop
        | none =>
          if stops.length ≤ 1 then column + every - column % every else column + 1
      List.replicate (next - column) 0x20 ++ expandLine every stops onlyFirst next isInside rest
    else
      let column := if b = 0x08 then column - 1 else column + 1
      b :: expandLine every stops onlyFirst column (isInside || b ≠ 0x20) rest

/-- Writes files with blanks in place of tabs. -/
def expand : Program := fun args => do
  let table : OptionTable :=
    { letters := "it:0123456789", names := [("initial", "i"), ("tabs=", "t")] }
  let o ← options table args
  let digits := (o.given.filter fun (n, _) => n.toList.all Char.isDigit).map Prod.fst
  let text := if digits.isEmpty then (o.value? "t").getD "8" else "".intercalate digits
  let stops := (text.toList.splitBy fun a b => a.isDigit && b.isDigit).filter fun part =>
    part.all Char.isDigit
  if text.any fun c => !c.isDigit && c ≠ ',' && c ≠ ' ' then
    fail s!"tab size contains invalid character(s): {Quoting.literal text}"
  let stops := stops.map fun part => (String.ofList part).toNat?.getD 0
  if stops.contains 0 then fail "tab size cannot be 0"
  let every := if stops.length = 1 then stops.headD 8 else 8
  let list := if stops.length = 1 then [] else stops
  for line in lines (← readAll o.operands) do
    put (expandLine every list (o.has "i") 0 false line)

/-- Writes its input to files and to the standard output. -/
def tee : Program := fun args => do
  let table : OptionTable :=
    { letters := "aip"
      names := [("append", "a"), ("ignore-interrupts", "i"), ("output-error=?", "p")] }
  let o ← options table args
  let opened ← o.operands.mapM fun file => do
    match ← create file (!o.has "a") with
    | .ok number => return some (file, number)
    | .error error =>
      complain s!"{Quoting.ifNeeded file}: {error.description}"
      return none
  let bytes ←
    match ← input with
    | .ok bytes => pure bytes
    | .error error => fail s!"read error: {error.description}"
  put bytes
  for (file, number) in opened.filterMap id do
    match ← append file number bytes with
    | .ok () => pure ()
    | .error error => complain s!"{Quoting.ifNeeded file}: {error.description}"

end SlotServer.Shell.Utility
