import SlotServer.Shell.Utility.Amount
import SlotServer.Shell.Utility.Paths

/-!
# Utilities that run programs

Programs that run other ones: with other variables, with arguments that they read, for a limited
time, or with less haste.
-/

namespace SlotServer.Shell.Utility

open Work

/-! ## Durations -/

/-- The seconds of a unit, by its letter. -/
def durationUnits : List (Char × Nat) := [('s', 1), ('m', 60), ('h', 3600), ('d', 86400)]

/-- A duration, in billionths of a second. -/
def duration? (text : String) : Option Nat :=
  let (unit, digits) : Nat × List Char :=
    match text.toList.getLast? with
    | some c =>
      match durationUnits.lookup c with
      | some unit => (unit, text.toList.dropLast)
      | none => (1, text.toList)
    | none => (1, [])
  let billion := 1000000000
  let (whole, rest) := Text.digits 10 (if digits.head? = some '+' then digits.drop 1 else digits)
  match rest with
  | [] => if whole.isEmpty then none else some (Text.ofDigits 10 whole * unit * billion)
  | '.' :: fraction =>
    match Text.digits 10 fraction with
    | (places, []) =>
      if whole.isEmpty && places.isEmpty then none
      else
        let scale := places.foldl (fun n _ => 10 * n) 1
        some (Text.ofDigits 10 whole * unit * billion +
          Text.ofDigits 10 places * unit * billion / scale)
    | _ => none
  | _ => if digits.map Char.toLower = "inf".toList || digits.map Char.toLower = "infinity".toList
    then some (1000000 * 86400 * billion) else none

/-- Lets time pass. -/
def sleep : Program := fun args => do
  let o ← options { letters := "" } args
  if o.operands.isEmpty then misuse "missing operand"
  let wrong := o.operands.filter fun text => (duration? text).isNone
  for text in wrong do complain s!"invalid time interval {Quoting.literal text}"
  if !wrong.isEmpty then
    warn s!"Try '{(← get).name} --help' for more information."
    raise 1

/-! ## Words -/

/-- What was read of words in which quotes and backslashes keep blanks. -/
structure WordReading where
  /-- The words, the last one first, each with whether a line ends after it. -/
  words : List (Bytes × Bool)
  /-- The word that is being read, its last byte first. -/
  word : Option Bytes
  quote : Option UInt8
  isEscaped : Bool
  /-- A quote that its line does not end. -/
  fault : Option UInt8

namespace WordReading

def start : WordReading := ⟨[], none, none, false, none⟩

def add (r : WordReading) (b : UInt8) : WordReading :=
  { r with word := some (b :: r.word.getD []), isEscaped := false }

def endWord (r : WordReading) (endsLine : Bool) : WordReading :=
  match r.word with
  | some word => { r with words := (word.reverse, endsLine) :: r.words, word := none }
  | none => r

/-- One more byte read. Blanks belong to the words if `byLines` is set. -/
def step (byLines : Bool) (r : WordReading) (b : UInt8) : WordReading :=
  let c := Quoting.shown b
  if r.fault.isSome then r
  else if r.isEscaped then r.add b
  else
    match r.quote with
    | some q =>
      if b = q then { r with quote := none }
      else if c = '\n' then { r with fault := some q, word := none }
      else r.add b
    | none =>
      if c = '\\' then { r with isEscaped := true, word := some (r.word.getD []) }
      else if c = '\'' || c = '"' then { r with quote := some b, word := some (r.word.getD []) }
      else if c = '\n' then r.endWord true
      else if c = ' ' || c = '\t' then
        if byLines then (if r.word.isSome then r.add b else r) else r.endWord false
      else r.add b

/-- The words of bytes, each with whether a line ends after it, and a quote that was not ended. -/
def read (byLines : Bool) (bytes : Bytes) : List (Bytes × Bool) × Option UInt8 :=
  let r := bytes.foldl (step byLines) start
  let r := match r.quote with
    | some q => if r.fault.isNone then { r with fault := some q, word := none } else r
    | none => r
  ((r.endWord true).words.reverse, r.fault)

end WordReading

/-! ## Variables -/

def withVariable (bindings : List (String × String)) (name value : String) :
    List (String × String) :=
  if (bindings.lookup name).isSome then
    bindings.map fun (n, v) => (n, if n = name then value else v)
  else bindings ++ [(name, value)]

/-- The status of a program that does nothing after it ran another one. -/
def errandStatus (statuses : List Nat) (own : Nat) : Nat := statuses.headD own

/-- Runs a program and ends with its status. Where it cannot be run, `verb` and its name say so. -/
def become (arguments : List String) (verb : String) (environment : List (String × String))
    (directory : Option (List String) := none) : Work Unit :=
  modify fun p =>
    let complaint (name : String) : String := s!"{p.name}: {verb}{Quoting.always name}"
    { p.send { arguments, environment, directory, complaint } with judge := errandStatus }

/-- Runs a program with other variables, or writes the variables. -/
def env : Program := fun args => do
  let table : OptionTable :=
    { letters := "+iu:0C:S:v"
      names := [("ignore-environment", "i"), ("null", "0"), ("unset=", "u"), ("chdir=", "C"),
        ("debug", "v"), ("split-string=", "S"), ("default-signal=?", "signal"),
        ("ignore-signal=?", "signal"), ("block-signal=?", "signal")]
      endsAtOperand := true }
  let o ← options table args 125
  let split := (o.value? "S").map fun text =>
    ((WordReading.read false (Utf8.encodeString text)).1.map fun (word, _) => textOf word)
  let operands := split.getD [] ++ o.operands
  let (isEmpty, operands) :=
    if operands.head? = some "-" then (true, operands.drop 1) else (o.has "i", operands)
  let environment := (← get).environment
  let given := if isEmpty then [] else environment
  let kept := given.filter fun (name, _) => !(o.values "u").contains name
  let settings := operands.takeWhile fun a => a.toList.contains '='
  let bindings := settings.foldl (fun bindings a =>
    let name := a.toList.takeWhile (· ≠ '=')
    withVariable bindings (String.ofList name) (String.ofList (a.toList.drop (name.length + 1))))
    kept
  let directory ←
    match o.value? "C" with
    | none => pure none
    | some path =>
      match ← lookUp? path with
      | .ok (place, .directory) => pure (some place)
      | .ok _ => fail s!"cannot change directory to {Quoting.always path}: Not a directory" 125
      | .error error =>
        fail s!"cannot change directory to {Quoting.always path}: {error.description}" 125
  match operands.drop settings.length with
  | [] =>
    if directory.isSome then misuse "must specify command with --chdir (-C)" 125
    for (name, value) in bindings do
      put (Utf8.encodeString s!"{name}={value}" ++ [if o.has "0" then 0 else 0x0A])
  | command =>
    if o.has "0" then misuse "cannot specify --null (-0) with command" 125
    become command "" bindings directory

/-! ## Other ways of running a program -/

def nice : Program := fun args => do
  let table : OptionTable :=
    { letters := "n:1::2::3::4::5::6::7::8::9::", names := [("adjustment=", "n")]
      endsAtOperand := true }
  let o ← options table args 125
  match o.value? "n" with
  | some text =>
    if text.toInt?.isNone && !(text.startsWith "+") then
      fail s!"invalid adjustment {Quoting.literal text}" 125
  | none => pure ()
  match o.operands with
  | [] =>
    if o.given.isEmpty then putLine "0"
    else misuse "a command must be given with an adjustment" 125
  | command => become command "" (← get).environment

/-- Runs a program that goes on after its shell has ended. -/
def nohup : Program := fun args => do
  let o ← options { letters := "", endsAtOperand := true } args 125
  if o.operands.isEmpty then misuse "missing operand" 125
  become o.operands "failed to run command " (← get).environment

/-- Runs a program in a group of processes of its own. -/
def setsid : Program := fun args => do
  let table : OptionTable :=
    { letters := "cfw", names := [("ctty", "c"), ("fork", "f"), ("wait", "w")]
      endsAtOperand := true }
  let o ← options table args
  if o.operands.isEmpty then fail "no command specified"
  become o.operands "failed to execute " (← get).environment

/-- Runs a program for a limited time. Only a program that does nothing but let time pass takes
longer than none. -/
def timeout : Program := fun args => do
  let table : OptionTable :=
    { letters := "k:s:v"
      names := [("foreground", "foreground"), ("kill-after=", "k"), ("preserve-status", "kept"),
        ("signal=", "s"), ("verbose", "v")]
      endsAtOperand := true }
  let o ← options table args 125
  let name := (← get).name
  let hint := s!"Try '{name} --help' for more information."
  match o.operands with
  | limit :: command :: rest =>
    match duration? limit with
    | none => misuse s!"invalid time interval {Quoting.literal limit}" 125
    | some most =>
      let isKill := ["KILL", "9", "SIGKILL"].contains ((o.value? "s").getD "")
      let taken := if lastPart command = "sleep" then
          rest.foldl (fun n text => n + (duration? text).getD 0) 0 else 0
      let isOver := most ≠ 0 && most < taken && rest.all fun text => (duration? text).isSome
      if isOver then
        if isKill then
          warn "Killed"
          raise 137
        else raise (if o.has "kept" then 143 else 124)
      else become (command :: rest) "failed to run command " (← get).environment
  | _ =>
    warn hint
    raise 125

/-! ## Arguments that are read -/

def replaced (part value : List Char) : Nat → List Char → List Char
  | 0, text => text
  | _ + 1, [] => []
  | steps + 1, c :: rest =>
    if !part.isEmpty && part.isPrefixOf (c :: rest) then
      value ++ replaced part value steps ((c :: rest).drop part.length)
    else c :: replaced part value steps rest

/-- The byte that a text says words end with. -/
def delimiter? (text : String) : Option UInt8 :=
  match text.toList with
  | [c] => some (code c)
  | ['\\', 'n'] => some 0x0A
  | ['\\', 't'] => some 0x09
  | ['\\', 'r'] => some 0x0D
  | ['\\', '0'] => some 0
  | ['\\', '\\'] => some 0x5C
  | _ => none

/-- Bytes cut at a byte that ends each piece; nothing after the last one is no piece. -/
def cutAt (b : UInt8) (bytes : Bytes) : List Bytes :=
  let pieces := Text.splitAt b bytes
  if pieces.getLast? = some [] then pieces.dropLast else pieces

def byLineCount (count : Nat) : List (Bytes × Bool) → Nat → List Bytes → List (List Bytes)
  | [], _, group => if group.isEmpty then [] else [group.reverse]
  | (word, endsLine) :: rest, seen, group =>
    let seen := if endsLine then seen + 1 else seen
    if count ≤ seen then (word :: group).reverse :: byLineCount count rest 0 []
    else byLineCount count rest seen (word :: group)

/-- Groups of words: so many in each, and so many bytes with a byte after each word. -/
def bySize (count room : Nat) : List Bytes → Nat → Nat → List Bytes → List (List Bytes)
  | [], _, _, group => if group.isEmpty then [] else [group.reverse]
  | word :: rest, number, size, group =>
    let more := size + word.length + 1
    if !group.isEmpty && (count ≤ number || room < more) then
      group.reverse :: bySize count room rest 1 (word.length + 1) [word]
    else bySize count room rest (number + 1) more (word :: group)

/-- The most bytes of arguments for one program. -/
def maxArguments : Nat := 131072

/-- Runs programs one after another until one of them says that all shall end; each is shown first
if `shows` says so. -/
def chain (name : String) (shows : Bool) : List Errand → List Output
  | [] => []
  | errand :: rest =>
    let line := " ".intercalate (errand.arguments.map Quoting.ifNeeded) ++ "\n"
    (if shows then [.error (Utf8.encodeString line)] else []) ++ [.errand errand fun status _ =>
      if status = 255 then
        let command := errand.arguments.headD ""
        [.error (Utf8.encodeString s!"{name}: {command}: exited with status 255; aborting\n")]
      else if status = 126 || status = 127 then []
      else chain name shows rest]

/-- The status of a program that runs many, from theirs. -/
def manyStatus (statuses : List Nat) (own : Nat) : Nat :=
  statuses.foldl (fun found status =>
    if status = 0 then found
    else if status = 255 then 124
    else if status = 126 || status = 127 then status
    else if 125 < status then 125
    else if found = 0 then 123 else found) own

/-- The options that say how words are put together, each with what it is called. -/
def groupings : List (String × String) :=
  [("n", "--max-args"), ("L", "--max-lines/-l"), ("I", "--replace/-I/-i")]

def xargs : Program := fun args => do
  let table : OptionTable :=
    { letters := "0a:d:E:e::i::I:l::L:n:prs:txP:"
      names := [("null", "0"), ("arg-file=", "a"), ("delimiter=", "d"), ("eof=?", "e"),
        ("replace=?", "i"), ("max-lines=?", "l"), ("max-args=", "n"), ("interactive", "p"),
        ("no-run-if-empty", "r"), ("max-chars=", "s"), ("verbose", "t"), ("exit", "x"),
        ("max-procs=", "P"), ("show-limits", "limits"), ("process-slot-var=", "slot")]
      endsAtOperand := true }
  let o ← options table args
  let name := (← get).name
  let spelledOut (given : String × String) : String × String :=
    let (option, value) := given
    match option with
    | "i" => ("I", if value.isEmpty then "\x7b\x7d" else value)
    | "l" => ("L", if value.isEmpty then "1" else value)
    | "e" => ("E", value)
    | _ => given
  let o := { o with given := o.given.map spelledOut }
  let number (option : String) (least : Nat) : Work (Option Nat) := do
    match o.value? option with
    | none => return none
    | some text =>
      match text.toNat? with
      | some n =>
        if n < least then misuse s!"value {n} for -{option} option should be >= {least}"
        else return some n
      | none => misuse s!"invalid number \"{text}\" for -{option} option"
  let most? ← number "n" 1
  let lines? ← number "L" 1
  let size? ← number "s" 1
  let _ ← number "P" 0
  let groups := o.given.filterMap fun (option, _) =>
    (groupings.lookup option).map fun what => (option, what)
  let mut last : Option (String × String) := none
  for (option, what) in groups do
    match last with
    | some (before, old) =>
      if before ≠ option then
        warn (s!"{name}: warning: options {old} and {what} are mutually exclusive, " ++
          s!"ignoring previous {old} value")
    | none => pure ()
    last := some (option, what)
  let grouping := (last.map Prod.fst).getD ""
  let file := (o.value? "a").getD "-"
  let bytes ←
    match ← read file with
    | .ok bytes => pure bytes
    | .error fault =>
      fail s!"Cannot open input file {Quoting.always file}: {fault.error.description}"
  let ending ←
    match o.last? ["0", "d"] with
    | none => pure none
    | some "0" => pure (some 0)
    | some _ =>
      let text := (o.value? "d").getD ""
      match delimiter? text with
      | some b => pure (some b)
      | none => fail (s!"Invalid input delimiter specification {text}: the delimiter must be " ++
          "either a single character or an escape sequence starting with \\.")
  let (words, fault) :=
    match ending with
    | some b => ((cutAt b bytes).map fun word => (word, true), none)
    | none => WordReading.read (grouping = "I") bytes
  match fault with
  | some q =>
    let kind := if q = 0x22 then "double" else "single"
    warn (s!"{name}: unmatched {kind} quote; by default quotes are special to xargs unless " ++
      "you use the -0 option")
    raise 1
  | none => pure ()
  let words :=
    match o.value? "E", ending with
    | some eof, none =>
      if eof.isEmpty then words
      else words.takeWhile fun (word, _) => word ≠ Utf8.encodeString eof
    | _, _ => words
  let command := if o.operands.isEmpty then ["echo"] else o.operands
  let environment := (← get).environment
  let input : Option Bytes := if o.has "a" then none else some []
  let complaint (command : String) : String := s!"{name}: {command}"
  let run (arguments : List String) : Errand := { arguments, environment, input, complaint }
  let own := command.foldl (fun n a => n + (Utf8.encodeString a).length + 1) 0
  let room := (size?.getD maxArguments) - own
  let errands : List Errand :=
    if grouping = "I" then
      let mark := ((o.value? "I").getD "").toList
      words.map fun (word, _) =>
        let value := (textOf word).toList
        run (command.map fun a => String.ofList (replaced mark value (a.length + 1) a.toList))
    else
      let groups :=
        if grouping = "L" then byLineCount (lines?.getD 1) words 0 []
        else
          let most := if grouping = "n" then most?.getD 1 else words.length + 1
          bySize most room (words.map Prod.fst) 0 0 []
      let groups := if groups.isEmpty && !o.has "r" && fault.isNone then [[]] else groups
      groups.map fun group => run (command ++ group.map textOf)
  let isTooLong := grouping ≠ "I" && words.any fun (word, _) => room < word.length + 1
  if isTooLong then fail "argument line too long"
  modify fun (p : Process) =>
    { p.emit (chain name (o.has "t") errands) with judge := manyStatus }

end SlotServer.Shell.Utility
