import SlotServer.Shell.Utility.Editor.Reader
import SlotServer.Shell.Utility.Pages

/-!
# Running scripts of the stream editor

Lines are read one after another into a buffer, the commands that are meant for them change it, and
at the end it is written. A second buffer keeps a text from one line to the next.
-/

namespace SlotServer.Shell.Utility.Editor

open Work

/-- A text that is worked on. -/
structure Buffer where
  bytes : Bytes
  /-- Whether a newline belongs after it. -/
  isEnded : Bool

/-- What is written at the end of a cycle. -/
inductive Pending where
  | text (bytes : Bytes)
  | file (path : String)

/-- Something that is written to. -/
structure Sink where
  /-- What was written, the last piece first. -/
  pieces : List Bytes
  /-- Whether the last line still lacks its newline. -/
  isOpen : Bool

/-- Writes to a sink, after the newline that is lacking. -/
def Sink.put (s : Sink) (bytes : Bytes) : Sink :=
  ⟨bytes :: (if s.isOpen then [0x0A] :: s.pieces else s.pieces), false⟩

def Sink.putLine (s : Sink) (b : Buffer) (ending : UInt8) : Sink :=
  if b.isEnded then s.put (b.bytes ++ [ending]) else { s.put b.bytes with isOpen := true }

def splitLine (ending : UInt8) (bytes : Bytes) : Bytes × Option Bytes :=
  let first := bytes.takeWhile (· ≠ ending)
  (first, (bytes.drop first.length).tail?)

def Buffer.first (b : Buffer) (ending : UInt8) : Buffer :=
  match splitLine ending b.bytes with
  | (_, none) => b
  | (first, some _) => ⟨first, true⟩

/-- The path by which a script means the standard output. -/
def standardOutput : String := "/dev/stdout"

/-- How scripts are run. -/
structure Manner where
  script : Script
  /-- The byte that ends lines. -/
  ending : UInt8
  /-- The width of listed lines. -/
  width : Nat
  /-- Whether the files are changed, and nothing is written to the standard output. -/
  isInPlace : Bool

/-- The state of an editor. -/
structure State where
  line : Buffer
  held : Buffer
  /-- The lines that are left to read, each with its file. -/
  input : List (String × Bytes)
  file : String
  number : Nat
  /-- For every command whether its range is open, and the line where it ends if that is known. -/
  ranges : Array (Bool × Option Nat)
  pending : List Pending
  replaced : Bool
  /-- The expression that was used last. -/
  used : Option Regular
  output : Sink
  files : List (String × Sink)
  /-- What is left of the files that are read line by line. -/
  sources : List (String × List Bytes)

abbrev Edit := StateT State Work

/-- What comes after the commands of a cycle. -/
inductive Outcome where
  /-- The line is written, and the next one is read. -/
  | written
  /-- The next line is read. -/
  | dropped
  /-- The commands are run again on what is left of the line. -/
  | again
  | quit (status : Nat) (isWritten : Bool)

namespace Edit

def emit (bytes : Bytes) : Edit Unit := modify fun s => { s with output := s.output.put bytes }

/-- Writes a line to a file. A newline that is lacking in the file is added first; so it is with the
standard output where a script means it by its path. -/
def writeTo (m : Manner) (path : String) (b : Buffer) : Edit Unit := do
  let s ← get
  let sink := (s.files.lookup path).getD ⟨[], false⟩
  let others := s.files.filter fun (p, _) => p != path
  let written := sink.putLine b m.ending
  if path = standardOutput then
    set { s with files := (path, ⟨[], written.isOpen⟩) :: others }
    let bytes := written.pieces.reverse.flatten
    if m.isInPlace then (Work.put bytes : Work Unit)
    else modify fun s => { s with output := { s.output with pieces := bytes :: s.output.pieces } }
  else set { s with files := (path, written) :: others }

/-- Writes what was kept for the end of the cycle. -/
def dump : Edit Unit := do
  let pending := (← get).pending
  modify fun s => { s with pending := [] }
  for item in pending do
    match item with
    | .text bytes => emit bytes
    | .file path =>
      match ← (Work.read path : Work _) with
      | .ok bytes => if !bytes.isEmpty then emit bytes
      | .error _ => pure ()

/-- Reads the next line, which takes the place of the buffer or is added to it. -/
def pull (m : Manner) (isAdded : Bool) : Edit Bool := do
  dump
  let s ← get
  match s.input with
  | [] => return false
  | (file, raw) :: input =>
    let isEnded := raw.getLast? = some m.ending
    let bytes := if isEnded then raw.dropLast else raw
    let bytes := if isAdded then s.line.bytes ++ [m.ending] ++ bytes else bytes
    set { s with
      line := ⟨bytes, isEnded⟩, input, file, number := s.number + 1, replaced := false }
    return true

def isLast : Edit Bool := return (← get).input.isEmpty

/-! ## Addresses -/

def regularOf (e : Expression) : Edit Regular := do
  match e.regular with
  | some regular =>
    modify fun s => { s with used := some regular }
    return regular
  | none =>
    match (← get).used with
    | some regular => return regular
    | none =>
      let fault : Work Regular :=
        Work.fail "-e expression #1, char 0: no previous regular expression"
      fault

def fits (e : Expression) : Edit Bool := do
  let regular ← regularOf e
  let subject := regular.subject e.foldsCase e.hasLines (← get).line.bytes
  return (subject.find? regular).isSome

def isAt (a : Address) : Edit Bool := do
  match a with
  | .line n => return (← get).number = n
  | .steps first step =>
    let n := (← get).number
    return first ≤ n && (n - first) % step = 0
  | .last => isLast
  | .fits e => fits e

def isMeant (index : Nat) (c : Command) : Edit Bool := do
  match c.first with
  | none => return true
  | some first =>
    match c.last with
    | none => isAt first
    | some bound =>
      let n := (← get).number
      let note (isOpen : Bool) (finish : Option Nat) : Edit Unit :=
        modify fun s => { s with ranges := s.ranges.setIfInBounds index (isOpen, finish) }
      let (isOpen, finish) := ((← get).ranges[index]?).getD (false, none)
      if isOpen then
        match finish, bound with
        | some finish, _ =>
          if finish ≤ n then note false none
          return n ≤ finish
        | none, .last =>
          if ← isLast then note false none
          return true
        | none, .fits e =>
          if ← fits e then note false none
          return true
        | none, _ => return true
      else if ← isAt first then
        match bound with
        | .line m => if n < m then note true (some m)
        | .after m => if 0 < m then note true (some (n + m))
        | .multiple m => if 0 < m && n % m ≠ 0 then note true (some (n + m - n % m))
        | _ => note true none
        return true
      else return false

/-! ## Substitution -/

/-- How the case of letters is changed at a point of a replacement. -/
structure CaseState where
  lasting : CaseChange
  once : CaseChange

/-- Changes the case of a text, and gives how the case is changed after it. -/
def CaseState.apply (c : CaseState) (text : Bytes) : Bytes × CaseState :=
  match text with
  | [] => ([], c)
  | b :: rest =>
    let change (b : UInt8) : UInt8 :=
      match c.lasting with
      | .upper => Regular.upper b
      | .lower => Regular.lower b
      | _ => b
    let first :=
      match c.once with
      | .nextUpper => Regular.upper b
      | .nextLower => Regular.lower b
      | _ => change b
    (first :: rest.map change, { c with once := .none })

def replacementOf (s : Regular.Subject) (f : Regular.Found) :
    List Replacement → CaseState → Bytes
  | [], _ => []
  | .text bytes :: rest, c =>
    let (shown, c) := c.apply bytes
    shown ++ replacementOf s f rest c
  | .group n :: rest, c =>
    let (shown, c) := c.apply (s.group f n)
    shown ++ replacementOf s f rest c
  | .change change :: rest, c =>
    match change with
    | .nextUpper => replacementOf s f rest { c with once := change }
    | .nextLower => replacementOf s f rest { c with once := change }
    | .none => replacementOf s f rest ⟨.none, .none⟩
    | change => replacementOf s f rest { c with lasting := change }

/-- Replaces the texts that fit, from a place on. `count` is the number of those before, and
`previous` the end of the last one. Gives the new text from the place on, and whether anything was
replaced. -/
def replaceFrom (s : Regular.Subject) (regular : Regular) (t : Substitution) :
    Nat → Nat → Nat → Option Nat → Bytes × Bool
  | 0, start, _, _ => (s.slice start s.bytes.size, false)
  | steps + 1, start, count, previous =>
    match if s.bytes.size < start then none else s.find? regular start with
    | none => (s.slice start s.bytes.size, false)
    | some f =>
      let before := s.slice start f.first
      let isEmpty := f.first = f.last
      if isEmpty && previous = some f.first then
        let skipped := s.slice f.first (f.first + 1)
        let (rest, replaced) := replaceFrom s regular t steps (f.first + 1) count none
        (before ++ skipped ++ rest, replaced)
      else
        let counts := t.first ≤ count + 1
        let shown := if counts then replacementOf s f t.parts ⟨.none, .none⟩
          else s.slice f.first f.last
        if counts && !t.isGlobal then
          (before ++ shown ++ s.slice f.last s.bytes.size, true)
        else
          let skipped := if isEmpty then s.slice f.last (f.last + 1) else []
          let next := if isEmpty then f.last + 1 else f.last
          let (rest, replaced) := replaceFrom s regular t steps next (count + 1) (some f.last)
          (before ++ shown ++ skipped ++ rest, counts || replaced)

def substitute (m : Manner) (t : Substitution) : Edit Unit := do
  let regular ← regularOf t.expression
  let line := (← get).line
  let subject := regular.subject t.expression.foldsCase t.expression.hasLines line.bytes
  let (bytes, replaced) := replaceFrom subject regular t (line.bytes.length + 2) 0 0 none
  if replaced then
    modify fun s => { s with line := { s.line with bytes }, replaced := true }
    if t.prints then
      modify fun s => { s with output := s.output.putLine s.line m.ending }
    match t.file with
    | some path => writeTo m path (← get).line
    | none => pure ()

/-! ## Commands -/

def listed (b : UInt8) : Bytes :=
  if b = 0x5C then [b, b]
  else if Quoting.isPrintable b then [b]
  else (Quoting.escaped b).map fun c => c.toNat.toUInt8

def listedRows (width : Nat) : List Bytes → Nat → Bytes
  | [], _ => []
  | shown :: rest, column =>
    if 0 < width && width < column + shown.length + 1 then
      [0x5C, 0x0A] ++ shown ++ listedRows width rest shown.length
    else shown ++ listedRows width rest (column + shown.length)

/-- Keeps something for the end of the cycle. -/
def keep (item : Pending) : Edit Unit := modify fun s => { s with pending := s.pending ++ [item] }

/-- Does what a command says, if that leads to the next command; otherwise gives what comes after
the cycle. -/
def perform (m : Manner) (index : Nat) (c : Command) : Edit (Option Outcome) := do
  let go (act : Edit Unit) : Edit (Option Outcome) := do
    act
    return none
  let changeLine (change : Bytes → Bytes) : Edit (Option Outcome) :=
    go (modify fun s => { s with line := { s.line with bytes := change s.line.bytes } })
  match c.operation with
  | .block _ => return none
  | .nothing => return none
  | .jump _ _ => return none
  | .number => go do emit (Utf8.encodeString s!"{(← get).number}\n")
  | .append text => go (keep (.text text))
  | .insert text => go (emit text)
  | .change text =>
    let isOpen := (((← get).ranges[index]?).getD (false, none)).1
    if !isOpen || c.last.isNone || c.isNegated then emit text
    return some .dropped
  | .delete => return some .dropped
  | .deleteFirst =>
    match splitLine m.ending (← get).line.bytes with
    | (_, none) => return some .dropped
    | (_, some rest) =>
      modify fun s => { s with line := { s.line with bytes := rest } }
      return some .again
  | .evaluate command =>
    go do
      let written := (← get).output
      modify fun s => { s with output := ⟨[], written.isOpen⟩ }
      let bindings := (← getThe Process).environment
      let errand : Errand := 
        { arguments := ["sh", "-c", textOf command], environment := bindings
          complaint := fun name => s!"sed: {name}" }
      modifyThe Process fun p => (p.put written.pieces.reverse.flatten).send errand
  | .fileName => go do emit (Utf8.encodeString ((← get).file ++ "\n"))
  | .get => go (modify fun s => { s with line := s.held })
  | .getAppended =>
    go (modify fun s =>
      { s with line := ⟨s.line.bytes ++ [m.ending] ++ s.held.bytes, s.held.isEnded⟩ })
  | .hold => go (modify fun s => { s with held := s.line })
  | .holdAppended =>
    go (modify fun s =>
      { s with held := ⟨s.held.bytes ++ [m.ending] ++ s.line.bytes, s.line.isEnded⟩ })
  | .exchange => go (modify fun s => { s with line := s.held, held := s.line })
  | .list width =>
    go do
      let shown := (← get).line.bytes.map listed
      emit (listedRows (width.getD m.width) shown 0 ++ [0x24, 0x0A])
  | .next =>
    if ← isLast then return some .written
    else
      if !m.script.isQuiet then
        modify fun s => { s with output := s.output.putLine s.line m.ending }
      let _ ← pull m false
      return none
  | .nextAppended =>
    if ← isLast then return some .written
    else
      let _ ← pull m true
      return none
  | .print => go (modify fun s => { s with output := s.output.putLine s.line m.ending })
  | .printFirst =>
    go (modify fun s => { s with output := s.output.putLine (s.line.first m.ending) m.ending })
  | .quit status => return some (.quit status true)
  | .quitSilently status => return some (.quit status false)
  | .readFile path => go (keep (.file path))
  | .readLine path =>
    go do
      let left ←
        match (← get).sources.lookup path with
        | some left => pure left
        | none => do
          match ← (Work.read path : Work _) with
          | .ok bytes => pure (linesOr (m.ending = 0) bytes)
          | .error _ => pure []
      match left with
      | [] => pure ()
      | line :: rest =>
        let bytes := if line.getLast? = some m.ending then line else line ++ [m.ending]
        keep (.text bytes)
        modify fun s =>
          { s with sources := (path, rest) :: s.sources.filter fun (p, _) => p != path }
  | .substitute t => go (substitute m t)
  | .translate pairs => changeLine fun bytes => bytes.map fun b => (pairs.lookup b).getD b
  | .write path => go do writeTo m path (← get).line
  | .writeFirst path =>
    go do writeTo m path ((← get).line.first m.ending)
  | .clear => changeLine fun _ => []

/-- Runs the commands of a script from one of them on. -/
def execute (m : Manner) : Nat → Nat → Edit Outcome
  | 0, _ => return .quit 1 false
  | steps + 1, index => do
    match m.script.commands[index]? with
    | none => return .written
    | some c =>
      if (← isMeant index c) == c.isNegated then
        match c.operation with
        | .block after => execute m steps (max after (index + 1))
        | _ => execute m steps (index + 1)
      else
        match c.operation with
        | .jump kind label =>
          let replaced := (← get).replaced
          let jumps : Bool :=
            match kind with
            | .always => true
            | .ifReplaced => replaced
            | .ifNotReplaced => !replaced
          if kind != .always then modify fun s => { s with replaced := false }
          if !jumps then execute m steps (index + 1)
          else if label.isEmpty then return .written
          else
            match m.script.labels.lookup label with
            | some target => execute m steps target
            | none => return .written
        | _ =>
          match ← perform m index c with
          | none => execute m steps (index + 1)
          | some outcome => return outcome

def maxSteps : Nat := 1000000

/-- Runs cycles as long as there are lines. Gives the status if the script ends the editor. -/
def cycles (m : Manner) : Nat → Bool → Edit (Option Nat)
  | 0, _ => return some 1
  | steps + 1, isAgain => do
    let isRead ← if isAgain then (do dump; pure true) else pull m false
    if !isRead then return none
    else
      let write : Edit Unit := do
        if !m.script.isQuiet then
          modify fun s => { s with output := s.output.putLine s.line m.ending }
      match ← execute m maxSteps 0 with
      | .written =>
        write
        cycles m steps false
      | .dropped => cycles m steps false
      | .again => cycles m steps true
      | .quit status isWritten =>
        if isWritten then
          write
          dump
        return some status

end Edit

def State.start (script : Script) : State where
  line := ⟨[], true⟩
  held := ⟨[], true⟩
  input := []
  file := "-"
  number := 0
  ranges := script.commands.map fun c => (c.startsOpen, none)
  pending := []
  replaced := false
  used := none
  output := ⟨[], false⟩
  files := []
  sources := []

def Sink.bytes (s : Sink) : Bytes := s.pieces.reverse.flatten

/-- Runs a script on the lines of files that make up one text. Gives the status if the script ends
the editor. -/
def runTogether (m : Manner) (files : List (String × Bytes)) (s : State) :
    Work (Option Nat × State) := do
  let input := files.flatMap fun (file, bytes) =>
    (linesOr (m.ending = 0) bytes).map fun line => (file, line)
  let steps := 2 * (input.foldl (fun n (_, line) => n + line.length + 1) 0) + 1000
  (Edit.cycles m steps false).run { s with input }

end SlotServer.Shell.Utility.Editor
