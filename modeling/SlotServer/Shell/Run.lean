import SlotServer.Shell.Lookup
import SlotServer.Shell.Script.Reader

/-!
# Running scripts

What the commands of a script do to the state of a shell. Every command ends with a status, zero for
success. Commands that are not waited for are run when somebody waits for them, or at the end. The
number of steps is limited, so that a script that would never end is given up.
-/

namespace SlotServer.Shell

namespace Run

/-- How a command is run. -/
structure Manner where
  /-- Whether its status is looked at, so that failing does not end the shell. -/
  isTested : Bool
  /-- Whether nothing is done after it, so that a program takes the place of the shell. -/
  isLast : Bool

/-- The status of the command is looked at. -/
def Manner.tested : Manner := ⟨true, false⟩

/-- The manner of a command that others come after. -/
def Manner.inner (manner : Manner) : Manner := { manner with isLast := false }

/-- Where a loop goes on after a part of it was run: with the loop itself, or elsewhere. -/
def afterRound : Flow → Option Flow
  | .next => none
  | .leave n => some (if n ≤ 1 then .next else .leave (n - 1))
  | .again n => if n ≤ 1 then none else some (.again (n - 1))
  | .back given => some (.back given)

/-- Whether the status of a command ends a shell that failing ends. -/
def isChecked : Script → Bool
  | .simple _ _ _ _ => true
  | .pipeline _ => true
  | .subshell _ _ _ => true
  | .background _ => true
  | _ => false

/-- The traps of a copy of a shell: only what is ignored stays so. -/
def inheritedTraps (traps : List (Nat × String)) : List (Nat × String) :=
  traps.filter fun (_, action) => action.isEmpty

def asCopy (state : State) : State :=
  { state with
    isCopy := true
    traps := inheritedTraps state.traps
    endStatus := none
    children := []
    unwritten := [] }

/-- The state after a copy of the shell came to its end: the context is as it was before, and what
belongs to all is as the copy left it. -/
def afterCopy (before after : State) : State :=
  let disk := { after.disk with workingDirectory := before.disk.workingDirectory }
  { after.withDisk disk with toContext := before.toContext }

/-- The variables that programs get to know. -/
def environment (state : State) : List (String × String) :=
  state.bindings.filterMap fun (name, v) =>
    match v.value with
    | some value => if v.isExported then some (name, Utf8.decodeString value) else none
    | none => none

/-- Writes what was held back to the standard output. -/
def flush : Action Bool := do
  let bytes := (← get).unwritten
  modify fun state => { state with unwritten := [] }
  match ← Action.put 1 bytes with
  | .ok () => return true
  | .error .pipeBroken => throw (.killed 13)
  | .error _ => return false

/-- Runs a command of the shell. A fault ends the shell only if the command is a special one. -/
def withBuiltin (name : String) (isSpecial : Bool) (act : Action Flow) : Action Flow := do
  let before := (← get).command
  modify fun state => { state with command := some name }
  let outcome ← Action.outcome do
    let flow ← act
    if !(← flush) then
      Action.report s!"{name}: I/O error"
      modify fun state => { state with status := state.status ||| 1 }
    return flow
  modify fun state => { state with command := before }
  match outcome with
  | .ok flow => return flow
  | .error .fault => if isSpecial then throw .fault else return .next
  | .error ending => throw ending

/-- Runs an action with descriptors that are put back afterwards. -/
def keepingDescriptors (act : Action Flow) : Action Flow := do
  let descriptors := (← get).descriptors
  Action.andFinally act (modify fun state => { state with descriptors })

/-- Shows a command that is about to be run. -/
def trace (start : String) (assignments : List (String × Bytes)) (words : List Bytes) :
    Action Unit := do
  let shown := assignments.map (fun (name, value) => Utf8.encodeString (name ++ "=") ++ value)
  let line := [(0x20 : UInt8)].intercalate (shown ++ words)
  let _ ← Action.put 2 (Utf8.encodeString start ++ line ++ [0x0A])

def reportMissing (name : String) (isDenied : Bool) : Action Unit :=
  let reason := if isDenied then "Permission denied" else "not found"
  Action.report s!"{name}: {reason}"

/-- Says that a signal ended a process that was waited for. -/
def describeKill (signal : Nat) : Action Unit := do
  match Signal.description? signal with
  | some text => Action.say 2 (text ++ "\n")
  | none => return

/-- What follows the words of `command` that are its own: the command to be run. Nothing if the
words ask for something else. -/
def afterCommand : List Bytes → Option (List Bytes)
  | [] => none
  | word :: rest =>
    match (Utf8.decodeString word).toList with
    | ['-', '-'] => if rest.isEmpty then none else some rest
    | '-' :: c :: more => if (c :: more).all (· = 'p') then afterCommand rest else none
    | _ => some (word :: rest)

/-- The command that words run in the end, and whether functions are left out of account. -/
def commandOf (state : State) : Nat → Bool → List Bytes → List Bytes × Bool
  | 0, bare, words => (words, bare)
  | _ + 1, bare, [] => ([], bare)
  | steps + 1, bare, word :: rest =>
    let isFunction := !bare && (state.functions.lookup "command").isSome
    if word = Utf8.encodeString "command" && !isFunction then
      match afterCommand rest with
      | some words => commandOf state steps true words
      | none => (word :: rest, bare)
    else (word :: rest, bare)

/-- Whether the first words of a command say that assignments may follow. -/
def takesAssignments (state : State) (words : List Bytes) : Bool :=
  match commandOf state (words.length + 1) false words with
  | (name :: _, bare) =>
    let name := Utf8.decodeString name
    Lookup.assigning.contains name &&
      (bare || Lookup.special.contains name || (state.functions.lookup name).isNone)
  | ([], _) => false

/-- The fields of the words of a command, of which some are there already. -/
def expandWords (output : Option Script → Action Bytes) :
    List Word → List Bytes → Action (List Bytes)
  | [], fields => return fields
  | word :: rest, fields => do
    let isAssignment := takesAssignments (← get) fields && (Word.assignment? word).isSome
    let more ←
      if isAssignment then
        match Word.assignment? word with
        | some (name, value) => do
          let value ← Expansion.assigned output value
          pure [Utf8.encodeString (name ++ "=") ++ value]
        | none => pure []
      else Expansion.fields output word
    expandWords output rest (fields ++ more)

/-- Makes the assignments in front of a command. For a command that keeps its own variables they
are noted first. -/
def assignAll (output : Option Script → Action Bytes) (keeps exported : Bool) :
    List (String × Word) → Action (List (String × Bytes))
  | [] => return []
  | (name, word) :: rest => do
    let value ← Expansion.assigned output word
    if keeps then Action.keep name
    Action.assign name value exported
    return (name, value) :: (← assignAll output keeps exported rest)

/-! ## Shells as programs -/

/-- What a shell that starts as a program runs. -/
inductive Origin where
  | text (commands : String)
  | file (path : String)
  | input

/-- How a shell starts as a program. -/
structure Invocation where
  settings : List Char
  origin : Origin
  name : String
  arguments : List Bytes

/-- The settings that letters change when a shell starts, and whether commands are given. -/
def startLetters (on : Bool) : List Char → List String → List Char → Bool →
    Except String (List Char × Bool × List String)
  | [], args, settings, hasText => .ok (settings, hasText, args)
  | c :: rest, args, settings, hasText =>
    if c = 'c' then startLetters on rest args settings true
    else if c = 'l' then startLetters on rest args settings hasText
    else if c = 'o' then
      match args with
      | [] => startLetters on rest [] settings hasText
      | name :: args =>
        match Setting.all.lookup name with
        | some letter => startLetters on rest args (Setting.changed settings letter on) hasText
        | none => .error s!"Illegal option -o {name}"
    else if Setting.isKnown c then
      startLetters on rest args (Setting.changed settings c on) hasText
    else .error s!"Illegal option -{c}"

/-- The settings that arguments change when a shell starts, whether commands are given, and the
arguments that are left. -/
def startSettings : Nat → List Char → Bool → List Bytes →
    Except String (List Char × Bool × List Bytes)
  | 0, settings, hasText, args => .ok (settings, hasText, args)
  | _ + 1, settings, hasText, [] => .ok (settings, hasText, [])
  | steps + 1, settings, hasText, arg :: args =>
    match (Utf8.decodeString arg).toList with
    | ['-'] => .ok (settings, hasText, args)
    | ['-', '-'] => .ok (settings, hasText, args)
    | sign :: letters =>
      if sign = '-' || sign = '+' then do
        let (settings, hasText, left) ←
          startLetters (sign = '-') letters (Builtin.texts args) settings hasText
        startSettings steps settings hasText (args.drop (args.length - left.length))
      else .ok (settings, hasText, arg :: args)
    | [] => .ok (settings, hasText, arg :: args)

/-- How a shell of a name starts with arguments. -/
def invocation (name : String) (args : List Bytes) : Except String Invocation := do
  let (settings, hasText, rest) ← startSettings (args.length + 1) [] false args
  if hasText then
    match rest with
    | [] => throw "-c requires an argument"
    | text :: rest =>
      let name := (rest.head?.map Utf8.decodeString).getD name
      return ⟨settings, .text (Utf8.decodeString text), name, rest.drop 1⟩
  else if settings.contains 's' then return ⟨settings, .input, name, rest⟩
  else
    match rest with
    | [] => return ⟨'s' :: settings, .input, name, []⟩
    | path :: rest =>
      let path := Utf8.decodeString path
      return ⟨settings, .file path, path, rest⟩

/-- The context of a shell that starts as a program. -/
def newContext (state : State) (i : Invocation) (bindings : List (String × String)) : Context :=
  let fresh := State.start state.disk
  let own := fresh.bindings.filter fun (name, v) =>
    !v.isExported && (name ≠ "OPTIND" || (bindings.lookup "OPTIND").isNone)
  let given := bindings.map fun (name, text) =>
    (name, (⟨some (Utf8.encodeString text), true, false⟩ : Variable))
  let parent : String × Variable :=
    ("PPID", ⟨some (Utf8.encodeString (toString state.process)), false, false⟩)
  let own := own.filter fun (name, _) => name ≠ "PPID" && (bindings.lookup name).isNone
  let directory : String × Variable :=
    ("PWD", ⟨some (Utf8.encodeString (Builtin.pathOf state.directory)), true, false⟩)
  { fresh.toContext with
    name := i.name
    process := state.nextProcess
    arguments := i.arguments
    bindings := directory :: parent :: own ++ given.filter fun (name, _) => name ≠ "PWD"
    settings := i.settings
    traps := inheritedTraps state.traps
    descriptors := state.descriptors
    mask := state.mask
    directory := state.directory }

/-- The first line of a file that names the program that it is for, and its arguments. -/
def interpreter? (contents : Bytes) : Option (String × List String) :=
  let line := (Utf8.decodeString (contents.takeWhile (· ≠ 0x0A))).toList
  match line with
  | '#' :: '!' :: rest =>
    let trimmed := rest.dropWhile fun c => c = ' ' || c = '\t'
    let path := trimmed.takeWhile fun c => c ≠ ' ' && c ≠ '\t'
    let after := (trimmed.drop path.length).dropWhile fun c => c = ' ' || c = '\t'
    let argument := (after.reverse.dropWhile fun c => c = ' ' || c = '\t').reverse
    some (String.ofList path, if argument.isEmpty then [] else [String.ofList argument])
  | _ => none

/-- What a script is read from, and whether it is shown as it is read. -/
structure Reading where
  source : Source
  isShown : Bool

def Reading.ofText (text : String) : Reading := ⟨Source.ofScript [] text, false⟩

/-- The number of times that a pipe is written to before nobody reads it any more. -/
def maxWrites : Nat := 100000

/-- The file that a descriptor leads to, and the place in it that is read or written next. -/
def openFile? (state : State) (descriptor : Nat) : Option (Nat × Nat) := do
  let number ← state.descriptors.lookup descriptor
  let channel ← state.channels.list[number]?
  match channel.medium with
  | .file file offset appends =>
    some (file, if appends then (state.disk.fileContents file).length else offset)
  | _ => none

/-- What became of what came out of a program. -/
structure Delivery where
  /-- The statuses of the programs that it ran. -/
  statuses : List Nat := []
  least : Nat := 0
  /-- What went wrong in writing. -/
  failure : Option SystemError := none

mutual

/-- Runs a command, and notices signals after it. -/
def command : Nat → Manner → Script → Action Flow
  | 0, _, _ => throw .exhausted
  | steps + 1, manner, script => do
    if (← get).isOn 'n' then return .next
    else
      let flow ← perform steps manner script
      let flow ← if flow = .next then noticeSignals steps else pure flow
      let state ← get
      if state.isOn 'e' && !manner.isTested && isChecked script && state.status ≠ 0 then
        throw .done
      else return flow

def perform : Nat → Manner → Script → Action Flow
  | 0, _, _ => throw .exhausted
  | steps + 1, manner, script => do
    let output := substitute steps
    match script with
    | .simple line assignments words redirects =>
      modify fun state => { state with line, outputStatus := 0 }
      simple steps manner assignments words redirects
    | .pipeline stages =>
      pipeline steps manner none stages
      return .next
    | .negation inner =>
      let flow ← command steps .tested inner
      if flow = .next then
        modify fun state => { state with status := if state.status = 0 then 1 else 0 }
      return flow
    | .both first second =>
      let flow ← command steps .tested first
      if flow = .next && (← get).status = 0 then command steps manner second else return flow
    | .either first second =>
      let flow ← command steps .tested first
      if flow = .next && (← get).status ≠ 0 then command steps manner second else return flow
    | .sequence first second =>
      let flow ← command steps manner.inner first
      if flow = .next then command steps manner second else return flow
    | .background inner =>
      let number ← Redirection.openChannel ⟨.nothing, true, false⟩
      modify fun state =>
        let process := state.nextProcess
        let descriptors := (0, number) :: state.descriptors.filter fun (d, _) => d != 0
        let copy := asCopy { state with descriptors }
        let job : Job := ⟨process, copy.toContext, inner, state.disk.workingDirectory⟩
        { state with
          jobs := state.jobs ++ [job]
          nextProcess := process + 1
          lastJob := some process
          children := state.children ++ [process]
          status := 0 }
      return .next
    | .subshell line body redirects =>
      modify fun state => { state with line }
      let opened ← Redirection.targets output redirects
      let open_ : Action Unit := do
        if !(← Redirection.applyAll opened) then
          Action.setStatus 2
          throw .fault
      Action.setStatus (← copy steps ⟨manner.isTested, true⟩ open_ (some body))
      return .next
    | .redirected line body redirects =>
      modify fun state => { state with line }
      let opened ← Redirection.targets output redirects
      keepingDescriptors do
        if ← Redirection.applyAll opened then command steps manner.inner body
        else
          Action.setStatus 2
          if (← get).isOn 'e' && !manner.isTested then throw .done else return .next
    | .branch condition thenBody elseBody =>
      let flow ← command steps .tested condition
      if flow ≠ .next then return flow
      else if (← get).status = 0 then command steps manner thenBody
      else
        match elseBody with
        | some body => command steps manner body
        | none => Builtin.finish 0
    | .loop outcome condition body =>
      modify fun state => { state with loops := state.loops + 1 }
      let flow ← loop steps manner.inner outcome condition body 0
      modify fun state => { state with loops := state.loops - 1 }
      return flow
    | .each line name words body =>
      modify fun state => { state with line }
      let values ←
        match words with
        | some words => do pure (← words.mapM (Expansion.fields output)).flatten
        | none => do pure (← get).arguments
      Action.setStatus 0
      modify fun state => { state with loops := state.loops + 1 }
      let flow ← rounds steps manner.inner name body values
      modify fun state => { state with loops := state.loops - 1 }
      return flow
    | .choice line word branches =>
      modify fun state => { state with line }
      let value ← Expansion.text output word
      choose steps manner value branches
    | .define name body =>
      modify fun state =>
        { state with functions := (name, body) :: state.functions.filter fun (n, _) => n != name }
      Builtin.finish 0

/-- Runs the action of a signal that came for the shell, or ends the shell. -/
def noticeSignals : Nat → Action Flow
  | 0 => throw .exhausted
  | steps + 1 => do
    let state ← get
    let mine := (state.signals.filter fun (p, _) => p = state.process).map Prod.snd
    if state.isCopy || mine.isEmpty then return .next
    else
      let signal := mine.foldl min (mine.headD 0)
      modify fun state =>
        { state with signals := state.signals.filter fun s => s != (state.process, signal) }
      match if Signal.isFinal signal then none else state.traps.lookup signal with
      | none =>
        if Signal.isHarmless signal then noticeSignals steps else throw (.killed signal)
      | some action =>
        let outer := state.endStatus
        modify fun s => { s with endStatus := some (outer.getD state.status) }
        let flow ← evaluate steps ⟨false, false⟩ false (.ofText action)
        modify fun s => { s with endStatus := outer }
        if flow ≠ .back true then Action.setStatus state.status
        if flow = .next then noticeSignals steps else return flow

/-- Runs a loop; `last` is the status of its last round. -/
def loop : Nat → Manner → Bool → Script → Script → Nat → Action Flow
  | 0, _, _, _, _, _ => throw .exhausted
  | steps + 1, manner, outcome, condition, body, last => do
    let flow ← command steps .tested condition
    if flow = .next && ((← get).status == 0) != outcome then Builtin.finish last
    else
      let flow ← if flow = .next then command steps manner body else pure flow
      match afterRound flow with
      | some flow => return flow
      | none => loop steps manner outcome condition body (← get).status

/-- Runs a body for every value. -/
def rounds : Nat → Manner → String → Script → List Bytes → Action Flow
  | 0, _, _, _, _ => throw .exhausted
  | _ + 1, _, _, _, [] => return .next
  | steps + 1, manner, name, body, value :: rest => do
    Action.assign name value
    let flow ← command steps manner body
    match afterRound flow with
    | some flow => return flow
    | none => rounds steps manner name body rest

/-- Runs the body of the first branch that has a pattern for a value. -/
def choose : Nat → Manner → Bytes → List (List Word × Option Script) → Action Flow
  | 0, _, _, _ => throw .exhausted
  | _ + 1, _, _, [] => Builtin.finish 0
  | steps + 1, manner, value, (patterns, body) :: rest => do
    let fits ← fitsAny (substitute steps) value patterns
    if fits then
      match body with
      | some body => command steps manner body
      | none => Builtin.finish 0
    else choose steps manner value rest
where
  /-- Whether one of several patterns stands for a value. -/
  fitsAny (output : Option Script → Action Bytes) (value : Bytes) : List Word → Action Bool
    | [] => return false
    | word :: rest => do
      if (← Expansion.pattern output word).accepts value then return true
      else fitsAny output value rest

/-- Runs the commands of a pipeline, the first of which reads from a channel, if one is given. -/
def pipeline : Nat → Manner → Option Nat → List Script → Action Unit
  | 0, _, _, _ => throw .exhausted
  | _ + 1, _, _, [] => return
  | steps + 1, manner, source, stage :: rest => do
    let first := (← get).nextProcess
    let target ←
      if rest.isEmpty then pure none
      else some <$> Redirection.openChannel ⟨.pipe [] [] (some maxWrites), true, true⟩
    let connect : Action Unit := do
      match source with
      | some number => Redirection.setDescriptor 0 (some number)
      | none => pure ()
      match target with
      | some number => Redirection.setDescriptor 1 (some number)
      | none => pure ()
    let status ← copy steps ⟨manner.isTested, true⟩ connect (some stage)
    if rest.isEmpty then Action.setStatus status
    else
      runJobs steps first
      pipeline steps manner target rest

/-- Runs a script in a copy of the shell, and gives the status that the copy ends with. -/
def copy : Nat → Manner → Action Unit → Option Script → Action Nat
  | 0, _, _, _ => throw .exhausted
  | steps + 1, manner, prepare, script => do
    let before ← get
    modify asCopy
    let outcome ← Action.outcome do
      prepare
      match script with
      | some script => command steps manner script
      | none => Builtin.finish 0
    let (status, _) ← close steps outcome
    let after ← get
    set (afterCopy before after)
    return status

/-- Does what has to be done at the end of a shell, and gives the status that it ends with, and the
signal that ended it. -/
def close : Nat → Except Ending Flow → Action (Nat × Option Nat)
  | 0, _ => throw .exhausted
  | steps + 1, outcome => do
    match outcome with
    | .error .exhausted => throw .exhausted
    | .error (.killed signal) => return (128 + signal, some signal)
    | _ =>
      let state ← get
      let last ←
        match state.traps.lookup 0 with
        | some action => do
          let traps := state.traps.filter fun (n, _) => n != 0
          modify fun s => { s with traps, endStatus := some state.status }
          let last ← Action.outcome (evaluate steps ⟨false, false⟩ false (.ofText action))
          match last with
          | .ok _ => Action.setStatus state.status
          | .error _ => pure ()
          pure last
        | none => pure (.ok .next)
      let _ ← Action.outcome flush
      match last with
      | .error .exhausted => throw .exhausted
      | .error (.killed signal) => return (128 + signal, some signal)
      | _ => return ((← get).status, none)

/-- What a script writes, run in a copy of the shell. -/
def substitute : Nat → Option Script → Action Bytes
  | 0, _ => throw .exhausted
  | steps + 1, script => do
    let first := (← get).nextProcess
    let number ← Redirection.openChannel ⟨.pipe [] [] none, true, true⟩
    let connect := Redirection.setDescriptor 1 (some number)
    let status ← copy steps ⟨false, true⟩ connect script
    runJobs steps first
    modify fun state => { state with outputStatus := status, status }
    return ((← get).channels.readable number).toOption.getD []

/-- Runs the commands that are not waited for whose processes are among those from a number on. -/
def runJobs : Nat → Nat → Action Unit
  | 0, _ => throw .exhausted
  | steps + 1, first => do
    let before ← get
    match before.jobs.find? fun job => first ≤ job.process with
    | none => return
    | some job =>
      let jobs := before.jobs.filter fun j => j.process != job.process
      let disk := { before.disk with workingDirectory := job.workingDirectory }
      let start : State := { before with jobs, toContext := job.context }
      set (start.withDisk disk)
      let status ← copy steps ⟨false, true⟩ (pure ()) (some job.script)
      let after ← get
      let end_ : JobEnd := ⟨job.process, status, none⟩
      set { afterCopy before after with ended := after.ended ++ [end_] }
      runJobs steps first

def simple : Nat → Manner → List (String × Word) → List Word → List Redirect → Action Flow
  | 0, _, _, _, _ => throw .exhausted
  | steps + 1, manner, assignments, words, redirects => do
    let output := substitute steps
    let fields ← expandWords output words []
    let opened ← Redirection.targets output redirects
    let state ← get
    let (words, bare) := commandOf state (fields.length + 1) false fields
    let name := (words.head?.map Utf8.decodeString).getD ""
    let firstName := (fields.head?.map Utf8.decodeString).getD ""
    let isSpecial := !fields.isEmpty && Lookup.special.contains firstName
    let isExec := name = "exec" && !words.isEmpty
    let keeps := !fields.isEmpty && !isSpecial
    let run : Action Flow := do
      if !(← Redirection.applyAll opened) then
        Action.setStatus 2
        if isSpecial then throw .fault else return .next
      else
        let act : Action Flow := do
          let exported := keeps || (isExec && 1 < words.length)
          let values ← assignAll output keeps exported assignments
          if (← get).isOn 'x' then trace (← traceStart steps) values fields
          if words.isEmpty then Builtin.finish (← get).outputStatus
          else call steps manner bare isSpecial name (words.drop 1)
        if keeps then
          Action.pushFrame
          Action.andFinally act Action.restore
        else act
    if isExec then run else keepingDescriptors run

/-- What stands in front of the commands that are shown. -/
def traceStart : Nat → Action String
  | 0 => throw .exhausted
  | steps + 1 => do
    let text := (← get).text "PS4"
    match Script.document text with
    | .error _ => return text
    | .ok word =>
      let shown ← Expansion.whole (substitute steps) .nowhere word
      return Utf8.decodeString (shown.map MarkedByte.byte)

/-- Runs the command of a name with its arguments. -/
def call : Nat → Manner → Bool → Bool → String → List Bytes → Action Flow
  | 0, _, _, _, _, _ => throw .exhausted
  | steps + 1, manner, bare, isSpecial, name, args => do
    let state ← get
    let state := if bare then { state with functions := [] } else state
    match Lookup.meaning state name with
    | .function body => function steps manner body args
    | .builtin =>
      match Lookup.builtins.lookup name with
      | some builtin => withBuiltin name isSpecial (builtin args)
      | none => withBuiltin name isSpecial (scripted steps manner name args)
    | .program path =>
      Lookup.note name path
      let status ← program steps manner path name args
      Builtin.finish status
    | .missing isDenied =>
      reportMissing name isDenied
      Builtin.finish 127

def function : Nat → Manner → Script → List Bytes → Action Flow
  | 0, _, _, _ => throw .exhausted
  | steps + 1, manner, body, args => do
    let before ← get
    if 1000 ≤ before.depth then Action.fail "Maximum function recursion depth (1000) reached"
    else
      modify fun state =>
        { state with arguments := args, nextOption := (1, none), loops := 0
                     depth := state.depth + 1 }
      let restore : Action Unit :=
        modify fun state =>
          { state with arguments := before.arguments, nextOption := before.nextOption
                       loops := before.loops, depth := before.depth }
      let flow ← Action.andFinally (command steps manner.inner body) restore
      return if flow matches .back _ then .next else flow

/-- Runs one of the commands of the shell that look at other commands or run them. -/
def scripted : Nat → Manner → String → List Bytes → Action Flow
  | 0, _, _, _ => throw .exhausted
  | steps + 1, manner, name, args => do
    match name with
    | "eval" =>
      let text := Utf8.decodeString ([(0x20 : UInt8)].intercalate args)
      evaluate steps manner false (.ofText text)
    | "." => sourceFile steps manner args
    | "exec" =>
      match args with
      | [] => Builtin.finish 0
      | program :: args => replace steps (Utf8.decodeString program) args
    | "command" => describeCommand args
    | "type" => Lookup.type args
    | "hash" => Lookup.hash args
    | "wait" => wait steps args
    | "jobs" => showJobs args
    | _ =>
      let (_, args) ← Builtin.options "" args
      match Builtin.texts args with
      | [] => Action.fail "No current job"
      | job :: _ => Action.fail s!"No such job: {job}"
where
  describeCommand (args : List Bytes) : Action Flow := do
    let (letters, names) ← Builtin.options "pvV" args
    match Builtin.texts names with
    | [] => Builtin.finish 0
    | name :: _ =>
      if letters.contains 'v' || letters.contains 'V' then
        let found ← Lookup.describe (letters.contains 'V') name
        Builtin.finish (if found then 0 else 127)
      else Builtin.finish 0
  /-- Shows the commands that are not waited for. -/
  showJobs (args : List Bytes) : Action Flow := do
    let (letters, _) ← Builtin.options "lp" args
    let state ← get
    let running := state.jobs.filter fun job => state.children.contains job.process
    for (job, i) in running.zipIdx 1 do
      let mark := if i = running.length then '+' else if i + 1 = running.length then '-' else ' '
      let process := if letters.contains 'l' then s!"{job.process} " else ""
      let line :=
        if letters.contains 'p' then toString job.process
        else s!"[{i}] {mark} {process}Running                    "
      Builtin.emitText (line ++ "\n")
    Builtin.finish 0

def sourceFile : Nat → Manner → List Bytes → Action Flow
  | 0, _, _ => throw .exhausted
  | steps + 1, manner, args => do
    let (_, args) ← Builtin.options "" args
    match Builtin.texts args with
    | [] => Builtin.finish 0
    | name :: _ =>
      let state ← get
      let candidates :=
        if name.toList.contains '/' then [name] else Lookup.paths (state.text "PATH") name
      let isFile (path : String) : Bool :=
        name.toList.contains '/' || (Condition.file? state.disk path).isSome
      match candidates.find? isFile with
      | none => Action.fail s!"{name}: not found"
      | some path =>
        match ← Redirection.openInput path with
        | .error error =>
          let reason := Redirection.openFault error "No such file"
          Action.fail s!"cannot open {path}: {reason}"
        | .ok number =>
          let contents := ((← get).channels.readable number).toOption.getD []
          modify fun state => { state with command := some path }
          let source := Source.ofScript [] (Utf8.decodeString contents)
          let flow ← evaluate steps manner.inner false (Reading.mk source true)
          modify fun state => { state with command := some "." }
          return if flow matches .back _ then .next else flow

/-- Lets a program take the place of the shell. -/
def replace : Nat → String → List Bytes → Action Flow
  | 0, _, _ => throw .exhausted
  | steps + 1, name, args => do
    let state ← get
    match Lookup.program state.disk (state.text "PATH") name with
    | .program path =>
      match Lookup.executable? state.disk path with
      | some (.utility _) =>
        let status ← program steps ⟨false, true⟩ path name args
        Action.setStatus status
        modify fun state => { state with traps := [] }
        throw .done
      | some (.file number) =>
        let status ← program steps ⟨false, true⟩ path name args
        Action.setStatus status
        let isRunnable := (state.disk.file? number).any fun f => Condition.isRunnable f.mode
        if isRunnable then modify fun state => { state with traps := [] }
        throw .done
      | some .other =>
        reportMissing name true
        Action.setStatus 126
        throw .done
      | none =>
        reportMissing name false
        Action.setStatus 127
        throw .done
    | _ =>
      reportMissing name false
      Action.setStatus 127
      throw .done

def wait : Nat → List Bytes → Action Flow
  | 0, _ => throw .exhausted
  | steps + 1, args => do
    let (_, args) ← Builtin.options "" args
    let mut status := 0
    if args.isEmpty then runJobs steps 0
    for target in Builtin.texts args do
      if target.startsWith "%" then Action.fail s!"No such job: {target}"
      else
        let process ← Action.naturalArgument target
        if (← get).children.contains process then
          runJobs steps 0
          match (← get).ended.find? fun e => e.process = process with
          | some e =>
            status := e.status
            match e.signal with
            | some signal => describeKill signal
            | none => pure ()
            modify fun state =>
              { state with ended := state.ended.filter fun e => e.process != process }
          | none => status := 127
        else status := 127
    Builtin.finish status

/-- Runs what is at a path, and gives its status. -/
def program : Nat → Manner → String → String → List Bytes → Action Nat
  | 0, _, _, _, _ => throw .exhausted
  | steps + 1, manner, path, name, args => do
    let state ← get
    match Lookup.executable? state.disk path with
    | none =>
      reportMissing name false
      return 127
    | some .other =>
      reportMissing name true
      return 126
    | some (.utility utility) =>
      launch steps manner utility name args (environment state) none
    | some (.file number) =>
      let contents := state.disk.fileContents number
      if !(state.disk.file? number).any fun f => Condition.isRunnable f.mode then
        reportMissing name true
        return 126
      else
        match interpreter? contents with
        | none =>
          let args := Utf8.encodeString path :: args
          launch steps manner "sh" name args (environment state) none
        | some (interpreter, more) =>
          match Lookup.executable? state.disk interpreter with
          | some (.utility utility) =>
            let args := more.map Utf8.encodeString ++ Utf8.encodeString path :: args
            launch steps manner utility interpreter args (environment state) none
          | _ =>
            reportMissing name false
            return 127

/-- Runs a program of the machine, and gives its status. It reads `input`, if that is given. -/
def launch : Nat → Manner → String → String → List Bytes → List (String × String) →
    Option Bytes → Action Nat
  | 0, _, _, _, _, _, _ => throw .exhausted
  | steps + 1, manner, utility, name, args, bindings, input => do
    let descriptors := (← get).descriptors
    match input with
    | some bytes =>
      let number ← Redirection.openChannel ⟨.pipe bytes [] none, true, false⟩
      Redirection.setDescriptor 0 (some number)
    | none => pure ()
    if utility = "sleep" then
      runJobs steps 0
      modify fun state => state.withDisk { state.disk with time := state.disk.time + 1 }
    let status ←
      if Utility.shells.contains utility then shell steps manner name args bindings
      else
        let state ← get
        let readable ← Action.readable 0
        let bytes := readable.toOption.getD []
        let error :=
          match readable with
          | .ok _ => none
          | .error e => some e
        let start : Process :=
          { name, disk := state.disk, environment := bindings, mask := state.mask, input := bytes
            inputError := error, inputFile := (openFile? state 0).map Prod.fst
            outputFile := openFile? state 1, outputs := [], status := 0
            judge := Process.ownStatus }
        let program := (Utility.all.lookup utility).getD fun _ => pure ()
        let done := (program (Builtin.texts args)).finish start
        modify fun state => state.withDisk done.disk
        Action.consume 0 (bytes.length - done.input.length)
        let delivery ← deliver steps done.outputs.reverse
        let status := max (done.judge delivery.statuses done.status) delivery.least
        match delivery.failure with
        | none => pure status
        | some .pipeBroken => pure 141
        | some error =>
          Action.say 2 s!"{name}: write error: {error.description}\n"
          pure (max status 1)
    modify fun state => { state with descriptors }
    return status

/-- Writes what came out of a program, and runs the programs that it runs. -/
def deliver : Nat → List Output → Action Delivery
  | 0, _ => throw .exhausted
  | _ + 1, [] => return {}
  | steps + 1, item :: rest => do
    match item with
    | .standard bytes =>
      let run := rest.takeWhile Output.isStandard
      let rest := rest.drop run.length
      match ← Action.put 1 (bytes ++ run.flatMap Output.standardBytes) with
      | .ok () => deliver steps rest
      | .error .pipeBroken => return { failure := some .pipeBroken }
      | .error error =>
        let delivery ← deliver steps rest
        return { delivery with failure := delivery.failure.orElse fun _ => some error }
    | .error bytes =>
      let _ ← Action.put 2 bytes
      deliver steps rest
    | .change act =>
      modify fun state => state.withDisk (act state.disk)
      deliver steps rest
    | .raise status =>
      let delivery ← deliver steps rest
      return { delivery with least := max delivery.least status }
    | .errand errand later =>
      let status ← errandStatus steps errand
      let delivery ← deliver steps (later status (← get).disk ++ rest)
      return { delivery with statuses := status :: delivery.statuses }

def errandStatus : Nat → Errand → Action Nat
  | 0, _ => throw .exhausted
  | steps + 1, errand => do
    let before ← get
    match errand.directory with
    | some directory =>
      set (before.withDisk { before.disk with workingDirectory := directory })
    | none => pure ()
    let status ← errandStatusHere steps errand
    modify fun state =>
      state.withDisk { state.disk with workingDirectory := before.disk.workingDirectory }
    return status

/-- Runs a program for another one, in the working directory. -/
def errandStatusHere : Nat → Errand → Action Nat
  | 0, _ => throw .exhausted
  | steps + 1, errand => do
    match errand.arguments with
    | [] => return 0
    | name :: args =>
      let state ← get
      let path := (errand.environment.lookup "PATH").getD State.defaultPath
      let missing (reason : String) (status : Nat) : Action Nat := do
        Action.say 2 s!"{errand.complaint name}: {reason}\n"
        return status
      match Lookup.program state.disk path name with
      | .program path =>
        let run (utility name : String) (args : List String) : Action Nat :=
          launch steps ⟨false, false⟩ utility name (args.map Utf8.encodeString)
            errand.environment errand.input
        match Lookup.executable? state.disk path with
        | some (.utility utility) => run utility name args
        | some (.file number) =>
          if !(state.disk.file? number).any fun f => Condition.isRunnable f.mode then
            missing "Permission denied" 126
          else
            match interpreter? (state.disk.fileContents number) with
            | some (interpreter, more) =>
              match Lookup.executable? state.disk interpreter with
              | some (.utility utility) => run utility interpreter (more ++ path :: args)
              | _ => missing "No such file or directory" 127
            | none => run "sh" "sh" (path :: args)
        | some .other => missing "Permission denied" 126
        | none => missing "No such file or directory" 127
      | _ => missing "No such file or directory" 127

/-- Runs a shell as a program, and gives its status. -/
def shell : Nat → Manner → String → List Bytes → List (String × String) → Action Nat
  | 0, _, _, _, _ => throw .exhausted
  | steps + 1, manner, name, args, bindings => do
    let before ← get
    let say (message : String) : Action Nat := do
      Action.say 2 s!"{name}: 0: {message}\n"
      return 2
    match invocation name args with
    | .error message => say message
    | .ok i =>
      let process := before.nextProcess
      let script? : Except String (Option Reading) :=
        match i.origin with
        | .text text => .ok (some (.ofText text))
        | .file path =>
          let isDirectory := (Condition.node? before.disk path).any fun (_, n) => n == .directory
          if isDirectory then .ok none
          else
            match before.disk.openFile path with
            | .error fault =>
              let reason := Redirection.openFault fault.systemError "No such file"
              .error s!"cannot open {path}: {reason}"
            | .ok read =>
              let contents := (read.flatMap fun item =>
                match item with
                | .data bytes => bytes
                | _ => [])
              .ok (some (.mk (Source.ofScript [] (Utf8.decodeString contents)) true))
        | .input =>
          let descriptor := before.descriptors.lookup 0
          let bytes := descriptor.bind fun d => (before.channels.readable d).toOption
          .ok (some (.mk (Source.ofScript [] (Utf8.decodeString (bytes.getD []))) true))
      match script? with
      | .error message => say message
      | .ok none => return 0
      | .ok (some reading) =>
        if i.origin matches .input then Action.consume 0 State.manyBytes
        modify fun state =>
          { state with
            toContext := newContext state i bindings
            nextProcess := process + 1
            shells := process :: state.shells }
        if i.settings.contains 'm' then
          Action.say 2 s!"{name}: 0: can't access tty; job control turned off\n"
        let outcome ← Action.outcome (evaluate steps ⟨false, true⟩ false reading)
        let (status, signal) ← close steps outcome
        let after ← get
        set { afterCopy before after with
          shells := before.shells
          signals := after.signals.filter fun (p, _) => p != process }
        match signal with
        | some signal => if !manner.isLast then describeKill signal
        | none => pure ()
        return status

/-- Runs the commands of a script one command line after the other; `ran` says whether there were
any before. -/
def evaluate : Nat → Manner → Bool → Reading → Action Flow
  | 0, _, _, _ => throw .exhausted
  | steps + 1, manner, ran, reading => do
    let source := { reading.source with aliases := (← get).aliases }
    match Script.next source with
    | .error fault =>
      modify fun state => { state with line := fault.line }
      Action.fail s!"Syntax error: {fault.message}"
    | .ok none =>
      if !ran then Action.setStatus 0
      return .next
    | .ok (some (script, rest)) =>
      if reading.isShown && (← get).isOn 'v' then
        let read := source.text.take (source.text.length - rest.text.length)
        Action.say 2 (String.ofList read)
      match script with
      | none => evaluate steps manner ran { reading with source := rest }
      | some script =>
        let isLast := manner.isLast && rest.text.all fun c => c = '\n' || c = ' '
        let flow ← command steps { manner with isLast } script
        if flow = .next then evaluate steps manner true { reading with source := rest }
        else return flow

end

/-- A number of steps that is enough for any script that ends. -/
def manySteps : Nat := 100000000

end Run

def run (script : String) (disk : Disk) : Bytes × Disk :=
  let whole : Action Unit := do
    let outcome ← Action.outcome (Run.evaluate Run.manySteps ⟨false, true⟩ false (.ofText script))
    let _ ← Run.close Run.manySteps outcome
    Run.runJobs Run.manySteps 0
  let (_, state) := (ExceptT.run whole).run (.start disk)
  let output := (state.channels.readable State.outputChannel).toOption.getD []
  let written :=
    match state.channels.list[State.outputChannel]? with
    | some ⟨.pipe front back _, _, _⟩ => front ++ back.reverse
    | _ => output
  (written, { state.disk with workingDirectory := disk.workingDirectory })

end SlotServer.Shell
