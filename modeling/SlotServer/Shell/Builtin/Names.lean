import SlotServer.Shell.Builtin.Basic
import SlotServer.Shell.Fields
import SlotServer.Shell.Script.Source
import SlotServer.Shell.Setting

/-!
# Names and settings

The commands of the shell that give names a meaning, or take it away: variables, arguments, options
and names that stand for other texts; and the settings of the shell.
-/

namespace SlotServer.Shell.Builtin

/-! ## Variables -/

/-- The name and the value of an assignment that an argument is; there may be no value. -/
def assignment (arg : Bytes) : String × Option Bytes :=
  let name := arg.takeWhile (· ≠ byteOf '=')
  let rest := arg.drop name.length
  (Utf8.decodeString name, if rest.isEmpty then none else some (rest.drop 1))

def checkName (name : String) : Action Unit :=
  if Word.isName name.toList then return else Action.fail s!"{name}: bad variable name"

def showVariables (start : String) (bindings : List (String × Variable)) : Action Unit := do
  let sorted := bindings.mergeSort fun a b => a.1 ≤ b.1
  for (name, variable_) in sorted do
    let value := (variable_.value.map fun v => "=" ++ quoted (Utf8.decodeString v)).getD ""
    emitText s!"{start}{name}{value}\n"

/-- Marks variables, and gives them values where there are any. -/
def declare (word : String) (marked : Variable → Bool) (mark : Variable → Variable) :
    Builtin := fun args => do
  let (letters, names) ← options "p" args
  if letters.isEmpty && !names.isEmpty then
    for arg in names do
      let (name, value) := assignment arg
      let old := (← get).bindings.lookup name
      match value, old with
      | none, some v => modify fun state => state.setVariable name (some (mark v))
      | none, none =>
        checkName name
        modify fun state => state.setVariable name (some (mark ⟨none, state.isOn 'a', false⟩))
      | some value, _ =>
        checkName name
        Action.assign name value
        let v := ((← get).bindings.lookup name).getD ⟨some value, false, false⟩
        modify fun state => state.setVariable name (some (mark v))
  else showVariables (word ++ " ") ((← get).bindings.filter fun (_, v) => marked v)
  finish 0

/-- Lets programs know variables. -/
def exportVariables : Builtin :=
  declare "export" (·.isExported) fun v => { v with isExported := true }

def readonly : Builtin :=
  declare "readonly" (·.isReadOnly) fun v => { v with isReadOnly := true }

/-- Keeps variables for the time after the function. -/
def localVariables : Builtin := fun args => do
  if (← get).frames.isEmpty then Action.fail "not in a function"
  else
    for arg in args do
      if arg = [byteOf '-'] then
        modify fun state =>
          match state.frames with
          | [] => state
          | frame :: frames =>
            let settings := some (frame.settings.getD state.settings)
            { state with frames := { frame with settings } :: frames }
      else
        let (name, value) := assignment arg
        checkName name
        Action.keep name
        match value with
        | some value => Action.assign name value
        | none =>
          if ((← get).bindings.lookup name).isNone then
            modify fun state => state.setVariable name (some ⟨none, state.isOn 'a', false⟩)
    finish 0

def unsetVariable (name : String) : Action Unit := do
  checkName name
  if ((← get).bindings.lookup name).any (·.isReadOnly) then Action.fail s!"{name}: is read only"
  else
    modify fun state => state.setVariable name none
    if name = "PATH" then modify fun state => { state with found := [] }

/-- Takes variables or functions away. -/
def unset : Builtin := fun args => do
  let (letters, names) ← options "vf" args
  for name in texts names do
    if letters.getLast? = some 'f' then
      modify fun state =>
        { state with functions := state.functions.filter fun (n, _) => n != name }
    else unsetVariable name
  finish 0

/-! ## Settings and arguments -/

def changeSetting (letter : Char) (on : Bool) : Action Unit :=
  if Setting.isKnown letter then
    modify fun state => { state with settings := Setting.changed state.settings letter on }
  else Action.fail s!"Illegal option -{letter}"

/-- Changes the setting of a name, or shows all of them where there is none. -/
def changeNamed (name : Option String) (on : Bool) : Action Unit := do
  match name with
  | none =>
    let settings := (← get).settings
    emitText (if on then Setting.table settings else Setting.commands settings)
  | some name =>
    match Setting.all.lookup name with
    | some letter =>
      modify fun state => { state with settings := Setting.changed state.settings letter on }
    | none => Action.fail s!"Illegal option -o {name}"

/-- Changes the settings that letters stand for, and gives the arguments that are left. -/
def changeLetters (on : Bool) : List Char → List String → Action Nat
  | [], args => return args.length
  | c :: rest, args => do
    if c = 'o' then
      changeNamed args.head? on
      changeLetters on rest (args.drop 1)
    else
      changeSetting c on
      changeLetters on rest args

/-- Changes settings as the arguments say, and gives the arguments after them; nothing if the
arguments of the shell stay as they are. -/
def changeSettings : Nat → List Bytes → Action (Option (List Bytes))
  | 0, _ => return none
  | _ + 1, [] => return none
  | steps + 1, arg :: args => do
    match (Utf8.decodeString arg).toList with
    | ['-'] =>
      modify fun state =>
        { state with settings := state.settings.filter fun c => c ≠ 'x' && c ≠ 'v' }
      return if args.isEmpty then none else some args
    | ['-', '-'] => return some args
    | sign :: letters =>
      if sign = '-' || sign = '+' then
        let left ← changeLetters (sign = '-') letters (texts args)
        changeSettings steps (args.drop (args.length - left))
      else return some (arg :: args)
    | [] => return some (arg :: args)

def setArguments (args : List Bytes) : Action Unit :=
  modify fun state => { state with arguments := args, nextOption := (1, none) }

/-- Changes settings and arguments, or shows all variables. -/
def set : Builtin := fun args => do
  if args.isEmpty then
    showVariables "" ((← get).bindings.filter fun (_, v) => v.value.isSome)
  else
    let rest ← changeSettings (args.length + 1) args
    if (← get).isOn 'm' then
      Action.report "can't access tty; job control turned off"
      modify fun state => { state with settings := state.settings.filter (· ≠ 'm') }
    match rest with
    | some args => setArguments args
    | none => pure ()
  finish 0

/-- Takes arguments away from the front. -/
def shift : Builtin := fun args => do
  let n ←
    match texts args with
    | [] => pure 1
    | arg :: _ => Action.naturalArgument arg
  let arguments := (← get).arguments
  if arguments.length < n then Action.fail "can't shift that many"
  else
    setArguments (arguments.drop n)
    finish 0

/-! ## Options of scripts -/

/-- How an option of a script is looked for. -/
structure OptionSearch where
  /-- The letter that was found, or a sign that something is wrong. -/
  letter : Char
  value : Option Bytes
  message : Option String
  isDone : Bool
  index : Nat
  offset : Option Nat

/-- What the letters of a script's options say about one of them: whether something belongs to
it. -/
def letterOf? : List Char → Char → Option Bool
  | [], _ => none
  | [c], wanted => if c = wanted then some false else none
  | c :: ':' :: later, wanted => if c = wanted then some true else letterOf? later wanted
  | c :: d :: later, wanted => if c = wanted then some false else letterOf? (d :: later) wanted

/-- Looks for the next option of a script among its arguments. -/
def nextOption (letters : List Char) (args : List Bytes) (index : Nat) (offset : Option Nat) :
    OptionSearch :=
  let isQuiet := letters.head? = some ':'
  let within : Bytes :=
    match offset with
    | none => []
    | some n => if index ≤ 1 then [] else (args.getD (index - 2) []).drop n
  let none_ (index : Nat) : OptionSearch := ⟨'?', none, none, true, index, none⟩
  let found (text : Bytes) (index : Nat) : OptionSearch :=
    match text with
    | [] => none_ index
    | b :: rest =>
      let c := Char.ofNat b.toNat
      let length := (args.getD (index - 2) []).length - rest.length
      let later : Option Nat := some length
      match letterOf? letters c with
      | none =>
        if isQuiet then ⟨'?', some [b], none, false, index, later⟩
        else ⟨'?', none, some s!"Illegal option -{c}", false, index, later⟩
      | some false => ⟨c, some [], none, false, index, later⟩
      | some true =>
        if !rest.isEmpty then ⟨c, some rest, none, false, index, none⟩
        else
          match args[index - 1]? with
          | some value => ⟨c, some value, none, false, index + 1, none⟩
          | none =>
            if isQuiet then ⟨':', some [b], none, false, index, later⟩
            else ⟨'?', none, some s!"No arg for -{c} option", false, index, later⟩
  if !within.isEmpty then found within index
  else
    match args[index - 1]? with
    | none => none_ index
    | some arg =>
      match arg with
      | hyphen :: rest =>
        if hyphen ≠ byteOf '-' || rest.isEmpty then none_ index
        else if rest = [byteOf '-'] then none_ (index + 1)
        else found rest (index + 1)
      | [] => none_ index

/-- Finds the next option of a script. -/
def getopts : Builtin := fun args => do
  match args with
  | letters :: name :: more =>
    let state ← get
    let args := if more.isEmpty then state.arguments else more
    let (index, offset) := state.nextOption
    let (index, offset) := if args.length + 1 < index then (1, none) else (index, offset)
    let search := nextOption (Utf8.decodeString letters).toList args index offset
    match search.message with
    | some message =>
      Action.say 2 (message ++ "\n")
      unsetVariable "OPTARG"
    | none => pure ()
    match search.value with
    | some value => Action.assign "OPTARG" value
    | none => pure ()
    Action.assign "OPTIND" (Utf8.encodeString (toString search.index))
    let name := Utf8.decodeString name
    checkName name
    Action.assign name [byteOf search.letter]
    modify fun state => { state with nextOption := (search.index, search.offset) }
    finish (if search.isDone then 1 else 0)
  | _ => Action.fail "Usage: getopts optstring var [arg...]"

/-! ## Reading lines -/

/-- A line that was read, in segments: what a backslash stands in front of is not cut. -/
structure LineRead where
  /-- The segments, the last one first. -/
  segments : List Segment
  taken : Nat
  /-- Whether the end of the line was found. -/
  isWhole : Bool

def readLine (raw : Bool) : Bytes → LineRead → LineRead
  | [], line => line
  | b :: rest, line =>
    let add (splitting : Splitting) (b : UInt8) (line : LineRead) : LineRead :=
      match splitting, line.segments with
      | .atSeparators, ⟨.atSeparators, items⟩ :: earlier =>
        { line with segments := ⟨.atSeparators, .byte b false :: items⟩ :: earlier }
      | splitting, earlier =>
        { line with segments := ⟨splitting, [.byte b false]⟩ :: earlier }
    let line := { line with taken := line.taken + 1 }
    if b = 0x0A then { line with isWhole := true }
    else if b = 0 then readLine raw rest line
    else if b = byteOf '\\' && !raw then
      match rest with
      | [] => line
      | c :: rest =>
        let line := { line with taken := line.taken + 1 }
        if c = 0x0A then
          readLine raw rest { line with segments := ⟨.atSeparators, []⟩ :: line.segments }
        else if c = 0 then readLine raw rest line
        else readLine raw rest (add .whole c line)
    else readLine raw rest (add .atSeparators b line)

/-- Gives variables the fields of a line, and nothing where there are too few. -/
def assignFields : List String → List Bytes → Action Unit
  | [], _ => return
  | name :: names, fields => do
    checkName name
    Action.assign name (fields.headD [])
    assignFields names (fields.drop 1)

def read : Builtin := fun args => do
  let steps := (args.map List.length).foldl (· + ·) (args.length + 1)
  let (letters, names) ← takeOptions [('p', true), ('r', false)] steps args
  if names.isEmpty then Action.fail "arg count"
  else
    let input := ((← Action.readable 0).toOption).getD []
    let line := readLine ((letters.lookup 'r').isSome) input ⟨[], 0, false⟩
    Action.consume 0 line.taken
    let segments := line.segments.reverse.map fun s => { s with items := s.items.reverse }
    let separators := (← get).separators?.getD Fields.usualSeparators
    let fields := Fields.ofSegments separators (some names.length) segments
    assignFields (texts names) (fields.map Fields.bytes)
    finish (if line.isWhole then 0 else 1)

/-! ## Names that stand for texts -/

/-- Lets names stand for other texts, or shows what they stand for. -/
def aliasTexts : Builtin := fun args => do
  let shown (name text : String) : String := s!"{name}={quoted text}\n"
  if args.isEmpty then
    for (name, text) in inBuckets 39 (← get).aliases do emitText (shown name text)
    finish 0
  else
    let mut status := 0
    for arg in texts args do
      let name := String.ofList (arg.toList.takeWhile (· ≠ '='))
      if name.length < arg.length && !name.isEmpty then
        let text := String.ofList (arg.toList.drop (name.length + 1))
        modify fun state =>
          { state with aliases :=
              (state.aliases.filter fun (n, _) => n != name) ++ [(name, text)] }
      else
        match (← get).aliases.lookup arg with
        | some text => emitText (shown arg text)
        | none =>
          Action.say 2 s!"alias: {arg} not found\n"
          status := 1
    finish status

/-- Lets names stand for themselves again. -/
def unalias : Builtin := fun args => do
  let (letters, names) ← options "a" args
  if letters.contains 'a' then
    modify fun state => { state with aliases := [] }
    finish 0
  else
    let mut status := 0
    for name in texts names do
      if ((← get).aliases.lookup name).isNone then
        Action.say 2 s!"unalias: {name} not found\n"
        status := 1
      modify fun state =>
        { state with aliases := state.aliases.filter fun (n, _) => n != name }
    finish status

end SlotServer.Shell.Builtin
