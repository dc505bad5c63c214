import SlotServer.Shell.Arithmetic
import SlotServer.Shell.Fields
import SlotServer.Shell.Setting
import SlotServer.Shell.State

/-!
# Expansion

What words come to: parameters, outputs of scripts and arithmetic expressions are replaced by their
values, values outside of quotes are cut into fields, and patterns are replaced by the paths that
they stand for.
-/

namespace SlotServer.Shell

namespace Expansion

/-! ## Home directories -/

def homes : List (String × String) :=
  [("root", "/root"), ("daemon", "/usr/sbin"), ("bin", "/bin"), ("sys", "/dev"),
    ("nobody", "/nonexistent"), ("www-data", "/var/www")]

/-- The characters of a user's name at the start of a word, and the word after them; nothing if
something that is quoted or that has a value is part of the name. -/
def userName? (isAssigned : Bool) : Word → Option (List Char × Word)
  | [] => some ([], [])
  | .plain c :: rest =>
    if c = '/' || (isAssigned && c = ':') then some ([], .plain c :: rest)
    else (userName? isAssigned rest).map fun (name, after) => (c :: name, after)
  | _ => none

/-- The home directory that a tilde at the start of a word stands for, and how many characters
belong to the user's name after it. -/
def home? (state : State) (isAssigned : Bool) (rest : Word) : Option (String × Nat) :=
  match userName? isAssigned rest with
  | none => none
  | some (name, _) =>
    let home :=
      if name.isEmpty then (state.value? "HOME").map Utf8.decodeString
      else homes.lookup (String.ofList name)
    home.map fun home => (home, name.length)

/-- Where in a word a tilde stands for a home directory. -/
inductive Tildes where
  | nowhere
  | atStart
  | afterColons
  deriving DecidableEq, Repr

/-! ## Parameters -/

/-- The bytes of arguments, with something between them. -/
def joined (separator : Bytes) (arguments : List Bytes) : Bytes :=
  separator.intercalate arguments

/-- The value of a parameter, if it is set. A zero stands between arguments that stay apart. -/
def parameter? (state : State) (isFull quoted : Bool) (name : String) : Option Bytes :=
  let number (n : Nat) : Option Bytes := some (Utf8.encodeString (toString n))
  let first : Bytes :=
    match state.separators? with
    | none => [0x20]
    | some separators => separators.take 1
  let all : Option Bytes :=
    if quoted || !isFull then some (joined first state.arguments)
    else some (joined (if state.separators?.isNone then [0x20] else [0]) state.arguments)
  match name with
  | "?" => number state.status
  | "#" => number state.arguments.length
  | "$" => number state.process
  | "!" => state.lastJob.bind number
  | "-" => some (Utf8.encode (Setting.letters state.settings))
  | "@" => if quoted && isFull then some (joined [0] state.arguments) else all
  | "*" => all
  | _ =>
    match name.toNat? with
    | some 0 => some (Utf8.encodeString state.name)
    | some n => state.arguments[n - 1]?
    | none => state.value? name

/-- The items of a value, in which a zero stands between arguments. -/
def items (quoted : Bool) (value : Bytes) : List Item :=
  value.map fun b => if b = 0 then .gap else .byte b quoted

def valueSegments (quoted : Bool) (value : Bytes) : List Segment :=
  if quoted then [⟨.whole, items true value⟩] else [⟨.atSeparators, items false value⟩]

def parameterSegments (state : State) (quoted : Bool) (name : String) (value : Bytes) :
    List Segment :=
  if quoted && name = "@" then
    if state.arguments.isEmpty then [] else [⟨.atGaps, items true value⟩]
  else valueSegments quoted value

/-- The parts of a value that a pattern stands for at its end or at its start: the lengths to cut
off, the least one first. -/
def cuts (pattern : Pattern) (atEnd : Bool) (value : Bytes) : List Nat :=
  (List.range (value.length + 1)).filter fun n =>
    pattern.accepts (if atEnd then value.drop (value.length - n) else value.take n)

def trimmed (pattern : Pattern) (atEnd longest : Bool) (value : Bytes) : Bytes :=
  let found := cuts pattern atEnd value
  match if longest then found.getLast? else found.head? with
  | none => value
  | some n => if atEnd then value.take (value.length - n) else value.drop n

def withoutLastNewlines (text : Bytes) : Bytes :=
  (text.reverse.dropWhile (· = 0x0A)).reverse

def arithmetic (expression : Bytes) : Action Bytes := do
  let state ← get
  let source := Utf8.decodeString expression
  let bindings : Arithmetic.Variables :=
    { value? := fun name => (state.value? name).map Utf8.decodeString
      isReadOnly := fun name => (state.bindings.lookup name).any (·.isReadOnly) }
  match Arithmetic.evaluate bindings source with
  | .error fault => Action.fail (fault.message source)
  | .ok (n, assigned) =>
    for (name, value) in assigned do
      Action.assign name (Utf8.encodeString (toString value.toInt))
    return Utf8.encodeString (toString n.toInt)

/-! ## Pieces -/

def allItems (segments : List Segment) : List Item :=
  segments.flatMap Segment.items

/-- A segment put in front of others; plain text goes on in the text after it. -/
def before (isRun : Bool) (first : Segment) (rest : List Segment) : List Segment :=
  match isRun, rest with
  | true, next :: later => ⟨first.splitting, first.items ++ next.items⟩ :: later
  | _, _ => first :: rest

/-- How the pieces of a word are replaced. -/
structure Manner where
  /-- Whether the arguments of the shell stay apart. -/
  isFull : Bool
  /-- Whether plain text is cut into fields too. -/
  breaks : Bool
  tildes : Tildes

/-- Values are put in, and nothing is cut. -/
def Manner.whole (tildes : Tildes) : Manner := ⟨false, false, tildes⟩

def Manner.argument (manner : Manner) (quoted : Bool) : Manner :=
  { manner with breaks := !quoted, tildes := if quoted then .nowhere else .atStart }

/-- What the pieces of a word come to, when so many of them are skipped; `output` runs a script and
gives what it writes. A tilde counts as one at the start if `isStart` says so. -/
def ofPieces (output : Option Script → Action Bytes) (manner : Manner) (isStart : Bool)
    (skipped : Nat) (word : Word) : Action (List Segment) := do
  match word, skipped with
  | [], _ => return []
  | _ :: rest, skipped + 1 => ofPieces output manner false skipped rest
  | piece :: rest, 0 =>
    match piece with
    | .plain c =>
      let bytes := (Utf8.encode [c]).map fun b => Item.byte b false
      let isRun := rest.head?.any fun next => next matches .plain _
      let first : Segment := ⟨if manner.breaks then .atSeparators else .whole, bytes⟩
      let state ← get
      let home :=
        if c = '~' && isStart && manner.tildes ≠ .nowhere then
          home? state (manner.tildes == .afterColons) rest
        else none
      match home with
      | some (home, length) =>
        let home : Segment := ⟨.whole, items true (Utf8.encodeString home)⟩
        return home :: (← ofPieces output manner false length rest)
      | none =>
        let isStart := c = ':' && manner.tildes = .afterColons
        return before isRun first (← ofPieces output manner isStart 0 rest)
    | .quoted text =>
      let bytes := (Utf8.encodeString text).map fun b => Item.byte b true
      return ⟨.whole, .mark :: bytes⟩ :: (← ofPieces output manner false 0 rest)
    | .output quoted script =>
      let text := withoutLastNewlines ((← output script).filter (· ≠ 0))
      return valueSegments quoted text ++ (← ofPieces output manner false 0 rest)
    | .arithmetic quoted expression =>
      let inner ← ofPieces output (.whole .nowhere) false 0 expression
      let value ← arithmetic (Fields.bytes (allItems inner))
      return valueSegments quoted value ++ (← ofPieces output manner false 0 rest)
    | .parameter quoted name change argument =>
      let state ← get
      let value? := parameter? state manner.isFull quoted name
      let given (value : Bytes) : List Segment := parameterSegments state quoted name value
      let isSet (emptyToo : Bool) : Bool := value?.any fun v => !(emptyToo && v.isEmpty)
      let needed : Action Bytes :=
        match value? with
        | some value => return value
        | none =>
          if state.isOn 'u' then Action.fail s!"{name}: parameter not set" else return []
      let alternative : Action (List Segment) :=
        ofPieces output (manner.argument quoted) true 0 argument
      let inner : Action (List Item) := do
        let tildes := if quoted then Tildes.nowhere else .atStart
        return allItems (← ofPieces output (.whole tildes) true 0 argument)
      let trim (atEnd longest : Bool) : Action (List Segment) := do
        let value ← needed
        let pattern := Pattern.ofWord (Fields.markedBytes (← inner))
        return given (trimmed pattern atEnd longest value)
      let first ←
        match change with
        | .wrong => Action.fail "Bad substitution"
        | .keep => do pure (given (← needed))
        | .length => do
          pure (valueSegments quoted (Utf8.encodeString (toString (← needed).length)))
        | .orElse emptyToo =>
          if isSet emptyToo then pure (given (value?.getD [])) else alternative
        | .ifSet emptyToo => if isSet emptyToo then alternative else pure []
        | .orAssign emptyToo =>
          if isSet emptyToo then pure (given (value?.getD []))
          else do
            let value := Fields.bytes (← inner)
            if !Word.isName name.toList then Action.fail s!"{name}: bad variable name"
            else
              Action.assign name value
              pure (valueSegments quoted value)
        | .orFail emptyToo =>
          if isSet emptyToo then pure (given (value?.getD []))
          else do
            let text := Utf8.decodeString (Fields.bytes (← inner))
            let message :=
              if argument.isEmpty then
                "parameter not set" ++ if emptyToo then " or null" else ""
              else text
            Action.fail s!"{name}: {message}"
        | .dropSuffix longest => trim true longest
        | .dropPrefix longest => trim false longest
      return first ++ (← ofPieces output manner false 0 rest)
termination_by word

/-! ## Paths -/

/-- The names in a directory that a pattern stands for. Names that begin with a point are stood for
only by patterns that do so too. -/
def namesIn (disk : Disk) (directory : String) (pattern : Pattern) : List String :=
  match disk.resolve (if directory.isEmpty then "." else directory) with
  | .error _ => []
  | .ok target =>
    if disk.node? target.place != some .directory then []
    else
      let names := "." :: ".." :: (disk.list target.place).map Prod.fst
      let hidden := pattern.head? == some (.byte (Pattern.code '.'))
      let fits (name : String) : Bool :=
        (hidden || name.toList.head? ≠ some '.') && pattern.accepts (Utf8.encodeString name)
      (names.filter fits).mergeSort fun a b => a ≤ b

/-- The paths that the parts of a pattern stand for, `front` being the part of the path that stands
already. -/
def paths (disk : Disk) (front : String) : List (List MarkedByte) → List String
  | [] => [front]
  | part :: rest =>
    let pattern := Pattern.ofWord part
    let slash := if rest.isEmpty then "" else "/"
    if pattern.isOpen then
      (namesIn disk front pattern).flatMap fun name => paths disk (front ++ name ++ slash) rest
    else
      let text := pattern.filterMap fun part =>
        match part with
        | .byte b => some b
        | _ => none
      paths disk (front ++ Utf8.decodeString text ++ slash) rest

def exists? (disk : Disk) (path : String) : Bool :=
  match disk.resolve path false with
  | .error _ => false
  | .ok target =>
    match disk.node? target.place with
    | none => false
    | some node => !target.asDirectory || node == .directory

/-- The paths that a field stands for, if it is a pattern that stands for any, and otherwise the
field itself. -/
def pathsOf (state : State) (field : List Item) : List Bytes :=
  let marked := Fields.markedBytes field
  let isPattern := marked.any fun b => b.isPlain '*' || b.isPlain '?' || b.isPlain '['
  let itself := Fields.bytes field
  if state.isOn 'f' || !isPattern then [itself]
  else
    let parts := Text.splitAt 0x2F (marked.map fun b => b.byte)
    let lengths := parts.map List.length
    let (split, _) := lengths.foldl (fun (done, left) n =>
      (done ++ [left.take n], left.drop (n + 1))) (([] : List (List MarkedByte)), marked)
    if split.any fun part => (Pattern.ofWord part).isOpen then
      let found := (paths state.disk "" split).filter (exists? state.disk)
      if found.isEmpty then [itself] else found.map Utf8.encodeString
    else [itself]

/-! ## Words -/

def fields (output : Option Script → Action Bytes) (word : Word) : Action (List Bytes) := do
  let segments ← ofPieces output ⟨true, false, .atStart⟩ true 0 word
  let state ← get
  let separators := state.separators?.getD Fields.usualSeparators
  return (Fields.ofSegments separators none segments).flatMap (pathsOf state)

/-- What a word comes to that is not cut into fields. -/
def whole (output : Option Script → Action Bytes) (tildes : Tildes) (word : Word) :
    Action (List MarkedByte) := do
  return Fields.markedBytes (allItems (← ofPieces output (.whole tildes) true 0 word))

def text (output : Option Script → Action Bytes) (word : Word) : Action Bytes := do
  return (← whole output .atStart word).map MarkedByte.byte

def assigned (output : Option Script → Action Bytes) (word : Word) : Action Bytes := do
  return (← whole output .afterColons word).map MarkedByte.byte

def pattern (output : Option Script → Action Bytes) (word : Word) : Action Pattern := do
  return Pattern.ofWord (← whole output .atStart word)

end Expansion

end SlotServer.Shell
