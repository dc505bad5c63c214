import SlotServer.Text.Utf8

/-!
# Options of utilities

How the arguments of a utility are taken apart. An option is a letter after a hyphen, several of
which can stand together, or a name after two hyphens, which can be cut short as long as it is clear
which one is meant. A value is attached to its option or follows it. Two hyphens alone end the
options.
-/

namespace SlotServer.Shell.Utility

/-- Whether an option has a value. -/
inductive Taking where
  | nothing
  | value
  | attached
  deriving DecidableEq, Repr

/-- The options that a utility knows. -/
structure OptionTable where
  /-- The letters; a letter whose option has a value is followed by a colon, and by two if the value
  has to be attached. -/
  letters : String
  /-- The names, each with the option that it is another form of. A name whose option has a value
  ends in `=`, and in `=?` if the value has to be attached. -/
  names : List (String × String) := []
  /-- Whether the options end where the first argument stands that is none. -/
  endsAtOperand : Bool := false

/-- Arguments that were taken apart. -/
structure Options where
  /-- The options in order, each with its value. -/
  given : List (String × String)
  operands : List String
  deriving Repr

/-- What is wrong with options. -/
inductive OptionFault where
  | unknownLetter (c : Char)
  | letterWithoutValue (c : Char)
  | unknownName (name : String)
  | ambiguousName (name : String) (meant : List String)
  | nameWithoutValue (name : String)
  | nameWithValue (name : String)

def OptionFault.message : OptionFault → String
  | .unknownLetter c => s!"invalid option -- '{c}'"
  | .letterWithoutValue c => s!"option requires an argument -- '{c}'"
  | .unknownName name => s!"unrecognized option '--{name}'"
  | .ambiguousName name meant =>
    let list := " ".intercalate (meant.map fun m => s!"'--{m}'")
    s!"option '--{name}' is ambiguous; possibilities: {list}"
  | .nameWithoutValue name => s!"option '--{name}' requires an argument"
  | .nameWithValue name => s!"option '--{name}' doesn't allow an argument"

namespace Options

def has (o : Options) (option : String) : Bool :=
  o.given.any fun (name, _) => name = option

def hasAny (o : Options) (options : List String) : Bool :=
  o.given.any fun (name, _) => options.contains name

/-- The value of an option; the last one counts. -/
def value? (o : Options) (option : String) : Option String :=
  (o.given.reverse.find? fun (name, _) => name = option).map Prod.snd

def values (o : Options) (option : String) : List String :=
  o.given.filterMap fun (name, value) => if name = option then some value else none

def last? (o : Options) (options : List String) : Option String :=
  (o.given.reverse.find? fun (name, _) => options.contains name).map Prod.fst

def push (o : Options) (option value : String) : Options :=
  { o with given := (option, value) :: o.given }

end Options

namespace OptionTable

def taking? (table : OptionTable) (c : Char) : Option Taking :=
  if c = ':' then none
  else
    match table.letters.toList.dropWhile (· ≠ c) with
    | [] => none
    | _ :: ':' :: ':' :: _ => some .attached
    | _ :: ':' :: _ => some .value
    | _ => some .nothing

def named (name : String) : String × Taking :=
  let bare := String.ofList (name.toList.takeWhile (· ≠ '='))
  let taking : Taking :=
    if name.endsWith "=?" then .attached else if name.endsWith "=" then .value else .nothing
  (bare, taking)

/-- The entry that a name means. It may be cut short if all entries that it begins are forms of
the same option. -/
def lookUp? (table : OptionTable) (name : String) :
    Except OptionFault (String × String × Taking) :=
  let all := table.names.map fun (n, option) =>
    let (bare, taking) := named n
    (bare, option, taking)
  match all.find? fun (bare, _, _) => bare = name with
  | some found => .ok found
  | none =>
    match all.filter fun (bare, _, _) => bare.startsWith name with
    | [] => .error (.unknownName name)
    | first :: more =>
      if more.all fun m => m.2 == first.2 then .ok first
      else .error (.ambiguousName name ((first :: more).map Prod.fst))

/-- Takes apart the letters that stand together in one argument, with the arguments that follow
it. -/
def takeLetters (table : OptionTable) :
    List Char → List String → Except OptionFault (List (String × String) × List String)
  | [], rest => .ok ([], rest)
  | c :: more, rest =>
    let option := String.singleton c
    match table.taking? c with
    | none => .error (.unknownLetter c)
    | some .nothing => do
      let (given, rest) ← takeLetters table more rest
      return ((option, "") :: given, rest)
    | some .attached => .ok ([(option, String.ofList more)], rest)
    | some .value =>
      match more, rest with
      | [], [] => .error (.letterWithoutValue c)
      | [], value :: rest => .ok ([(option, value)], rest)
      | _, _ => .ok ([(option, String.ofList more)], rest)

/-- Takes a name apart from its value, with the arguments that follow it. -/
def takeName (table : OptionTable) (text : List Char) (rest : List String) :
    Except OptionFault ((String × String) × List String) := do
  let name := text.takeWhile (· ≠ '=')
  let value? := (text.drop name.length).tail?
  let (bare, option, taking) ← table.lookUp? (String.ofList name)
  match taking, value?, rest with
  | .nothing, some _, _ => throw (.nameWithValue bare)
  | .value, none, [] => throw (.nameWithoutValue bare)
  | .value, none, value :: rest => return ((option, value), rest)
  | _, value?, rest => return ((option, String.ofList (value?.getD [])), rest)

/-- Takes arguments apart; `steps` is at least their number. -/
def takeAll (table : OptionTable) : Nat → List String → Except OptionFault Options
  | 0, args => .ok ⟨[], args⟩
  | _ + 1, [] => .ok ⟨[], []⟩
  | steps + 1, arg :: rest =>
    match arg.toList with
    | ['-', '-'] => .ok ⟨[], rest⟩
    | '-' :: '-' :: text => do
      let (given, rest) ← table.takeName text rest
      let more ← table.takeAll steps rest
      return { more with given := given :: more.given }
    | '-' :: c :: text => do
      let (given, rest) ← table.takeLetters (c :: text) rest
      let more ← table.takeAll steps rest
      return { more with given := given ++ more.given }
    | _ =>
      if table.endsAtOperand then .ok ⟨[], arg :: rest⟩
      else do
        let more ← table.takeAll steps rest
        return { more with operands := arg :: more.operands }

def take (table : OptionTable) (args : List String) : Except OptionFault Options :=
  table.takeAll (args.length + 1) args

end OptionTable

end SlotServer.Shell.Utility
