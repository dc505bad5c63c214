import SlotServer.Regex.Syntax
import SlotServer.Text.Alphanumeric
import SlotServer.Text.Blank
import SlotServer.Text.Reader

/-!
# Reading regular expressions

The expression that a text stands for, if it stands for one. Numbers of repetitions in braces are
not read: a brace outside a class has to be marked by a backslash. -/

namespace SlotServer.Regex

/-- The rest of a text that is being read. -/
structure Source where
  rest : List Char
  /-- Whether blanks and comments between the parts are left out. -/
  verbose : Bool
  /-- The names of the groups so far. -/
  names : List String
  deriving DecidableEq, Repr

namespace Source

/-- The text without the blanks and comments at its start. A comment goes from a number sign to the
end of the line. -/
def dropComments : Nat → List Char → List Char
  | 0, text => text
  | steps + 1, text =>
    match Text.dropBlank text with
    | '#' :: rest => dropComments steps ((rest.dropWhile (· ≠ '\n')).drop 1)
    | rest => rest

/-- The source without the blanks and comments at its start, where they are left out. -/
def skip (source : Source) : Source :=
  if source.verbose then
    { source with rest := dropComments (source.rest.length + 1) source.rest }
  else source

def skipTo (source : Source) (rest : List Char) : Source :=
  { source with rest }

/-- The character after the next one. A number sign between them is passed over like a blank. -/
def second? (source : Source) : Option Char :=
  let rest := source.rest.tail
  if source.verbose then
    match Text.dropBlank rest with
    | '#' :: rest => (Text.dropBlank rest).head?
    | rest => rest.head?
  else rest.head?

end Source

/-! ## Escapes -/

/-- What a character or an escape is outside a class. -/
inductive Unit where
  | literal (literal : Literal)
  | anyCharacter
  | edge
  | wordEdge
  | shorthand (negated : Bool)
  | property
  deriving DecidableEq, Repr

/-- Reads a number of hexadecimal digits after the number `value`. -/
def hexDigits (value : Nat) : Nat → Source → Option (Nat × Source)
  | 0, source => some (value, source)
  | count + 1, source =>
    match source.skip.rest with
    | [] => none
    | c :: rest =>
      match Text.digit? 16 c with
      | none => none
      | some d => hexDigits (value * 16 + d) count (source.skipTo rest)

def hexLiteral (digits : Nat) (source : Source) : Option (Unit × Source) := do
  let (value, source) ← hexDigits 0 digits source
  if h : value.isValidChar then
    return (.literal ⟨Char.ofNatAux value h, digits = 2⟩, source.skip)
  else none

def controlLetter? : Char → Option Char
  | 'a' => some '\x07'
  | 'f' => some '\x0C'
  | 't' => some '\t'
  | 'n' => some '\n'
  | 'r' => some '\r'
  | 'v' => some '\x0B'
  | _ => none

def escape? (c : Char) : Option Unit :=
  if c = 'A' || c = 'z' then some .edge
  else if c = 'b' || c = 'B' || c = '<' || c = '>' then some .wordEdge
  else if c = 'd' || c = 's' || c = 'w' then some (.shorthand false)
  else if c = 'D' || c = 'S' || c = 'W' then some (.shorthand true)
  else if c.isAlphanum then (controlLetter? c).map fun c => .literal ⟨c, false⟩
  else if c.toNat < 0x80 then some (.literal ⟨c, false⟩)
  else none

def escape (source : Source) : Option (Unit × Source) :=
  match source.rest with
  | [] => none
  | 'x' :: rest => hexLiteral 2 (source.skipTo rest)
  | 'u' :: rest => hexLiteral 4 (source.skipTo rest)
  | 'U' :: rest => hexLiteral 8 (source.skipTo rest)
  | 'p' :: _ :: rest => some (.property, source.skipTo rest)
  | 'P' :: _ :: rest => some (.property, source.skipTo rest)
  | c :: rest => (escape? c).map fun unit => (unit, source.skipTo rest)

/-! ## Classes -/

def classNames : List String :=
  ["alnum", "alpha", "ascii", "blank", "cntrl", "digit", "graph", "lower", "print", "punct",
    "space", "upper", "word", "xdigit"]

/-- Reads a class with a name after its opening bracket: whether it is negated, and the rest. -/
def namedClass? : List Char → Option (Bool × List Char)
  | ':' :: rest =>
    let negated := rest.head? = some '^'
    let rest := if negated then rest.tail else rest
    let name := rest.takeWhile (· ≠ ':')
    match rest.drop name.length with
    | ':' :: ']' :: rest =>
      if classNames.contains (String.ofList name) then some (negated, rest) else none
    | _ => none
  | _ => none

def leadingHyphens : Nat → List ClassSet → Source → List ClassSet × Source
  | 0, items, source => (items, source)
  | steps + 1, items, source =>
    match source.rest with
    | '-' :: rest =>
      leadingHyphens steps (items ++ [.literal ⟨'-', false⟩]) (source.skipTo rest).skip
    | _ => (items, source)

/-- Reads the start of a class after its opening bracket: whether it is negated, and its first items
that would mean something else further on. -/
def classStart (source : Source) : Bool × List ClassSet × Source :=
  let source := source.skip
  let negated := source.rest.head? = some '^'
  let source := if negated then (source.skipTo source.rest.tail).skip else source
  let (items, source) := leadingHyphens source.rest.length [] source
  match items, source.rest with
  | [], ']' :: rest => (negated, [.literal ⟨']', false⟩], (source.skipTo rest).skip)
  | _, _ => (negated, items, source)

def classUnit (source : Source) : Option (Unit × Source) :=
  match source.rest with
  | [] => none
  | '\\' :: rest => escape (source.skipTo rest)
  | c :: rest => some (.literal ⟨c, false⟩, source.skipTo rest)

/-- Reads a character of a class, or a range of them. -/
def classRange (source : Source) : Option (ClassSet × Source) := do
  let (first, source) ← classUnit source
  let source := source.skip
  let second := source.second?
  if source.rest.head? = some '-' ∧ second ≠ some ']' ∧ second ≠ some '-' then
    let (last, source) ← classUnit (source.skipTo source.rest.tail).skip
    match first, last with
    | .literal first, .literal last =>
      if first.char ≤ last.char then return (.range first last, source) else none
    | _, _ => none
  else
    match first with
    | .literal l => return (.literal l, source)
    | .shorthand negated => return (.shorthand negated, source)
    | .property => return (.property, source)
    | _ => none

/-- A class so far: what stands before the last operator, and the items after it. -/
def joinSets (left : Option ClassSet) (items : List ClassSet) : ClassSet :=
  match left with
  | none => .ofItems items
  | some left => .operation left (.ofItems items)

def startsWithOperator : List Char → Bool
  | a :: b :: _ => a = b && (a = '&' || a = '-' || a = '~')
  | _ => false

/-- Reads the rest of a class, up to and with its closing bracket. Each item takes at least one
character, so a number of steps above the length of the text is enough. -/
def classBody : Nat → Option ClassSet → List ClassSet → Source → Option (ClassSet × Source)
  | 0, _, _, _ => none
  | steps + 1, left, items, source =>
    let source := source.skip
    match source.rest with
    | [] => none
    | c :: rest =>
      if c = '[' then
        match namedClass? rest with
        | some (negated, rest) =>
          classBody steps left (items ++ [.named negated]) (source.skipTo rest)
        | none => do
          let (negated, first, inner) := classStart (source.skipTo rest)
          let (set, source) ← classBody steps none first inner
          classBody steps left (items ++ [.bracketed negated set]) source
      else if c = ']' then some (joinSets left items, source.skipTo rest)
      else if startsWithOperator source.rest then
        classBody steps (some (joinSets left items)) [] (source.skipTo rest.tail)
      else do
        let (item, source) ← classRange source
        classBody steps left (items ++ [item]) source

def readClass (source : Source) : Option (Expression × Source) := do
  let (negated, items, source) := classStart source
  let (set, source) ← classBody (source.rest.length + 1) none items source
  return (.characters negated set, source)

/-! ## Groups -/

def flag? : Char → Option Flag
  | 'i' => some .ignoreCase
  | 'm' => some .multiLine
  | 's' => some .dotMatchesNewline
  | 'U' => some .swapGreed
  | 'u' => some .unicode
  | 'R' => some .carriageReturn
  | 'x' => some .verbose
  | _ => none

/-- Reads flags up to the character that ends them. No flag stands there twice, and after the one
hyphen that there may be at least one flag has to follow. -/
def readFlags (changes : FlagChanges) (negated dangling : Bool) :
    List Char → Option (FlagChanges × List Char)
  | [] => none
  | c :: rest =>
    if c = ':' || c = ')' then if dangling then none else some (changes, c :: rest)
    else if c = '-' then if negated then none else readFlags changes true true rest
    else
      match flag? c with
      | none => none
      | some flag =>
        if (changes.map Prod.fst).contains flag then none
        else readFlags (changes ++ [(flag, !negated)]) negated false rest

/-- Whether a character may be the first one of a group's name. -/
def isNameStart (c : Char) : Bool :=
  c = '_' || Text.isAlphabetic c

def isNamePart (c : Char) : Bool :=
  c = '_' || c = '.' || c = '[' || c = ']' || Text.isAlphanumeric c

/-- Reads the name of a group, which no other group has. -/
def readName (source : Source) : Option Source :=
  let name := source.rest.takeWhile (· ≠ '>')
  match name, source.rest.drop name.length with
  | c :: cs, _ :: rest =>
    let text := String.ofList name
    if isNameStart c && cs.all isNamePart && !source.names.contains text then
      some { source with rest, names := text :: source.names }
    else none
  | _, _ => none

/-- What an opening parenthesis begins. -/
inductive Opening where
  | group (changes : FlagChanges)
  | switch (changes : FlagChanges)
  deriving DecidableEq, Repr

/-- Reads the beginning of a group after its parenthesis. Looking ahead or behind is not allowed. -/
def opening (source : Source) : Option (Opening × Source) :=
  let source := source.skip
  match source.rest with
  | '?' :: '=' :: _ => none
  | '?' :: '!' :: _ => none
  | '?' :: '<' :: '=' :: _ => none
  | '?' :: '<' :: '!' :: _ => none
  | '?' :: 'P' :: '<' :: rest => (readName (source.skipTo rest)).map fun s => (.group [], s)
  | '?' :: '<' :: rest => (readName (source.skipTo rest)).map fun s => (.group [], s)
  | '?' :: rest =>
    match readFlags [] false false rest with
    | some (changes, ':' :: rest) => some (.group changes, source.skipTo rest)
    | some (changes, _ :: rest) =>
      if changes.isEmpty then none else some (.switch changes, source.skipTo rest)
    | _ => none
  | _ => some (.group [], source)

/-- Whether blanks are left out after flags are switched. -/
def verboseAfter (verbose : Bool) (changes : FlagChanges) : Bool :=
  (changes.lookup .verbose).getD verbose

/-! ## Expressions -/

def Unit.expression : Unit → Expression
  | literal l => .literal l
  | anyCharacter => .anyCharacter
  | edge => .edge
  | wordEdge => .wordEdge
  | shorthand negated => .shorthand negated
  | property => .property

/-- Reads a character or an escape outside a class. -/
def readUnit (source : Source) : Option (Unit × Source) :=
  match source.rest with
  | [] => none
  | '\\' :: rest => escape (source.skipTo rest)
  | '.' :: rest => some (.anyCharacter, source.skipTo rest)
  | '^' :: rest => some (.edge, source.skipTo rest)
  | '$' :: rest => some (.edge, source.skipTo rest)
  | c :: rest => some (.literal ⟨c, false⟩, source.skipTo rest)

/-- The last part of a sequence with what makes it a repetition. Switched flags cannot be
repeated. -/
def repeated? : List Expression → Option (List Expression)
  | [] => none
  | .switch _ :: _ => none
  | part :: earlier => some (.repetition part :: earlier)

/-- Reads an expression up to the parenthesis that closes it, or to the end of the text, with the
branches and the parts of the last branch that have been read so far, the last one first. Each part
takes at least one character, so a number of steps above the length of the text is enough. -/
def readBody : Nat → List Expression → List Expression → Source → Option (Expression × Source)
  | 0, _, _, _ => none
  | steps + 1, branches, parts, source =>
    let source := source.skip
    let branch := Expression.ofParts parts.reverse
    let whole := Expression.ofBranches (branch :: branches).reverse
    match source.rest with
    | [] => some (whole, source)
    | c :: rest =>
      if c = ')' then some (whole, source)
      else if c = '|' then readBody steps (branch :: branches) [] (source.skipTo rest)
      else if c = '(' then
        match opening (source.skipTo rest) with
        | none => none
        | some (.switch changes, after) =>
          let verbose := verboseAfter source.verbose changes
          readBody steps branches (.switch changes :: parts) { after with verbose }
        | some (.group changes, after) =>
          let verbose := verboseAfter source.verbose changes
          match readBody steps [] [] { after with verbose } with
          | some (body, after) =>
            match after.rest with
            | _ :: rest =>
              let after := { after with rest, verbose := source.verbose }
              readBody steps branches (.group changes body :: parts) after
            | [] => none
          | none => none
      else if c = '[' then do
        let (part, source) ← readClass (source.skipTo rest)
        readBody steps branches (part :: parts) source
      else if c = '?' || c = '*' || c = '+' then do
        let parts ← repeated? parts
        let rest := if rest.head? = some '?' then rest.tail else rest
        readBody steps branches parts (source.skipTo rest)
      else if c = '\x7b' then none
      else do
        let (unit, source) ← readUnit source
        readBody steps branches (unit.expression :: parts) source

def maximalNesting : Nat := 250

def Expression.read? (text : List Char) : Option Expression := do
  let (expression, source) ← readBody (text.length + 1) [] [] ⟨text, false, []⟩
  if source.rest.isEmpty && expression.nesting ≤ maximalNesting then return expression else none

end SlotServer.Regex
