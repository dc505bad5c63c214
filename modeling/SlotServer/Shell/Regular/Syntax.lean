import SlotServer.Shell.Pattern
import SlotServer.Text.Reader

/-!
# Regular expressions of utilities

The expressions that say which texts are looked for, and how they are read. There are two ways to
write them: in the basic one a backslash makes an operator of a character, in the extended one it
takes the meaning away from an operator.
-/

namespace SlotServer.Shell

/-- A place that an expression can ask for. -/
inductive Anchor where
  | lineStart | lineEnd | textStart | textEnd | wordStart | wordEnd | wordEdge | noWordEdge
  deriving DecidableEq, Repr

/-- A regular expression. -/
inductive Regular where
  | empty
  | byte (b : UInt8)
  | any
  /-- A byte that is one of these, or none of them. -/
  | oneOf (negated : Bool) (members : List Pattern.Member)
  | anchor (place : Anchor)
  /-- A part whose text is remembered under a number. -/
  | group (number : Nat) (inner : Regular)
  /-- The text that is remembered under a number. -/
  | recall (number : Nat)
  | sequence (first second : Regular)
  | either (first second : Regular)
  | repeated (inner : Regular) (least : Nat) (most : Option Nat)
  deriving Repr

namespace Regular

/-- How expressions are written. -/
structure Dialect where
  extended : Bool
  /-- Whether a closing parenthesis without an opening one stands for itself. -/
  sparesClosing : Bool
  /-- Whether an operator that has nothing to repeat is left out, or not allowed. -/
  sparesOperators : Bool
  /-- Whether a count in braces that is none stands for itself. -/
  sparesBraces : Bool
  /-- Whether a backslash in front of a letter can stand for a control character. -/
  hasEscapes : Bool
  /-- Whether a backslash in front of a `d` stands for a digit. -/
  hasDigits : Bool := false

/-- What is wrong with an expression. -/
inductive Problem where
  | general
  | unmatchedParenthesis
  | unmatchedClosing
  | unmatchedBracket
  | unmatchedBrace
  | badBrace
  | badRange
  | badClass
  | badCollation
  | badReference
  | trailingBackslash
  | nothingToRepeat
  | tooBig
  deriving DecidableEq, Repr

def Problem.message : Problem → String
  | .general => "Invalid regular expression"
  | .unmatchedParenthesis => "Unmatched ( or \\("
  | .unmatchedClosing => "Unmatched ) or \\)"
  | .unmatchedBracket => "Unmatched [, [^, [:, [., or [="
  | .unmatchedBrace => "Unmatched \\\x7b"
  | .badBrace => "Invalid content of \\\x7b\\\x7d"
  | .badRange => "Invalid range end"
  | .badClass => "Invalid character class name"
  | .badCollation => "Invalid collation character"
  | .badReference => "Invalid back reference"
  | .trailingBackslash => "Trailing backslash"
  | .nothingToRepeat => "Invalid preceding regular expression"
  | .tooBig => "Regular expression too big"

/-- What a backslash and a letter stand for, if they stand for a control character. -/
def controls : List (Char × UInt8) :=
  [('a', 0x07), ('f', 0x0C), ('n', 0x0A), ('r', 0x0D), ('t', 0x09), ('v', 0x0B)]

/-! ## Lists in brackets -/

def code (c : Char) : UInt8 := c.toNat.toUInt8

/-- What stands between a bracket with a mark and the mark with a bracket, and what follows. -/
def marked? (mark : UInt8) : Bytes → Option (Bytes × Bytes)
  | a :: b :: rest =>
    if a = mark && b = code ']' then some ([], rest)
    else (marked? mark (b :: rest)).map fun (inside, after) => (a :: inside, after)
  | _ => none

/-- One end of a range: a byte, perhaps in brackets with points, and what follows it. -/
def rangeEnd : Bytes → Except Problem (Option (UInt8 × Bytes))
  | [] => .ok none
  | b :: rest =>
    let isMarked := b = code '[' && rest.head? = some (code '.')
    if !isMarked then .ok (some (b, rest))
    else
      match marked? (code '.') (rest.drop 1) with
      | some ([one], after) => .ok (some (one, after))
      | some _ => .error .badCollation
      | none => .error .unmatchedBracket

/-- The members of a list in brackets up to the closing bracket, and what follows it. -/
def members : Nat → Bool → Bytes → Except Problem (List Pattern.Member × Bytes)
  | 0, _, _ => .error .unmatchedBracket
  | steps + 1, isFirst, text =>
    match text with
    | [] => .error .unmatchedBracket
    | b :: rest =>
      if b = code ']' && !isFirst then .ok ([], rest)
      else
        let mark := if b = code '[' then rest.head?.getD 0 else 0
        if mark = code ':' then
          match marked? mark (rest.drop 1) with
          | none => .error .unmatchedBracket
          | some (name, after) => do
            let name := Utf8.decodeString name
            if Pattern.classes.any fun (n, _) => n = name then
              let (more, after) ← members steps false after
              return (.named name :: more, after)
            else throw .badClass
        else if mark = code '=' then
          match marked? mark (rest.drop 1) with
          | none => .error .unmatchedBracket
          | some ([one], after) => do
            let (more, after) ← members steps false after
            return (.range one one :: more, after)
          | some _ => .error .badCollation
        else do
          match ← rangeEnd text with
          | none => throw .unmatchedBracket
          | some (low, after) =>
            match after with
            | dash :: last :: later =>
              if dash = code '-' && last ≠ code ']' then
                match ← rangeEnd (last :: later) with
                | none => throw .unmatchedBracket
                | some (high, after) =>
                  if high < low then throw .badRange
                  else
                    let (more, after) ← members steps false after
                    return (.range low high :: more, after)
              else
                let (more, after) ← members steps false after
                return (.range low low :: more, after)
            | _ =>
              let (more, after) ← members steps false after
              return (.range low low :: more, after)

/-- The expression that a list in brackets stands for, and what follows it. The opening bracket has
been read. -/
def list (text : Bytes) : Except Problem (Regular × Bytes) := do
  let negated := text.head? = some (code '^')
  let text := if negated then text.drop 1 else text
  if text.isEmpty then throw .general
  else
    let (members, rest) ← members (text.length + 1) true text
    return (.oneOf negated members, rest)

/-! ## Counts -/

def maxCount : Nat := 32767

/-- Digits at the start of a text, and what follows them. -/
def digits (text : Bytes) : Option Nat × Bytes :=
  let isDigit (b : UInt8) : Bool := 0x30 ≤ b && b ≤ 0x39
  let ds := text.takeWhile isDigit
  let value := Text.ofDigits 10 (ds.map fun b => (b - 0x30).toNat)
  (if ds.isEmpty then none else some value, text.drop ds.length)

/-- A count after an opening brace, and what follows the closing one. Nothing if it is no count;
the flag says that the end was reached before the closing brace. -/
def counts (extended : Bool) (text : Bytes) :
    Except Bool (Nat × Option Nat × Bytes) := do
  let (least, rest) := digits text
  let (most, rest, hasComma) : Option Nat × Bytes × Bool :=
    if rest.head? = some (code ',') then
      let (most, rest) := digits (rest.drop 1)
      (most, rest, true)
    else (least, rest, false)
  let rest ←
    if extended then
      match rest with
      | b :: rest => if b = code '}' then pure rest else throw false
      | [] => throw true
    else
      match rest with
      | a :: b :: rest => if a = code '\\' && b = code '}' then pure rest else throw false
      | _ => throw true
  if least.isNone && !hasComma then throw false
  else return (least.getD 0, most, rest)

/-! ## Reading -/

/-- What is being read. -/
structure Reading where
  text : Bytes
  groups : Nat
  closed : List Nat
  /-- The groups that are open. -/
  depth : Nat
  /-- The operators that were left out. -/
  stray : List Char

/-- What the character after a backslash stands for, if it is a place or a class of bytes. -/
def special? (b : UInt8) : Option Regular :=
  let word : List Pattern.Member := [.named "alnum", .range (code '_') (code '_')]
  match Char.ofNat b.toNat with
  | '<' => some (.anchor .wordStart)
  | '>' => some (.anchor .wordEnd)
  | 'b' => some (.anchor .wordEdge)
  | 'B' => some (.anchor .noWordEdge)
  | '`' => some (.anchor .textStart)
  | '\'' => some (.anchor .textEnd)
  | 'w' => some (.oneOf false word)
  | 'W' => some (.oneOf true word)
  | 's' => some (.oneOf false [.named "space"])
  | 'S' => some (.oneOf true [.named "space"])
  | _ => none

/-- What begins a text: an operator, which is given by its extended form, or something else. -/
inductive Token where
  | operator (c : Char)
  | plain (b : UInt8)
  | escaped (b : UInt8)
  | lonelyBackslash
  deriving DecidableEq, Repr

/-- The first token of a text, and what follows it. -/
def token (dialect : Dialect) : Bytes → Option (Token × Bytes)
  | [] => none
  | b :: rest =>
    let c := Char.ofNat b.toNat
    if c = '\\' then
      match rest with
      | [] => some (.lonelyBackslash, [])
      | b :: rest =>
        let c := Char.ofNat b.toNat
        if !dialect.extended && "(){}|+?".toList.contains c then some (.operator c, rest)
        else some (.escaped b, rest)
    else if dialect.extended && "(){}|+?".toList.contains c then some (.operator c, rest)
    else some (.plain b, rest)

abbrev Reader := StateT Reading (Except Problem)

def isAtEnd (dialect : Dialect) (text : Bytes) : Bool :=
  match token dialect text with
  | none => true
  | some (.operator ')', _) => true
  | some (.operator '|', _) => true
  | _ => false

def repetitions (dialect : Dialect) : Nat → Regular → Reader Regular
  | 0, inner => return inner
  | steps + 1, inner => do
    let r ← get
    let take (rest : Bytes) (least : Nat) (most : Option Nat) : Reader Regular := do
      set { r with text := rest }
      repetitions dialect steps (.repeated inner least most)
    match token dialect r.text with
    | some (.plain b, rest) => if b = code '*' then take rest 0 none else return inner
    | some (.operator '+', rest) => take rest 1 none
    | some (.operator '?', rest) => take rest 0 (some 1)
    | some (.operator '{', rest) =>
      match counts dialect.extended rest with
      | .ok (least, most, rest) =>
        if most.any fun m => m < least then throw .badBrace
        else if maxCount < max least (most.getD 0) then throw .tooBig
        else take rest least most
      | .error isOpen =>
        if dialect.sparesBraces then return inner
        else throw (if isOpen then .unmatchedBrace else .badBrace)
    | _ => return inner

mutual

def alternatives (dialect : Dialect) : Nat → Reader Regular
  | 0 => throw .tooBig
  | steps + 1 => do
    let first ← sequenceOf dialect steps true .empty
    let r ← get
    match token dialect r.text with
    | some (.operator '|', rest) =>
      set { r with text := rest }
      return .either first (← alternatives dialect steps)
    | _ => return first

/-- Reads what stands one after the other; `isFirst` says that nothing was read yet. -/
def sequenceOf (dialect : Dialect) : Nat → Bool → Regular → Reader Regular
  | 0, _, _ => throw .tooBig
  | steps + 1, isFirst, before => do
    let r ← get
    match token dialect r.text with
    | none => return before
    | some (.operator '|', _) => return before
    | some (.operator ')', rest) =>
      if 0 < r.depth then return before
      else if dialect.sparesClosing then
        set { r with text := rest }
        let item ← repetitions dialect steps (.byte (code ')'))
        sequenceOf dialect steps false (.sequence before item)
      else throw .unmatchedClosing
    | some (first, rest) =>
      set { r with text := rest }
      let item ← atom dialect steps isFirst first
      match item with
      | none => sequenceOf dialect steps isFirst before
      | some item =>
        let isPlace := item matches .anchor _
        let item ← if isPlace then pure item else repetitions dialect steps item
        let whole := if isFirst && before matches .empty then item else .sequence before item
        sequenceOf dialect steps isPlace whole

/-- Reads what a token begins; nothing if it is left out. -/
def atom (dialect : Dialect) : Nat → Bool → Token → Reader (Option Regular)
  | 0, _, _ => throw .tooBig
  | steps + 1, isFirst, token => do
    let r ← get
    match token with
    | .lonelyBackslash => throw .trailingBackslash
    | .operator '(' =>
      let number := r.groups + 1
      set { r with groups := number, depth := r.depth + 1 }
      let inner ← alternatives dialect steps
      let r ← get
      match Regular.token dialect r.text with
      | some (.operator ')', rest) =>
        set { r with text := rest, depth := r.depth - 1, closed := number :: r.closed }
        return some (.group number inner)
      | _ => throw .unmatchedParenthesis
    | .operator '{' =>
      if dialect.extended then
        if isFirst && (counts true r.text).toOption.isSome then
          if dialect.sparesOperators then
            match counts true r.text with
            | .ok (_, _, rest) => set { r with text := rest, stray := '{' :: r.stray }
            | .error _ => pure ()
            return none
          else throw .nothingToRepeat
        else return some (.byte (code '{'))
      else throw .nothingToRepeat
    | .operator '}' => return some (.byte (code '}'))
    | .operator c =>
      if !dialect.extended then return some (.byte (code c))
      else if dialect.sparesOperators then
        set { r with stray := c :: r.stray }
        return none
      else throw .nothingToRepeat
    | .escaped b =>
      let c := Char.ofNat b.toNat
      match special? b with
      | some found => return some found
      | none =>
        if '1' ≤ c && c ≤ '9' then
          let number := c.toNat - 0x30
          if r.closed.contains number then return some (.recall number)
          else throw .badReference
        else
          match if dialect.hasEscapes then controls.lookup c else none with
          | some value => return some (.byte value)
          | none =>
            if dialect.hasDigits && (c = 'd' || c = 'D') then
              return some (.oneOf (c = 'D') [.named "digit"])
            else return some (.byte b)
    | .plain b =>
      match Char.ofNat b.toNat with
      | '.' => return some .any
      | '[' =>
        match list r.text with
        | .error problem => throw problem
        | .ok (found, rest) =>
          set { r with text := rest }
          return some found
      | '^' =>
        if dialect.extended || isFirst then return some (.anchor .lineStart)
        else return some (.byte b)
      | '$' =>
        if dialect.extended || isAtEnd dialect r.text then return some (.anchor .lineEnd)
        else return some (.byte b)
      | '*' =>
        if !isFirst || !dialect.extended then return some (.byte b)
        else if dialect.sparesOperators then
          set { r with stray := '*' :: r.stray }
          return none
        else throw .nothingToRepeat
      | _ => return some (.byte b)

end

/-- Reads an expression; the operators that were left out come with it. -/
def read (dialect : Dialect) (text : Bytes) : Except Problem (Regular × Nat × List Char) := do
  let start : Reading := ⟨text, 0, [], 0, []⟩
  let (found, r) ← (alternatives dialect (4 * text.length + 8)).run start
  return (found, r.groups, r.stray.reverse)

end Regular

end SlotServer.Shell
