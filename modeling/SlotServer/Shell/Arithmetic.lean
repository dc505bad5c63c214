import SlotServer.Shell.Number

/-!
# Arithmetic of the shell

Expressions over integers of 64 bits, with the operators of C and with assignments to variables. An
expression is read and computed at the same time, from left to right, so that of several things that
are wrong with it the first one counts. What is not chosen is read without being computed.
-/

namespace SlotServer.Shell.Arithmetic

/-- An operator that takes two operands. -/
inductive Operator where
  | multiply | divide | remainder | add | subtract | shiftLeft | shiftRight
  | less | lessEqual | greater | greaterEqual | equal | notEqual
  | bitAnd | bitXor | bitOr
  deriving DecidableEq, Repr

def Operator.looseness : Operator → Nat
  | multiply | divide | remainder => 0
  | add | subtract => 1
  | shiftLeft | shiftRight => 2
  | less | lessEqual | greater | greaterEqual => 3
  | equal | notEqual => 4
  | bitAnd => 5
  | bitXor => 6
  | bitOr => 7

/-- A token of an expression. -/
inductive Token where
  | ending
  | number (n : Int64)
  | name (name : String)
  | operator (op : Operator)
  /-- An assignment, with the operator that is applied first. -/
  | assign (op : Option Operator)
  | open | close | question | colon | not | complement | both | either
  /-- A character that has no meaning. -/
  | stray
  deriving DecidableEq, Repr

/-- What is wrong with an expression. -/
inductive Fault where
  /-- Something else has to stand where a token stands. -/
  | expecting (what : String)
  | divisionByZero
  | noInteger (value : String)
  /-- A variable cannot be assigned to. -/
  | readOnly (name : String)
  deriving DecidableEq, Repr

def Fault.message (expression : String) : Fault → String
  | expecting what => s!"arithmetic expression: expecting {what}: \"{expression}\""
  | divisionByZero => s!"arithmetic expression: division by zero: \"{expression}\""
  | noInteger value => s!"Illegal number: {value}"
  | readOnly name => s!"{name}: is read only"

/-! ## Tokens -/

/-- The operators by their texts, longer ones first. -/
def symbols : List (String × Token) :=
  [("<<=", .assign (some .shiftLeft)), (">>=", .assign (some .shiftRight)),
    ("<<", .operator .shiftLeft), (">>", .operator .shiftRight), ("<=", .operator .lessEqual),
    (">=", .operator .greaterEqual), ("==", .operator .equal), ("!=", .operator .notEqual),
    ("&&", .both), ("||", .either), ("*=", .assign (some .multiply)),
    ("/=", .assign (some .divide)), ("%=", .assign (some .remainder)),
    ("+=", .assign (some .add)), ("-=", .assign (some .subtract)),
    ("&=", .assign (some .bitAnd)), ("^=", .assign (some .bitXor)),
    ("|=", .assign (some .bitOr)), ("=", .assign none), ("*", .operator .multiply),
    ("/", .operator .divide), ("%", .operator .remainder), ("+", .operator .add),
    ("-", .operator .subtract), ("<", .operator .less), (">", .operator .greater),
    ("&", .operator .bitAnd), ("^", .operator .bitXor), ("|", .operator .bitOr), ("!", .not),
    ("~", .complement), ("?", .question), (":", .colon), ("(", .open), (")", .close)]

def symbol? (text : List Char) : Option (Token × List Char) :=
  symbols.findSome? fun (shown, token) =>
    if shown.toList.isPrefixOf text then some (token, text.drop shown.length) else none

/-- Reads a token, and gives the text after it. Nothing comes after a character that has no
meaning. -/
def token (text : List Char) : Token × List Char :=
  match text.dropWhile fun c => c = ' ' || c = '\t' || c = '\n' with
  | [] => (.ending, [])
  | c :: rest =>
    if c.isDigit then
      match Number.readDigits? true (c :: rest) with
      | some (n, after) => (.number (Int64.ofInt (Number.fitted n).1), after)
      | none => (.stray, c :: rest)
    else if c.isAlpha || c = '_' then
      let name := (c :: rest).takeWhile fun c => c.isAlphanum || c = '_'
      (.name (String.ofList name), (c :: rest).drop name.length)
    else (symbol? (c :: rest)).getD (.stray, c :: rest)

/-! ## Values -/

/-- What an expression knows while it is computed. -/
structure Course where
  text : List Char
  last : Token
  /-- The values that were assigned, the last one first. -/
  assigned : List (String × Int64)

/-- The variables around an expression: their texts, and which of them cannot be assigned to. -/
structure Variables where
  value? : String → Option String
  isReadOnly : String → Bool

abbrev Computing := ReaderT Variables (StateT Course (Except Fault))

def next : Computing Token := do
  let (t, text) := token (← get).text
  modify fun c => { c with text, last := t }
  return t

def valueOf (name : String) : Computing Int64 := do
  match (← get).assigned.lookup name with
  | some n => return n
  | none =>
    let text := ((← read).value? name).getD ""
    match Number.integer? true text with
    | some n => return Int64.ofInt n
    | none => throw (.noInteger text)

def assign (name : String) (n : Int64) : Computing Int64 := do
  if (← read).isReadOnly name then throw (.readOnly name)
  else
    modify fun c => { c with assigned := (name, n) :: c.assigned }
    return n

/-- One for what holds, and zero for what does not. -/
def ofBool (b : Bool) : Int64 := if b then 1 else 0

def apply (op : Operator) (a b : Int64) : Computing Int64 :=
  match op with
  | .multiply => return a * b
  | .divide => if b = 0 then throw .divisionByZero else return a / b
  | .remainder => if b = 0 then throw .divisionByZero else return a % b
  | .add => return a + b
  | .subtract => return a - b
  | .shiftLeft => return a <<< b
  | .shiftRight => return a >>> b
  | .less => return ofBool (a < b)
  | .lessEqual => return ofBool (a ≤ b)
  | .greater => return ofBool (b < a)
  | .greaterEqual => return ofBool (b ≤ a)
  | .equal => return ofBool (a = b)
  | .notEqual => return ofBool (a ≠ b)
  | .bitAnd => return a &&& b
  | .bitXor => return a ^^^ b
  | .bitOr => return a ||| b

mutual

/-- Computes an assignment that begins with a token. Without `chosen` nothing is looked up and
nothing is assigned. -/
def assignment : Nat → Bool → Token → Computing Int64
  | 0, _, _ => throw (.expecting "primary")
  | steps + 1, chosen, first => do
    let second ← next
    match first, second with
    | .name name, .assign op =>
      let right ← assignment steps chosen (← next)
      if !chosen then return right
      else
        match op with
        | none => assign name right
        | some op => assign name (← apply op (← valueOf name) right)
    | _, _ => choice steps chosen first second

/-- Computes a choice between two values, of which the first two tokens are read. -/
def choice : Nat → Bool → Token → Token → Computing Int64
  | 0, _, _, _ => throw (.expecting "primary")
  | steps + 1, chosen, first, second => do
    let a ← either steps chosen first second
    if (← get).last = .question then
      let b ← assignment steps (chosen && a ≠ 0) (← next)
      if (← get).last ≠ .colon then throw (.expecting "':'")
      else
        let first ← next
        let second ← next
        let c ← choice steps (chosen && a = 0) first second
        return if a ≠ 0 then b else c
    else return a

/-- Computes whether one of several values is not zero. -/
def either : Nat → Bool → Token → Token → Computing Int64
  | 0, _, _, _ => throw (.expecting "primary")
  | steps + 1, chosen, first, second => do
    let a ← both steps chosen first second
    if (← get).last = .either then
      let first ← next
      let second ← next
      let b ← either steps (chosen && a = 0) first second
      return ofBool (a ≠ 0 || b ≠ 0)
    else return a

/-- Computes whether all of several values are not zero. -/
def both : Nat → Bool → Token → Token → Computing Int64
  | 0, _, _, _ => throw (.expecting "primary")
  | steps + 1, chosen, first, second => do
    let a ← primary steps chosen first second
    let a ←
      match (← get).last with
      | .operator op => operands steps chosen a op 8
      | _ => pure a
    if (← get).last = .both then
      let first ← next
      let second ← next
      let b ← both steps (chosen && a ≠ 0) first second
      return ofBool (a ≠ 0 && b ≠ 0)
    else return a

/-- Computes what operators make of a value, as long as they bind more tightly than a bound. -/
def operands : Nat → Bool → Int64 → Operator → Nat → Computing Int64
  | 0, _, _, _, _ => throw (.expecting "primary")
  | steps + 1, chosen, a, op, bound => do
    let first ← next
    let second ← next
    let b ← primary steps chosen first second
    let b ←
      match (← get).last with
      | .operator tighter =>
        if tighter.looseness < op.looseness then operands steps chosen b tighter op.looseness
        else pure b
      | _ => pure b
    let a ← if chosen then apply op a b else pure b
    match (← get).last with
    | .operator other =>
      if other.looseness < bound then operands steps chosen a other bound else return a
    | _ => return a

def primary : Nat → Bool → Token → Token → Computing Int64
  | 0, _, _, _ => throw (.expecting "primary")
  | steps + 1, chosen, first, second => do
    match first with
    | .open =>
      let a ← assignment steps chosen second
      if (← get).last ≠ .close then throw (.expecting "')'")
      else
        let _ ← next
        return a
    | .number n => return n
    | .name name => if chosen then valueOf name else return 0
    | .operator .add => primary steps chosen second (← next)
    | .operator .subtract => return -(← primary steps chosen second (← next))
    | .not => return ofBool ((← primary steps chosen second (← next)) = 0)
    | .complement => return ~~~(← primary steps chosen second (← next))
    | _ => throw (.expecting "primary")

end

/-- The value of an expression, and the values that it assigns, the first one first. -/
def evaluate (bindings : Variables) (expression : String) :
    Except Fault (Int64 × List (String × Int64)) := do
  let whole : Computing Int64 := do
    let n ← assignment (8 * expression.length + 16) true (← next)
    if (← get).last ≠ .ending then throw (.expecting "EOF") else return n
  let (n, course) ← (whole.run bindings).run ⟨expression.toList, .ending, []⟩
  return (n, course.assigned.reverse)

end SlotServer.Shell.Arithmetic
