import SlotServer.Shell.Condition
import SlotServer.Shell.Utility.Basic

/-!
# Testing conditions

A program whose status says whether a condition holds. How many arguments there are decides how they
are read; where there are more than four, `-a` binds more tightly than `-o`.
-/

namespace SlotServer.Shell.Utility

open Work

namespace Testing

def isUnary (word : String) : Bool :=
  match word.toList with
  | ['-', c] => "bcdefghknprstuwxzGLNOS".toList.contains c
  | _ => false

def isBinary (word : String) : Bool :=
  ["=", "==", "!=", "<", ">", "-eq", "-ne", "-lt", "-le", "-gt", "-ge", "-nt", "-ot",
    "-ef"].contains word

/-- An integer of any size, or what is wrong. -/
def integer (text : String) : Except String Int :=
  let isBlank (c : Char) : Bool := c = ' ' || c = '\t'
  let shown := ((text.toList.dropWhile isBlank).reverse.dropWhile isBlank).reverse
  let (negative, digits) : Bool × List Char :=
    match shown with
    | '-' :: digits => (true, digits)
    | '+' :: digits => (false, digits)
    | digits => (false, digits)
  match Text.digits 10 digits with
  | (d :: ds, []) =>
    let n : Int := Text.ofDigits 10 (d :: ds)
    .ok (if negative then -n else n)
  | _ => .error s!"invalid integer {Quoting.literal text}"

def unary (disk : Disk) (operator operand : String) : Except String Bool :=
  if operator = "-t" then (integer operand).map fun _ => false
  else if operator = "-N" then .ok false
  else Condition.unary disk operator operand

/-- Applies a test of two operands. -/
def binary (disk : Disk) (left operator right : String) : Except String Bool := do
  let numbers : List (String × (Int → Int → Bool)) :=
    [("-eq", fun a b => a = b), ("-ne", fun a b => a ≠ b), ("-lt", fun a b => a < b),
      ("-le", fun a b => a ≤ b), ("-gt", fun a b => b < a), ("-ge", fun a b => b ≤ a)]
  match numbers.lookup operator with
  | some compare =>
    let a ← integer left
    let b ← integer right
    return compare a b
  | none => Condition.binary disk left (if operator = "==" then "=" else operator) right

def missingAfter (word : String) : String := s!"missing argument after {Quoting.literal word}"

mutual

/-- A condition of several parts, of which one has to hold; and what follows it. -/
def eitherOf (disk : Disk) : Nat → String → List String → Except String (Bool × List String)
  | 0, last, _ => .error (missingAfter last)
  | steps + 1, last, args => do
    let (a, rest) ← bothOf disk steps last args
    match rest with
    | "-o" :: rest =>
      let (b, rest) ← eitherOf disk steps "-o" rest
      return (a || b, rest)
    | _ => return (a, rest)

/-- A condition of several parts, which all have to hold; and what follows it. -/
def bothOf (disk : Disk) : Nat → String → List String → Except String (Bool × List String)
  | 0, last, _ => .error (missingAfter last)
  | steps + 1, last, args => do
    let (a, rest) ← part disk steps last args
    match rest with
    | "-a" :: rest =>
      let (b, rest) ← bothOf disk steps "-a" rest
      return (a && b, rest)
    | _ => return (a, rest)

/-- A part of a condition, and what follows it; `last` is the argument before. -/
def part (disk : Disk) : Nat → String → List String → Except String (Bool × List String)
  | 0, last, _ => .error (missingAfter last)
  | steps + 1, last, args => do
    match args with
    | [] => throw (missingAfter last)
    | "!" :: rest =>
      let (a, rest) ← part disk steps "!" rest
      return (!a, rest)
    | "(" :: rest =>
      let (a, after) ← eitherOf disk steps "(" rest
      match after with
      | ")" :: after => return (a, after)
      | found :: _ => throw s!"')' expected, found {found}"
      | [] => throw "')' expected"
    | left :: operator :: right :: rest =>
      if isBinary operator then return (← binary disk left operator right, rest)
      else if isUnary left then return (← unary disk left operator, right :: rest)
      else return (!left.isEmpty, operator :: right :: rest)
    | [operator, operand] =>
      if isUnary operator then return (← unary disk operator operand, [])
      else return (!operator.isEmpty, [operand])
    | [one] => return (!one.isEmpty, [])

end

def holds (disk : Disk) : List String → Except String Bool
  | [] => .ok false
  | [one] => .ok (!one.isEmpty)
  | [a, b] => two a b
  | [a, b, c] => three a b c
  | [a, b, c, d] =>
    if a = "!" then (three b c d).map (!·)
    else if a = "(" && d = ")" then two b c
    else whole [a, b, c, d]
  | args => whole args
where
  /-- A condition of two arguments. -/
  two (a b : String) : Except String Bool :=
    if a = "!" then .ok b.isEmpty
    else if a.startsWith "-" && a.length = 2 then
      if isUnary a then unary disk a b
      else .error s!"{Quoting.literal a}: unary operator expected"
    else .error (missingAfter b)
  /-- A condition of three arguments. -/
  three (a b c : String) : Except String Bool :=
    if isBinary b then binary disk a b c
    else if a = "!" then (two b c).map (!·)
    else if a = "(" && c = ")" then .ok (!b.isEmpty)
    else if b = "-a" then .ok (!a.isEmpty && !c.isEmpty)
    else if b = "-o" then .ok (!a.isEmpty || !c.isEmpty)
    else .error s!"{Quoting.literal b}: binary operator expected"
  /-- A condition of many arguments. -/
  whole (args : List String) : Except String Bool := do
    let (a, rest) ← eitherOf disk (4 * args.length + 4) "" args
    match rest with
    | [] => return a
    | extra :: _ => throw s!"extra argument {Quoting.literal extra}"

end Testing

def test : Program := fun args => do
  match Testing.holds (← disk) args with
  | .ok holds => if !holds then raise 1
  | .error message => fail message 2

def bracket : Program := fun args => do
  if args.getLast? = some "]" then test args.dropLast
  else fail "missing ']'" 2

end SlotServer.Shell.Utility
