import SlotServer.Disk
import SlotServer.Shell.Number

/-!
# Conditions

What can be tested about texts, integers and paths, and how arguments are read as a condition. A
word that could be an operator counts as one wherever it has enough words around it to work on.
-/

namespace SlotServer.Shell.Condition

def unaryOperators : List String :=
  ["-r", "-w", "-x", "-e", "-f", "-d", "-c", "-b", "-p", "-u", "-g", "-k", "-s", "-t", "-z", "-n",
    "-h", "-O", "-G", "-L", "-S"]

/-- The tests of two operands. -/
def binaryOperators : List String :=
  ["=", "!=", "<", ">", "-eq", "-ne", "-ge", "-gt", "-le", "-lt", "-nt", "-ot", "-ef"]

/-- What a word is in a condition. -/
inductive Role where
  | unary | binary | negation | both | either | open | close | operand
  deriving DecidableEq, Repr

def role (word : String) : Role :=
  if unaryOperators.contains word then .unary
  else if binaryOperators.contains word then .binary
  else
    match word with
    | "!" => .negation
    | "-a" => .both
    | "-o" => .either
    | "(" => .open
    | ")" => .close
    | _ => .operand

/-- What the first of some words is. A test of one operand is an operand itself where it has none,
or where it stands in front of a test of two; a parenthesis is one at the end. -/
def firstRole : List String → Option Role
  | [] => none
  | word :: rest =>
    match role word with
    | .unary =>
      match rest with
      | [] => some .operand
      | [_] => some .unary
      | next :: _ => some (if role next = .binary then .operand else .unary)
    | .open => some (if rest.isEmpty then .operand else .open)
    | role => some role

def node? (disk : Disk) (path : String) (throughLast : Bool := true) :
    Option (List String × DiskNode) :=
  match disk.resolve path throughLast with
  | .error _ => none
  | .ok target =>
    match disk.node? target.place with
    | none => none
    | some node =>
      if target.asDirectory && node != .directory then none else some (target.place, node)

def file? (disk : Disk) (path : String) : Option DiskFile :=
  match node? disk path with
  | some (_, .file number) => disk.file? number
  | _ => none

def isRunnable (mode : Nat) : Bool :=
  mode &&& 0o111 ≠ 0

def integer (text : String) : Except String Int :=
  match Number.integer? false text with
  | some n => .ok n
  | none => .error s!"Illegal number: {text}"

def unary (disk : Disk) (operator operand : String) : Except String Bool :=
  let node := (node? disk operand).map Prod.snd
  match operator with
  | "-z" => .ok operand.isEmpty
  | "-n" => .ok (!operand.isEmpty)
  | "-t" => (integer operand).map fun _ => false
  | "-f" => .ok (node.any fun n => n matches .file _)
  | "-d" => .ok (node == some .directory)
  | "-c" =>
    .ok (node.any fun n =>
      n matches .nullDevice || n matches .fullDevice || n matches .zeroDevice)
  | "-s" =>
    .ok (node == some .directory || (file? disk operand).any fun f => !f.contents.isEmpty)
  | "-x" =>
    .ok (node == some .directory || (file? disk operand).any fun f => isRunnable f.mode)
  | "-h" => .ok ((node? disk operand false).any fun (_, n) => n matches .link _)
  | "-L" => .ok ((node? disk operand false).any fun (_, n) => n matches .link _)
  | _ => .ok (["-e", "-r", "-w", "-O", "-G"].contains operator && node.isSome)

def time? (disk : Disk) (path : String) : Option Nat :=
  match node? disk path with
  | some (_, .file number) => (disk.file? number).map DiskFile.time
  | some _ => some 0
  | none => none

/-- Applies a test of two operands. -/
def binary (disk : Disk) (left operator right : String) : Except String Bool := do
  let compare (f : Int → Int → Bool) : Except String Bool := do
    let a ← integer left
    let b ← integer right
    return f a b
  match operator with
  | "=" => return left = right
  | "!=" => return left ≠ right
  | "<" => return left < right
  | ">" => return right < left
  | "-eq" => compare fun a b => a = b
  | "-ne" => compare fun a b => a ≠ b
  | "-lt" => compare fun a b => a < b
  | "-le" => compare fun a b => a ≤ b
  | "-gt" => compare fun a b => b < a
  | "-ge" => compare fun a b => b ≤ a
  | "-ef" =>
    match node? disk left, node? disk right with
    | some (_, .file a), some (_, .file b) => return a = b
    | some (a, _), some (b, _) => return a = b
    | _, _ => return false
  | _ =>
    match time? disk left, time? disk right with
    | some a, some b => return if operator = "-nt" then b < a else a < b
    | _, _ => return false

mutual

/-- Reads tests of which one has to hold, and gives the words from the last one that was read on.
The role of the first word is given. -/
def anyOf (disk : Disk) : Nat → Option Role → List String → Except String (Bool × List String)
  | 0, _, _ => .error "too deep"
  | steps + 1, role, words => do
    let (first, words) ← allOf disk steps role words
    if firstRole (words.drop 1) = some .either then
      let words := words.drop 2
      let (second, words) ← anyOf disk steps (firstRole words) words
      return (first || second, words)
    else return (first, words)

def allOf (disk : Disk) : Nat → Option Role → List String → Except String (Bool × List String)
  | 0, _, _ => .error "too deep"
  | steps + 1, role, words => do
    let (first, words) ← negated disk steps role words
    if firstRole (words.drop 1) = some .both then
      let words := words.drop 2
      let (second, words) ← allOf disk steps (firstRole words) words
      return (first && second, words)
    else return (first, words)

def negated (disk : Disk) : Nat → Option Role → List String → Except String (Bool × List String)
  | 0, _, _ => .error "too deep"
  | steps + 1, role, words => do
    if role = some .negation then
      let next := firstRole (words.drop 1)
      let (holds, words) ← negated disk steps next (if next.isNone then words else words.drop 1)
      return (!holds, words)
    else single disk steps role words

def single (disk : Disk) : Nat → Option Role → List String → Except String (Bool × List String)
  | 0, _, _ => .error "too deep"
  | steps + 1, role, words => do
    match role, words with
    | none, _ => return (false, words)
    | _, [] => return (false, [])
    | some .open, _ :: rest =>
      if firstRole rest = some .close then return (false, rest)
      else
        let (holds, words) ← anyOf disk steps (firstRole rest) rest
        if firstRole (words.drop 1) = some .close then return (holds, words.drop 1)
        else throw "closing paren expected"
    | some .unary, operator :: rest =>
      match rest with
      | [] => throw s!"{operator}: argument expected"
      | operand :: _ => return (← unary disk operator operand, rest)
    | some _, left :: rest =>
      match rest with
      | operator :: after =>
        if firstRole rest = some .binary then
          match after with
          | [] => throw s!"{operator}: argument expected"
          | right :: _ => return (← binary disk left operator right, after)
        else return (!left.isEmpty, words)
      | [] => return (!left.isEmpty, words)

end

/-- Whether words hold; `role` is that of the first one. -/
def holdsFrom (disk : Disk) (role : Option Role) (words : List String) : Except String Bool := do
  let (holds, rest) ← anyOf disk (4 * words.length + 16) role words
  match rest with
  | word :: _ :: _ =>
    throw (if word.isEmpty then "unexpected operator" else s!"{word}: unexpected operator")
  | _ => return holds

/-- Whether arguments hold, or do not if they are negated. With three arguments a test of two
operands goes before all else; with three or four, parentheses around all of them and a negation in
front do. A second negation in front changes nothing. -/
def holdsUnless (disk : Disk) (isNegated : Bool) : List String → Except String Bool
  | [] => .ok false
  | first :: rest =>
    let words := first :: rest
    let isShort := words.length = 3 || words.length = 4
    let found (role : Option Role) (words : List String) : Except String Bool :=
      (holdsFrom disk role words).map (· != isNegated)
    if words.length = 3 && (rest.head?.any fun w => role w = .binary) then
      found (some .operand) words
    else if isShort && first = "(" && words.getLast? = some ")" then
      found (firstRole rest.dropLast) rest.dropLast
    else if isShort && first = "!" then holdsUnless disk true rest
    else found (firstRole words) words

def holds (disk : Disk) (words : List String) : Except String Bool :=
  holdsUnless disk false words

end SlotServer.Shell.Condition
