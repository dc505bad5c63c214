import SlotServer.Text.Utf8

/-!
# Patterns of the shell

Patterns for texts: a star stands for any text, a question mark for any byte, and a list in brackets
for any of its bytes. What is quoted stands for itself, and so does a byte after a backslash.
-/

namespace SlotServer.Shell

/-- A byte of a word, and whether it is quoted. -/
structure MarkedByte where
  byte : UInt8
  quoted : Bool
  deriving DecidableEq, Repr

def Pattern.code (c : Char) : UInt8 := c.toNat.toUInt8

def MarkedByte.isPlain (b : MarkedByte) (c : Char) : Bool :=
  !b.quoted && b.byte = Pattern.code c

/-- A member of a list in brackets. -/
inductive Pattern.Member where
  | range (low high : UInt8)
  /-- The bytes of a named class. -/
  | named (name : String)
  deriving DecidableEq, Repr

inductive Pattern.Part where
  | byte (b : UInt8)
  | any
  | star
  /-- A byte that is one of these, or none of them. -/
  | list (negated : Bool) (members : List Member)
  deriving DecidableEq, Repr

abbrev Pattern := List Pattern.Part

namespace Pattern

def classes : List (String × (UInt8 → Bool)) :=
  let lower (b : UInt8) : Bool := 0x61 ≤ b && b ≤ 0x7A
  let upper (b : UInt8) : Bool := 0x41 ≤ b && b ≤ 0x5A
  let digit (b : UInt8) : Bool := 0x30 ≤ b && b ≤ 0x39
  let graph (b : UInt8) : Bool := 0x21 ≤ b && b ≤ 0x7E
  let alnum (b : UInt8) : Bool := lower b || upper b || digit b
  [("alnum", alnum), ("alpha", fun b => lower b || upper b),
    ("blank", fun b => b = 0x20 || b = 0x09), ("cntrl", fun b => b < 0x20 || b = 0x7F),
    ("digit", digit), ("graph", graph), ("lower", lower),
    ("print", fun b => b = 0x20 || graph b), ("punct", fun b => graph b && !alnum b),
    ("space", fun b => b = 0x20 || (0x09 ≤ b && b ≤ 0x0D)), ("upper", upper),
    ("xdigit", fun b => digit b || (0x41 ≤ b && b ≤ 0x46) || (0x61 ≤ b && b ≤ 0x66))]

/-- The name of the class that a text names up to the bracket that ends the name, and the text after
it. -/
def class? (text : List MarkedByte) : Option (String × List MarkedByte) :=
  match text with
  | [] => none
  | colon :: rest =>
    if !colon.isPlain ':' then none
    else
      classes.findSome? fun (name, _) =>
        let wanted := (Utf8.encodeString (name ++ ":]")).map fun b => MarkedByte.mk b false
        if wanted.isPrefixOf rest then some (name, rest.drop wanted.length) else none

/-- A byte of a list in brackets, which a backslash may stand in front of, and what follows it. -/
def literal (b : MarkedByte) (rest : List MarkedByte) : UInt8 × List MarkedByte :=
  match b.isPlain '\\', rest with
  | true, c :: rest => (c.byte, rest)
  | _, _ => (b.byte, rest)

/-- The members of a list in brackets, up to its closing bracket, and what follows it. -/
def members? : Nat → Bool → List MarkedByte → Option (List Member × List MarkedByte)
  | 0, _, _ => none
  | _ + 1, _, [] => none
  | steps + 1, isFirst, b :: rest =>
    if b.isPlain ']' && !isFirst then some ([], rest)
    else
      match if b.isPlain '[' then class? rest else none with
      | some (name, rest) =>
        (members? steps false rest).map fun (more, after) => (.named name :: more, after)
      | none =>
        let (low, rest) := literal b rest
        let (high, rest) : UInt8 × List MarkedByte :=
          match rest with
          | dash :: c :: more =>
            if dash.isPlain '-' && !c.isPlain ']' then literal c more else (low, rest)
          | _ => (low, rest)
        (members? steps false rest).map fun (more, after) => (.range low high :: more, after)

def ofBytes : Nat → List MarkedByte → Pattern
  | 0, _ => []
  | _ + 1, [] => []
  | steps + 1, b :: rest =>
    if b.isPlain '*' then .star :: ofBytes steps rest
    else if b.isPlain '?' then .any :: ofBytes steps rest
    else if b.isPlain '[' then
      let negated := rest.head?.any fun c => c.isPlain '!'
      match members? (rest.length + 1) true (if negated then rest.drop 1 else rest) with
      | some (members, after) => .list negated members :: ofBytes steps after
      | none => .byte b.byte :: ofBytes steps rest
    else
      let (byte, rest) := literal b rest
      .byte byte :: ofBytes steps rest

def ofWord (word : List MarkedByte) : Pattern :=
  ofBytes (word.length + 1) word

def ofText (text : Bytes) : Pattern :=
  ofWord (text.map fun b => ⟨b, false⟩)

/-- The place of a byte in the order that ranges follow. -/
def rank (b : UInt8) : UInt8 := b + 0x80

/-- Whether a member of a list in brackets stands for a byte. -/
def Member.accepts : Member → UInt8 → Bool
  | range low high, b => rank low ≤ rank b && rank b ≤ rank high
  | named name, b => (classes.lookup name).any fun test => test b

def Part.accepts : Part → UInt8 → Bool
  | byte b, c => b = c
  | any, _ => true
  | star, _ => true
  | list negated members, c => (members.any fun m => m.accepts c) != negated

def accepts : Pattern → Bytes → Bool
  | [], text => text.isEmpty
  | .star :: rest, text => (List.range (text.length + 1)).any fun n => accepts rest (text.drop n)
  | part :: rest, text =>
    match text with
    | [] => false
    | c :: later => part.accepts c && accepts rest later

def isOpen (pattern : Pattern) : Bool :=
  pattern.any fun part =>
    match part with
    | .byte _ => false
    | _ => true

end Pattern

end SlotServer.Shell
