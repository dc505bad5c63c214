import SlotServer.Shell.Regular.Syntax

/-!
# Searching with regular expressions

Where a text fits a regular expression: at the first place where it does, and there as far as it
can. A part of an expression takes as much as it can while the parts before it do.
-/

namespace SlotServer.Shell.Regular

structure Subject where
  bytes : Array UInt8
  /-- Whether small and capital letters are the same. -/
  foldsCase : Bool
  /-- Whether lines begin and end at newlines in the text. -/
  hasLines : Bool
  /-- Whether several ways to reach a place are told apart. -/
  keepsWays : Bool

/-- A place in a text, and the texts that are remembered, by their ends. -/
structure Reached where
  place : Nat
  groups : List (Nat × Nat × Nat)
  deriving DecidableEq, Repr

def lower (b : UInt8) : UInt8 := if 0x41 ≤ b && b ≤ 0x5A then b + 0x20 else b

def upper (b : UInt8) : UInt8 := if 0x61 ≤ b && b ≤ 0x7A then b - 0x20 else b

def isWordByte (b : UInt8) : Bool :=
  b = 0x5F || (0x30 ≤ b && b ≤ 0x39) || (0x61 ≤ lower b && lower b ≤ 0x7A)

def isMember (members : List Pattern.Member) (b : UInt8) : Bool :=
  members.any fun m =>
    match m with
    | .range low high => low ≤ b && b ≤ high
    | .named name => (Pattern.classes.lookup name).any fun test => test b

namespace Subject

def areSame (s : Subject) (a b : UInt8) : Bool :=
  a = b || (s.foldsCase && lower a = lower b)

def accepts (s : Subject) (members : List Pattern.Member) (b : UInt8) : Bool :=
  if s.foldsCase then isMember members (lower b) || isMember members (upper b)
  else isMember members b

def words (s : Subject) (place : Nat) : Bool × Bool :=
  let before := if place = 0 then none else s.bytes[place - 1]?
  (before.any isWordByte, s.bytes[place]?.any isWordByte)

def isAt (s : Subject) (anchor : Anchor) (place : Nat) : Bool :=
  let (before, after) := s.words place
  match anchor with
  | .lineStart =>
    place = 0 || (s.hasLines && s.bytes[place - 1]? == some 0x0A)
  | .lineEnd =>
    place = s.bytes.size || (s.hasLines && s.bytes[place]? == some 0x0A)
  | .textStart => place = 0
  | .textEnd => place = s.bytes.size
  | .wordStart => !before && after
  | .wordEnd => before && !after
  | .wordEdge => before != after
  | .noWordEdge => before == after

/-- The text between two places. -/
def slice (s : Subject) (first last : Nat) : Bytes := (s.bytes.extract first last).toList

/-- Of several ways to reach the same place, keeps the first. The furthest places come first. -/
def sifted (s : Subject) (all : List Reached) : List Reached :=
  match all with
  | [] => all
  | [_] => all
  | _ =>
    let sorted := all.mergeSort fun a b => b.place ≤ a.place
    sorted.foldr (fun r kept =>
      r :: kept.filter fun k => if s.keepsWays then k != r else k.place != r.place) []

/-- Repeats a step from places that were reached after `done` rounds. The places that count are
gathered. -/
def repeats (s : Subject) (step : Reached → List Reached) (least : Nat) (most : Option Nat) :
    Nat → Nat → List Reached → List Reached
  | 0, _, _ => []
  | steps + 1, done, reached =>
    let counted := if least ≤ done then reached else []
    if reached.isEmpty || most == some done then counted
    else
      let next := reached.flatMap fun r =>
        (step r).filter fun r' => r.place < r'.place || done < least
      counted ++ s.repeats step least most steps (done + 1) (s.sifted next)

/-- The places that a regular expression leads to from a place. -/
def reach (s : Subject) : Regular → Reached → List Reached
  | .empty, r => [r]
  | .byte b, r =>
    match s.bytes[r.place]? with
    | some c => if s.areSame b c then [{ r with place := r.place + 1 }] else []
    | none => []
  | .any, r => if r.place < s.bytes.size then [{ r with place := r.place + 1 }] else []
  | .oneOf negated members, r =>
    match s.bytes[r.place]? with
    | some c => if s.accepts members c != negated then [{ r with place := r.place + 1 }] else []
    | none => []
  | .anchor place, r => if s.isAt place r.place then [r] else []
  | .group number inner, r =>
    (s.reach inner r).map fun r' =>
      { r' with groups := (number, r.place, r'.place) :: r'.groups.filter fun g => g.1 != number }
  | .recall number, r =>
    match r.groups.lookup number with
    | none => []
    | some (first, last) =>
      let wanted := s.slice first last
      let found := s.slice r.place (r.place + wanted.length)
      let fits := found.length = wanted.length &&
        (wanted.zip found).all fun (a, b) => s.areSame a b
      if fits then [{ r with place := r.place + wanted.length }] else []
  | .sequence first second, r =>
    match s.reach first r with
    | [one] => s.reach second one
    | several => s.sifted (several.flatMap (s.reach second))
  | .either first second, r => s.sifted (s.reach first r ++ s.reach second r)
  | .repeated inner least most, r =>
    let steps := s.bytes.size + least + 2
    s.sifted (s.repeats (s.reach inner) least most steps 0 [r])

/-- The first place from `start` on where a text fits, and what it leads to. -/
def findFrom (s : Subject) (regular : Regular) : Nat → Nat → Option (Nat × Reached)
  | 0, _ => none
  | steps + 1, start =>
    if s.bytes.size < start then none
    else
      match s.reach regular ⟨start, []⟩ with
      | best :: _ => some (start, best)
      | [] => s.findFrom regular steps (start + 1)

end Subject

/-- Whether texts that are remembered occur in an expression. -/
def recalls : Regular → Bool
  | .recall _ => true
  | .group _ inner => inner.recalls
  | .sequence first second => first.recalls || second.recalls
  | .either first second => first.recalls || second.recalls
  | .repeated inner _ _ => inner.recalls
  | _ => false

def subject (regular : Regular) (foldsCase hasLines : Bool) (text : Bytes) : Subject :=
  ⟨text.toArray, foldsCase, hasLines, regular.recalls⟩

/-- Where a text fits an expression. -/
structure Found where
  first : Nat
  last : Nat
  /-- The ends of the texts that are remembered, by number. -/
  groups : List (Nat × Nat × Nat)
  deriving Repr

/-- The first place from `start` on where a text fits. -/
def Subject.find? (s : Subject) (regular : Regular) (start : Nat := 0) : Option Found :=
  (s.findFrom regular (s.bytes.size + 2) start).map fun (first, r) => ⟨first, r.place, r.groups⟩

/-- The text that is remembered under a number; the whole is zero. -/
def Subject.group (s : Subject) (f : Found) (number : Nat) : Bytes :=
  if number = 0 then s.slice f.first f.last
  else
    match f.groups.lookup number with
    | some (first, last) => s.slice first last
    | none => []

end SlotServer.Shell.Regular
