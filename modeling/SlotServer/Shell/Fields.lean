import SlotServer.Shell.Pattern

/-!
# Fields

What the pieces of words come to, cut into fields. Separators end fields only where a value was put
in, and not in what was there or quoted before. Blanks in a row count once, and not at all at the
start and at the end; other separators count each by itself.
-/

namespace SlotServer.Shell

/-- A part of what a word comes to. -/
inductive Item where
  | byte (b : UInt8) (isQuoted : Bool)
  /-- A quote: a field stands here, even if it is empty. -/
  | mark
  /-- The end of an argument. -/
  | gap
  deriving DecidableEq, Repr

/-- How a part of a word is cut into fields. -/
inductive Splitting where
  | whole
  | atSeparators
  /-- At the ends of arguments. -/
  | atGaps
  deriving DecidableEq, Repr

/-- A part of what a word comes to, with the way in which it is cut. -/
structure Segment where
  splitting : Splitting
  items : List Item
  deriving Repr

namespace Fields

/-- The separators where nobody chooses others. -/
def usualSeparators : Bytes := [0x20, 0x09, 0x0A]

def separates (separators : Bytes) (splitting : Splitting) : Item → Bool
  | .gap => true
  | .byte b _ => splitting = .atSeparators && separators.contains b
  | .mark => false

/-- Whether an item is a separator that counts only once in a row. -/
def isBlank : Item → Bool
  | .gap => true
  | .byte b _ => usualSeparators.contains b
  | .mark => false

/-- How far cutting has come. -/
structure Cutting where
  /-- The fields that are finished, the last one first. -/
  finished : List (List Item)
  /-- The field that is being put together, its last item first. -/
  current : List Item
  /-- How much of the current field stays if only blanks follow. -/
  cut : Option Nat
  /-- Whether blanks that follow belong to the separator that was read. -/
  afterBlank : Bool
  /-- How many fields there may be, if they are limited. -/
  left : Option Nat
  /-- Whether the segment before was cut at the ends of arguments, and whether this one is. -/
  wasAtGaps : Bool
  isAtGaps : Bool

namespace Cutting

/-- Nothing has been cut yet. -/
def start (limit : Option Nat) : Cutting where
  finished := []
  current := []
  cut := none
  afterBlank := false
  left := limit
  wasAtGaps := false
  isAtGaps := false

/-- Adds an item to the last of a limited number of fields. -/
def extend (separator blank : Bool) (item : Item) (c : Cutting) : Cutting :=
  let grown := { c with current := item :: c.current }
  if blank && separator then { grown with cut := some (c.cut.getD c.current.length) }
  else
    { grown with
      cut := if separator && c.afterBlank then c.cut else none
      afterBlank := false }

def take (separators : Bytes) (splitting : Splitting) (c : Cutting) (item : Item) : Cutting :=
  let separator := separates separators splitting item
  let blank := separator && isBlank item
  if c.left = some 0 then extend separator blank item c
  else
    let c := if c.afterBlank then { c with current := [] } else c
    if c.afterBlank && blank then c
    else if c.afterBlank && separator then { c with afterBlank := false }
    else if separator then
      let afterBlank := if c.wasAtGaps || c.isAtGaps then c.afterBlank else blank
      if c.current.isEmpty && afterBlank then { c with afterBlank := false }
      else
        match c.left with
        | some 1 =>
          { c with
            left := some 0
            cut := some c.current.length
            current := item :: c.current
            afterBlank }
        | left =>
          { c with
            finished := c.current.reverse :: c.finished
            current := []
            afterBlank
            left := left.map (· - 1) }
    else { c with current := item :: c.current, afterBlank := false }

def takeSegment (separators : Bytes) (c : Cutting) (segment : Segment) : Cutting :=
  match segment.splitting with
  | .whole => { c with current := segment.items.reverse ++ c.current }
  | splitting =>
    let c := { c with
      wasAtGaps := c.isAtGaps
      isAtGaps := splitting == .atGaps
      afterBlank := false }
    segment.items.foldl (take separators splitting) c

end Cutting

/-- The fields that segments make up. There may be a limited number of them; then all that is left
belongs to the last one. -/
def ofSegments (separators : Bytes) (limit : Option Nat) (segments : List Segment) :
    List (List Item) :=
  let c := segments.foldl (Cutting.takeSegment separators) (.start limit)
  let last := c.current.reverse
  let last :=
    match c.cut with
    | some n => last.take n
    | none => last
  let ends := c.isAtGaps || !last.isEmpty
  c.finished.reverse ++ if ends then [last] else []

def markedBytes (items : List Item) : List MarkedByte :=
  items.filterMap fun item =>
    match item with
    | .byte b isQuoted => some ⟨b, isQuoted⟩
    | .mark => none
    | .gap => none

def bytes (items : List Item) : Bytes :=
  (markedBytes items).map MarkedByte.byte

end Fields

end SlotServer.Shell
