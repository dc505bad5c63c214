import SlotServer.Log.Event
import SlotServer.Regex.Reader
import SlotServer.Regex.Support
import SlotServer.Text.Alphanumeric
import SlotServer.Text.Blank
import SlotServer.Text.Integer
import SlotServer.Text.Number
import SlotServer.Text.Split

/-!
# Log filters

A filter is a list of directives with commas between them. A directive names a level, a target, or
both (`target=level`), and may be narrowed to a span and to events with certain fields
(`target[span{field}]=level`); a value that a field should have (`field=value`) is a number or a
regular expression. Of the directives that apply to an event the most specific one
decides whether it is written. The server opens no spans, so a directive that asks for a span, or
for the value that a field has in one, never applies.
-/

namespace SlotServer.Log

/-- The most detailed level that is written; `none` where nothing is. -/
abbrev Threshold := Option Level

/-- The threshold's place in the order of levels, zero where nothing is written. -/
def Threshold.rank (threshold : Threshold) : Nat :=
  (threshold.map Level.rank).getD 0

/-- What is wrong with a filter. -/
inductive FilterError where
  | invalidDirective
  /-- What stands for a level names none. -/
  | invalidLevel
  /-- The value of a field is no expression that can be matched. -/
  | invalidValue
  /-- The value of a field asks for the edges of words. -/
  | wordEdges
  deriving DecidableEq, Repr

def FilterError.message : FilterError → String
  | invalidDirective => "invalid filter directive"
  | invalidLevel =>
    "error parsing level filter: expected one of \"off\", \"error\", \"warn\", \"info\", " ++
      "\"debug\", \"trace\", or a number 0-5"
  | invalidValue => "invalid field filter: error building NFA"
  | wordEdges =>
    "invalid field filter: unsupported regex feature for DFAs: cannot build DFAs for regexes " ++
      "with Unicode word boundaries; switch to ASCII word boundaries, or heuristically enable " ++
      "Unicode word boundaries or use a different regex engine"

def thresholdOfNat? : Nat → Option Threshold
  | 0 => some none
  | 1 => some (some .error)
  | 2 => some (some .warn)
  | 3 => some (some .info)
  | 4 => some (some .debug)
  | 5 => some (some .trace)
  | _ => none

/-- The threshold of a name, in any case of the ASCII letters. -/
def thresholdOfName? (name : String) : Option Threshold :=
  match name.map Char.toLower with
  | "off" => some none
  | "error" => some (some .error)
  | "warn" => some (some .warn)
  | "info" => some (some .info)
  | "debug" => some (some .debug)
  | "trace" => some (some .trace)
  | _ => none

/-- The threshold that a text stands for, as a number or by name. -/
def threshold? (text : List Char) : Option Threshold :=
  let number := (Text.readUnsigned 0xFFFFFFFFFFFFFFFF text).toOption.bind thresholdOfNat?
  number.or (thresholdOfName? (String.ofList text))

/-- A field that a directive asks for, and whether it asks for a value too. -/
structure FieldMatch where
  name : String
  hasValue : Bool
  deriving DecidableEq, Repr

structure Directive where
  threshold : Threshold := some .trace
  target : Option String := none
  span : Option String := none
  fields : List FieldMatch := []
  deriving DecidableEq, Repr

namespace Directive

/-- What the reader of a directive is in the middle of, with the position where it began. -/
inductive Place where
  | start
  | levelOrTarget (start : Nat)
  | span (start : Nat)
  | field (start : Nat)
  | fields
  | target
  | level (start : Nat)
  deriving DecidableEq, Repr

/-- Looks at the value of a field: a number, or else a regular expression that can be matched. -/
def checkValue (value : List Char) : Except FilterError Unit :=
  if Text.isNumber value then .ok ()
  else
    match (Regex.Expression.read? value).bind (·.scan ⟨Regex.Mode.start, false⟩) with
    | none => .error .invalidValue
    | some scan => if scan.unicodeWordEdge then .error .wordEdges else .ok ()

/-- The field match between the braces of a directive. What stands after a second equals sign is not
looked at. -/
def fieldMatch (text : List Char) : Except FilterError FieldMatch := do
  let parts := Text.splitAt '=' text
  let value := parts.tail.head?
  value.forM checkValue
  return { name := String.ofList (parts.headD []), hasValue := value.isSome }

/-- The text of a directive from one position up to another. -/
def slice (text : List Char) (start stop : Nat) : List Char :=
  (text.drop start).take (stop - start)

/-- Reads the character at position `i` of a directive. Parts of the directive are taken from its
whole text, blanks at its ends included. -/
def step (text : List Char) (place : Place) (read : Directive) (i : Nat) (c : Char) :
    Except FilterError (Place × Directive) :=
  match place with
  | .start =>
    if c = '[' then .ok (.span (i + 1), read)
    else if c = '-' || c = ':' || c = '_' || Text.isAlphanumeric c then
      .ok (.levelOrTarget i, read)
    else .error .invalidDirective
  | .levelOrTarget start =>
    let target := some (String.ofList (slice text start i))
    if c = '=' then .ok (.level (i + 1), { read with target })
    else if c = '[' then .ok (.span (i + 1), { read with target })
    else .ok (place, read)
  | .span start =>
    let name := slice text start i
    if c = ']' then .ok (.target, { read with span := some (String.ofList name) })
    else if c = '{' then
      let span := if name.isEmpty then none else some (String.ofList name)
      .ok (.field (i + 1), { read with span })
    else .ok (place, read)
  | .field start =>
    let field := slice text start i
    if c = '}' then
      if field.isEmpty then .error .invalidDirective
      else do return (.fields, { read with fields := read.fields ++ [← fieldMatch field] })
    else .ok (place, read)
  | .fields => if c = ']' then .ok (.target, read) else .error .invalidDirective
  | .target => if c = '=' then .ok (.level (i + 1), read) else .error .invalidDirective
  | .level _ => .ok (place, read)

/-- Reads the characters from position `i` on. -/
def steps (text : List Char) (place : Place) (read : Directive) (i : Nat) :
    List Char → Except FilterError (Place × Directive)
  | [] => .ok (place, read)
  | c :: rest => do
    let (place, read) ← step text place read i c
    steps text place read (i + 1) rest

/-- What a directive comes to when its text ends. -/
def finish (text : List Char) (read : Directive) : Place → Except FilterError Directive
  | .levelOrTarget start =>
    let whole := text.drop start
    match threshold? whole with
    | some threshold => .ok { read with threshold }
    | none => .ok { read with target := some (String.ofList whole) }
  | .level start =>
    let level := text.drop start
    if level.isEmpty then .ok read
    else
      match threshold? level with
      | some threshold => .ok { read with threshold }
      | none => .error .invalidLevel
  | .target => .ok read
  | _ => .error .invalidDirective

def parse (text : List Char) : Except FilterError Directive := do
  let trimmed := (Text.dropBlank (Text.dropBlank text).reverse).reverse
  let (place, read) ← steps text .start {} 0 trimmed
  finish text read place

/-- Whether a directive can apply although there are no spans. -/
def needsNoSpan (directive : Directive) : Bool :=
  directive.span.isNone && !directive.fields.any FieldMatch.hasValue

/-- Whether a directive depends on spans or fields at all. Those that do are looked at last when
two directives are equally specific. -/
def isDynamic (directive : Directive) : Bool :=
  directive.span.isSome || !directive.fields.isEmpty

def fieldNames (directive : Directive) : List String :=
  directive.fields.map FieldMatch.name

/-- Whether a directive applies to an entry: the target of the entry begins with the target of the
directive, and the entry has all its fields. The message counts as a field. -/
def appliesTo (directive : Directive) (entry : Entry) : Bool :=
  directive.target.all (fun target => target.toList.isPrefixOf entry.target.toList) &&
    directive.fieldNames.all ("message" :: entry.fields.map Prod.fst).contains

/-- The number of bytes of the target, with none at all below the empty one. -/
def targetRank (directive : Directive) : Nat :=
  match directive.target with
  | none => 0
  | some target => target.utf8ByteSize + 1

/-- Whether one list of names comes before another in the order of words. -/
def namesBefore : List String → List String → Bool
  | _, [] => false
  | [], _ :: _ => true
  | a :: as, b :: bs => a < b || (a == b && namesBefore as bs)

/-- Whether a directive is at least as specific as another: it has a longer target, or as long a
target and more fields, or comes no earlier in the order of words. -/
def atLeastAsSpecific (a b : Directive) : Bool :=
  if a.targetRank != b.targetRank then b.targetRank < a.targetRank
  else if a.fields.length != b.fields.length then b.fields.length < a.fields.length
  else
    let target (d : Directive) := d.target.getD ""
    if target a != target b then target b < target a
    else !namesBefore a.fieldNames b.fieldNames

end Directive

/-- The directives of a filter that can apply; of two that are equally specific, the later one
holds. -/
structure Filter where
  directives : List Directive
  deriving DecidableEq, Repr

namespace Filter

/-- The filter that a text stands for. Empty directives are skipped; the first one that is wrong
decides the error. -/
def parse (text : String) : Except FilterError Filter := do
  let parts := (Text.splitAt ',' text.toList).filter fun part => !part.isEmpty
  let directives ← parts.mapM Directive.parse
  let (dynamic, plain) := directives.partition Directive.isDynamic
  return ⟨(plain ++ dynamic).filter Directive.needsNoSpan⟩

/-- The most specific directive that applies to an entry. -/
def decisive? (filter : Filter) (entry : Entry) : Option Directive :=
  let more (best : Option Directive) (d : Directive) : Option Directive :=
    match best with
    | none => some d
    | some b => if d.atLeastAsSpecific b then some d else best
  (filter.directives.filter fun d => d.appliesTo entry).foldl more none

/-- Whether an entry is written: its level is within the threshold of the directive that decides
about it. -/
def enables (filter : Filter) (entry : Entry) : Bool :=
  match filter.decisive? entry with
  | none => false
  | some directive => entry.level.rank ≤ directive.threshold.rank

end Filter

end SlotServer.Log
