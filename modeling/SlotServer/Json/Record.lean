import SlotServer.Json.Scalar

/-!
# Records in JSON

A record is written as an object with its members in any order, or as a list with its members in
their own order. Members that the record does not have are skipped in an object; a member that is
missing or given twice is an error.
-/

namespace SlotServer.JsonText

/-- A member of a record, of which drafts of type `δ` hold what has been read so far. -/
structure Member (δ : Type) where
  name : String
  /-- Whether a draft has this member already. -/
  isSet : δ → Bool
  /-- Reads the value of this member into a draft. -/
  read : δ → Reader δ

/-- What a record of type `α` looks like. -/
structure Shape (δ α : Type) where
  /-- What a value of another type is told to be. -/
  title : String
  members : List (Member δ)
  /-- A draft with no member. -/
  blank : δ
  /-- The record with the members of a draft, or the first member that is missing. -/
  finish : δ → Except Error α

def required {α : Type} (name : String) : Option α → Except Error α
  | some value => .ok value
  | none => .error (.missingField name)

namespace Shape

variable {δ α : Type}

def member (shape : Shape δ α) (key : String) (draft : δ) : Reader δ :=
  fun text =>
    match shape.members.find? (·.name = key) with
    | none => do return (draft, ← skipValue (← colon text))
    | some m =>
      if m.isSet draft then .error (.duplicateField key) else do m.read draft (← colon text)

def key (other : Char → Error) : Reader String
  | [] => .error .endOfValue
  | c :: rest =>
    if c = '"' then (stringBody rest).map fun (s, rest) => (String.ofList s, rest)
    else .error (other c)

/-- Reads the members of an object and its closing brace. Each member takes at least one character,
so a number of steps above the length of the text is enough. -/
def objectMembers (shape : Shape δ α) : Nat → Bool → δ → Reader δ
  | 0, _, _, _ => .error .endOfObject
  | steps + 1, first, draft, text =>
    match dropSpace text with
    | [] => .error .endOfObject
    | c :: rest =>
      if c = '\x7d' then .ok (draft, rest)
      else if first then do
        let (key, rest) ← key (fun _ => .keyNotString) (c :: rest)
        let (draft, rest) ← shape.member key draft rest
        shape.objectMembers steps false draft rest
      else if c = ',' then do
        let other (d : Char) := if d = '\x7d' then Error.trailingComma else .keyNotString
        let (key, rest) ← key other (dropSpace rest)
        let (draft, rest) ← shape.member key draft rest
        shape.objectMembers steps false draft rest
      else .error .expectedObjectEnd

/-- Whether a list goes on: its next value, or nothing if it ends here. -/
def nextItem (first : Bool) (text : List Char) : Except Error (Option (List Char)) :=
  match dropSpace text with
  | [] => .error .endOfList
  | c :: rest =>
    if c = ']' then .ok none
    else if first then .ok (some (c :: rest))
    else if c = ',' then
      match dropSpace rest with
      | [] => .error .endOfValue
      | d :: rest => if d = ']' then .error .trailingComma else .ok (some (d :: rest))
    else .error .expectedListEnd

def listMembers (shape : Shape δ α) : List (Member δ) → Nat → δ → Reader δ
  | [], _, draft, text => .ok (draft, text)
  | m :: ms, index, draft, text => do
    match ← nextItem (index = 0) text with
    | none =>
      throw (.invalidLength index s!"{shape.title} with {shape.members.length} elements")
    | some text =>
      let (draft, rest) ← m.read draft text
      shape.listMembers ms (index + 1) draft rest

/-- Reads the end of a list that may hold no more values. -/
def listEnd (text : List Char) : Except Error (List Char) :=
  match dropSpace text with
  | [] => .error .endOfList
  | c :: rest =>
    if c = ']' then .ok rest
    else if c = ',' && (dropSpace rest).head? = some ']' then .error .trailingComma
    else .error .trailingCharacters

def reader (shape : Shape δ α) : Reader α :=
  fun text =>
    match dropSpace text with
    | [] => .error .endOfValue
    | c :: rest =>
      if c = '\x7b' then do
        let (draft, rest) ← shape.objectMembers (rest.length + 1) true shape.blank rest
        return (← shape.finish draft, rest)
      else if c = '[' then do
        let (draft, rest) ← shape.listMembers shape.members 0 shape.blank rest
        let value ← shape.finish draft
        return (value, ← listEnd rest)
      else unexpected shape.title (c :: rest)

end Shape

def whole {α : Type} (reader : Reader α) (text : String) : Except Error α := do
  let (value, rest) ← reader text.toList
  if (dropSpace rest).isEmpty then return value else throw .trailingCharacters

end SlotServer.JsonText
