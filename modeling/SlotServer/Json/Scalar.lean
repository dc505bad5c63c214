import SlotServer.Json.Skip

/-!
# Plain values of JSON

Readers of strings, of integers below a bound and of names with no content. A value of another
type is an error that says what was found and what was expected.
-/

namespace SlotServer.JsonText

/-- What the first value of a text is, for an error about it. The value is read as far as that
takes: strings, numbers and words whole, lists and objects not at all. -/
def found (text : List Char) : Except Error Found :=
  match dropSpace text with
  | [] => .error .endOfValue
  | c :: rest =>
    if c = 'n' then (word "ull".toList rest).map fun _ => .null
    else if c = 't' then (word "rue".toList rest).map fun _ => .boolean true
    else if c = 'f' then (word "alse".toList rest).map fun _ => .boolean false
    else if c = '-' || c.isDigit then (number (c :: rest)).map fun (n, _) => n.found
    else if c = '"' then (stringBody rest).map fun (s, _) => .string (String.ofList s)
    else if c = '[' then .ok .array
    else if c = '\x7b' then .ok .object
    else .error .expectedValue

def unexpected {α : Type} (expected : String) (text : List Char) : Except Error α := do
  throw (.invalidType (← found text) expected)

def stringReader (expected : String) : Reader String :=
  fun text =>
    match dropSpace text with
    | '"' :: rest => (stringBody rest).map fun (s, rest) => (String.ofList s, rest)
    | text => unexpected expected text

/-- Reads an integer that is not negative and below `bound`. -/
def naturalReader (bound : Nat) (expected : String) : Reader Nat :=
  fun text =>
    match dropSpace text with
    | [] => .error .endOfValue
    | c :: rest =>
      if c = '-' || c.isDigit then do
        let (value, rest) ← number (c :: rest)
        match value with
        | .integer n =>
          if 0 ≤ n ∧ n < bound then return (n.toNat, rest)
          else throw (.invalidValue (.integer n) expected)
        | .decimal _ => throw (.invalidType value.found expected)
      else unexpected expected (c :: rest)

/-- Reads the value of a name that has no content. -/
def nullReader : Reader Unit :=
  fun text =>
    match dropSpace text with
    | 'n' :: rest => word "ull".toList rest
    | text => unexpected "unit" text

/-- Reads the key of an object that has exactly one member. -/
def onlyKey : Reader String :=
  fun text =>
    match dropSpace text with
    | [] => .error .endOfObject
    | c :: rest =>
      if c = '"' then stringReader "variant identifier" (c :: rest)
      else if c = '\x7d' then .error .expectedValue
      else .error .keyNotString

/-- Reads a name with no content, as a string or as the only key of an object. -/
def nameReader {α : Type} (parse? : String → Option α) (allowed : String) : Reader α :=
  let named (name : String) : Except Error α :=
    match parse? name with
    | some value => .ok value
    | none => .error (.unknownVariant name allowed)
  fun text =>
    match dropSpace text with
    | [] => .error .endOfValue
    | c :: rest =>
      if c = '"' then do
        let (name, rest) ← stringReader "variant identifier" (c :: rest)
        return (← named name, rest)
      else if c = '\x7b' then do
        let (name, rest) ← onlyKey rest
        let value ← named name
        let (_, rest) ← nullReader (← colon rest)
        match dropSpace rest with
        | [] => throw .endOfObject
        | c :: rest => if c = '\x7d' then return (value, rest) else throw .expectedValue
      else .error .expectedValue

end SlotServer.JsonText
