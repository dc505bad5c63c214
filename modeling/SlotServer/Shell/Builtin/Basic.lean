import SlotServer.Shell.State

/-!
# Commands of the shell itself

What the commands that a shell runs without a program have in common: they act on the state of the
shell, and what they write is held back until they are at their end.
-/

namespace SlotServer.Shell

/-- A command of the shell, as a function of its arguments. It sets the status. -/
abbrev Builtin := List Bytes → Action Flow

namespace Builtin

def finish (status : Nat) : Action Flow := do
  Action.setStatus status
  return .next

def emit (bytes : Bytes) : Action Unit :=
  modify fun state => { state with unwritten := state.unwritten ++ bytes }

def emitText (text : String) : Action Unit :=
  emit (Utf8.encodeString text)

/-- A letter as an argument would have it. -/
def byteOf (c : Char) : UInt8 := c.toNat.toUInt8

/-- Takes the options from the start of the arguments, with what belongs to them: `allowed` has
their letters, with a flag for those that something belongs to. -/
def takeOptions (allowed : List (Char × Bool)) :
    Nat → List Bytes → Action (List (Char × Bytes) × List Bytes)
  | 0, args => return ([], args)
  | _ + 1, [] => return ([], [])
  | steps + 1, arg :: args => do
    match arg with
    | hyphen :: letter :: more =>
      if hyphen ≠ byteOf '-' then return ([], arg :: args)
      else if letter = byteOf '-' && more.isEmpty then return ([], args)
      else
        let c := Char.ofNat letter.toNat
        match allowed.lookup c with
        | none => Action.fail s!"Illegal option -{c}"
        | some false =>
          let rest := if more.isEmpty then args else (hyphen :: more) :: args
          let (found, rest) ← takeOptions allowed steps rest
          return ((c, []) :: found, rest)
        | some true =>
          match more, args with
          | [], [] => Action.fail s!"No arg for -{c} option"
          | [], value :: args =>
            let (found, rest) ← takeOptions allowed steps args
            return ((c, value) :: found, rest)
          | _, _ =>
            let (found, rest) ← takeOptions allowed steps args
            return ((c, more) :: found, rest)
    | _ => return ([], arg :: args)

def options (letters : String) (args : List Bytes) : Action (List Char × List Bytes) := do
  let steps := (args.map List.length).foldl (· + ·) (args.length + 1)
  let (found, rest) ← takeOptions (letters.toList.map fun c => (c, false)) steps args
  return (found.map Prod.fst, rest)

def texts (args : List Bytes) : List String :=
  args.map Utf8.decodeString

/-- A text in single quotes; single quotes in it stand in double quotes. -/
def quoted (text : String) : String :=
  let rec go : Nat → List Char → List Char
    | 0, _ => []
    | steps + 1, text =>
      let plain := text.takeWhile (· ≠ '\'')
      let rest := text.drop plain.length
      let quotes := rest.takeWhile (· = '\'')
      let shown := '\'' :: plain ++ ['\'']
      if quotes.isEmpty then shown
      else
        let later := rest.drop quotes.length
        shown ++ '"' :: quotes ++ '"' :: (if later.isEmpty then [] else go steps later)
  String.ofList (go (text.length + 1) text.toList)

def bucket (buckets : Nat) (name : String) : Nat :=
  let codes := (Utf8.encodeString name).map UInt8.toNat
  (16 * codes.headD 0 + codes.foldl (· + ·) 0) % buckets

/-- The entries of a table by their buckets, and in each bucket by their age. -/
def inBuckets {α : Type} (buckets : Nat) (table : List (String × α)) : List (String × α) :=
  (List.range buckets).flatMap fun n => table.filter fun (name, _) => bucket buckets name = n

end Builtin

end SlotServer.Shell
