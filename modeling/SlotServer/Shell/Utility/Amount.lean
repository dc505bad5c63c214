import SlotServer.Text.Reader

/-!
# Amounts

How an argument of a utility is read as a number of things: digits, and letters after them that
multiply what they say.
-/

namespace SlotServer.Shell.Utility.Amount

/-- What is wrong with an amount. -/
inductive Problem where
  | invalid
  | tooLarge
  deriving DecidableEq, Repr

/-- The letters that multiply by a power of 1024, or of 1000 where a `B` follows. -/
def scales : List Char := ['K', 'M', 'G', 'T', 'P', 'E', 'Z', 'Y', 'R', 'Q']

/-- A power, by repeated multiplication. -/
def power (base : Nat) : Nat → Nat
  | 0 => 1
  | n + 1 => base * power base n

def factor? (letters : List Char) : Option Nat :=
  match letters with
  | [] => some 1
  | ['b'] => some 512
  | c :: more =>
    let c := if c = 'k' || c = 'm' || c = 'g' || c = 't' then c.toUpper else c
    match scales.findIdx? (· = c), more with
    | some i, [] => some (power 1024 (i + 1))
    | some i, ['i', 'B'] => some (power 1024 (i + 1))
    | some i, ['B'] => some (power 1000 (i + 1))
    | _, _ => none

def greatest : Nat := 18446744073709551615

def ofText (text : String) : Except Problem Nat :=
  let shown := text.toList.dropWhile fun c => c = ' ' || c = '\t'
  let shown := if shown.head? = some '+' then shown.drop 1 else shown
  match Text.digits 10 shown with
  | ([], letters) =>
    if letters.isEmpty || shown.length ≠ text.length then .error .invalid
    else
      match factor? letters with
      | some n => .ok n
      | none => .error .invalid
  | (ds, letters) =>
    match factor? letters with
    | none => .error .invalid
    | some n =>
      let value := Text.ofDigits 10 ds * n
      if greatest < value then .error .tooLarge else .ok value

end SlotServer.Shell.Utility.Amount
