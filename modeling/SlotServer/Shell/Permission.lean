/-!
# Permissions

Permissions to read, to write and to run, for the owner of a file, its group and others; and how
they are written and changed by letters.
-/

namespace SlotServer.Shell.Permission

/-- All bits: those of the three classes, and those that say on whose behalf a file is run and who
may remove what is in a directory. -/
def allBits : Nat := 0o7777

/-- The bits of a class of users, by its letter. -/
def classBits : Char → Nat
  | 'u' => 0o4700
  | 'g' => 0o2070
  | 'o' => 0o1007
  | _ => allBits

/-- The bits of a permission for all classes, by its letter. `X` stands for running what somebody
may run already. -/
def letterBits (mode : Nat) : Char → Option Nat
  | 'r' => some 0o444
  | 'w' => some 0o222
  | 'x' => some 0o111
  | 'X' => some (if mode &&& 0o111 = 0 then 0 else 0o111)
  | 's' => some 0o6000
  | 't' => some 0o1000
  | 'u' => some ((mode / 64) % 8 * 0o111)
  | 'g' => some ((mode / 8) % 8 * 0o111)
  | 'o' => some (mode % 8 * 0o111)
  | _ => none

def without (mode bits : Nat) : Nat :=
  mode - (mode &&& bits)

/-- Applies the changes of one clause, of which `users` are the bits that it is about. -/
def applyChanges (users : Nat) : Nat → Nat → List Char → Option Nat
  | 0, _, _ => none
  | _ + 1, mode, [] => some mode
  | steps + 1, mode, sign :: rest =>
    if !(['+', '-', '='].contains sign) then none
    else
      let letters := rest.takeWhile fun c => !(['+', '-', '='].contains c)
      let later := rest.drop letters.length
      match letters.mapM (letterBits mode) with
      | none => none
      | some found =>
        let bits := found.foldl (· ||| ·) 0 &&& users
        let mode :=
          match sign with
          | '+' => mode ||| bits
          | '-' => without mode bits
          | _ => without mode users ||| bits
        applyChanges users steps mode later

/-- Applies a clause: the users that it is about, and the changes. Where no users are given, the
bits of `mask` stay as they are. -/
def applyClause (mask mode : Nat) (clause : List Char) : Option Nat :=
  let users := clause.takeWhile fun c => ['u', 'g', 'o', 'a'].contains c
  let bits :=
    if users.isEmpty then without allBits mask
    else users.foldl (fun bits c => bits ||| classBits c) 0
  applyChanges bits (clause.length + 1) mode (clause.drop users.length)

def clauses : List Char → List (List Char)
  | [] => [[]]
  | c :: rest =>
    if c = ',' then [] :: clauses rest
    else
      match clauses rest with
      | [] => [[c]]
      | clause :: more => (c :: clause) :: more

def changed? (mask mode : Nat) (changes : String) : Option Nat :=
  (clauses changes.toList).foldl (fun mode? clause =>
    mode?.bind fun mode => applyClause mask mode clause) (some mode)

/-- The permissions of new files after changes that are given by letters. The first clause may not
be empty, and there is no letter for who may remove what is in a directory. -/
def changedForNew? (mode : Nat) (changes : String) : Option Nat :=
  if changes.startsWith "," || changes.toList.contains 't' then none
  else (changed? 0 mode changes).map (· &&& 0o777)

def changedStrictly? (mask mode : Nat) (changes : String) : Option Nat :=
  let isWhole (clause : List Char) : Bool :=
    clause.any fun c => c = '+' || c = '-' || c = '='
  if (clauses changes.toList).all isWhole then changed? mask mode changes else none

def ofOctal? (text : String) : Option Nat :=
  if !text.isEmpty && text.all fun c => '0' ≤ c && c ≤ '7' then
    some (text.toList.foldl (fun n c => 8 * n + (c.toNat - 0x30)) 0)
  else none

def octal (digits mode : Nat) : String :=
  let ds := Nat.toDigits 8 mode
  String.ofList (List.replicate (digits - ds.length) '0' ++ ds)

def letters (bits : Nat) : String :=
  (if bits / 4 % 2 = 1 then "r" else "") ++ (if bits / 2 % 2 = 1 then "w" else "") ++
    (if bits % 2 = 1 then "x" else "")

def shown (mode : Nat) : String :=
  s!"u={letters (mode / 64)},g={letters (mode / 8)},o={letters mode}"

/-- Three permissions as they are shown in a listing; where a special bit is set, its letter stands
in place of the last one. -/
def columns (bits : Nat) (special : Option Char) : String :=
  let runs := bits % 2 = 1
  let last : String :=
    match special with
    | some c => String.singleton (if runs then c else c.toUpper)
    | none => if runs then "x" else "-"
  (if bits / 4 % 2 = 1 then "r" else "-") ++ (if bits / 2 % 2 = 1 then "w" else "-") ++ last

def listed (mode : Nat) : String :=
  let special (bit : Nat) (c : Char) : Option Char := if mode / bit % 2 = 1 then some c else none
  columns (mode / 64) (special 2048 's') ++ columns (mode / 8) (special 1024 's') ++
    columns mode (special 512 't')

end SlotServer.Shell.Permission
