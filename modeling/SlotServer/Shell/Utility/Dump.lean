import SlotServer.Shell.Utility.Amount
import SlotServer.Shell.Utility.Basic

/-!
# Bytes in other forms

Programs that write bytes as numbers and as names of characters, and that write them with letters
and digits alone and read them back.
-/

namespace SlotServer.Shell.Utility

open Work

namespace Dump

/-- How bytes are shown. -/
inductive Form where
  | named
  | character
  | signed
  | unsigned
  | octal
  | hexadecimal
  deriving DecidableEq, Repr

/-- A form for so many bytes at once. -/
structure Shape where
  form : Form
  size : Nat
  /-- Whether the characters follow at the end of the line. -/
  hasText : Bool := false

/-- The names of the characters that cannot be printed. -/
def names : List String :=
  ["nul", "soh", "stx", "etx", "eot", "enq", "ack", "bel", "bs", "ht", "nl", "vt", "ff", "cr", "so",
    "si", "dle", "dc1", "dc2", "dc3", "dc4", "nak", "syn", "etb", "can", "em", "sub", "esc", "fs",
    "gs", "rs", "us", "sp"]

/-- The widths of numbers in a form, by their sizes. -/
def Shape.width (s : Shape) : Nat :=
  let widths : List (Nat × Nat) :=
    match s.form with
    | .named => []
    | .character => []
    | .signed => [(1, 4), (2, 6), (4, 11), (8, 20)]
    | .unsigned => [(1, 3), (2, 5), (4, 10), (8, 20)]
    | .octal => [(1, 3), (2, 6), (4, 11), (8, 22)]
    | .hexadecimal => [(1, 2), (2, 4), (4, 8), (8, 16)]
  (widths.lookup s.size).getD 3

def zeros (width base n : Nat) : String :=
  let ds := Nat.toDigits base n
  String.ofList (List.replicate (width - ds.length) '0' ++ ds)

def character (b : UInt8) : String :=
  let meant : List (UInt8 × String) :=
    [(0, "\\0"), (7, "\\a"), (8, "\\b"), (9, "\\t"), (10, "\\n"), (11, "\\v"), (12, "\\f"),
      (13, "\\r")]
  match meant.lookup b with
  | some text => text
  | none =>
    if Quoting.isPrintable b then String.singleton (Quoting.shown b) else zeros 3 8 b.toNat

/-- The number that bytes make up, the last one counting most. -/
def value (bytes : Bytes) : Nat := bytes.foldr (fun b n => 256 * n + b.toNat) 0

def Shape.text (s : Shape) (bytes : Bytes) : String :=
  let n := value bytes
  match s.form with
  | .named =>
    let code := n % 128
    if code = 127 then "del"
    else match names[code]? with
      | some name => name
      | none => String.singleton (Char.ofNat code)
  | .character => character (bytes.headD 0)
  | .signed =>
    let whole := Amount.power 256 s.size
    toString (if 2 * n < whole then (n : Int) else (n : Int) - whole)
  | .unsigned => toString n
  | .octal => zeros s.width 8 n
  | .hexadecimal => zeros s.width 16 n

def cut (size : Nat) : Nat → Bytes → List Bytes
  | 0, _ => []
  | _, [] => []
  | steps + 1, bytes => bytes.take size :: cut size steps (bytes.drop size)

/-- The values of a line in one form, where `column` bytes of the line take `room` characters. -/
def Shape.row (s : Shape) (width column room : Nat) (bytes : Bytes) : String :=
  let padded := bytes ++ List.replicate ((s.size - bytes.length % s.size) % s.size) (0 : UInt8)
  let perColumn := column / s.size
  let spare := room - perColumn * (s.width + 1)
  let values := (cut s.size (padded.length + 1) padded).map s.text
  let cells := values.zipIdx.map fun (text, i) =>
    let k := perColumn - i % perColumn
    let gap := spare * k / perColumn - spare * (k - 1) / perColumn
    padLeft (s.width + 1 + gap) text
  let text := String.join cells
  if s.hasText then
    let shown := bytes.map fun b => if Quoting.isPrintable b then Quoting.shown b else '.'
    padRight (width / column * room) text ++ "  >" ++ String.ofList shown ++ "<"
  else text

def size? (letter : Char) (usual : Nat) (text : List Char) : Except String (Nat × List Char) :=
  let sizes : List (Char × Nat) := [('C', 1), ('S', 2), ('I', 4), ('L', 8)]
  match text with
  | [] => .ok (usual, [])
  | c :: rest =>
    match sizes.lookup c with
    | some n => .ok (n, rest)
    | none =>
      match Text.digits 10 text with
      | ([], _) => .ok (usual, text)
      | (ds, rest) =>
        let n := Text.ofDigits 10 ds
        if [1, 2, 4, 8].contains n then .ok (n, rest)
        else .error s!"this system doesn't provide a {n}-byte {kind} type"
where
  /-- What numbers of the letter are called. -/
  kind : String := if letter = 'f' then "floating point" else "integral"

def shapes (whole : String) : Nat → List Char → Except String (List Shape)
  | 0, _ => .ok []
  | _ + 1, [] => .ok []
  | steps + 1, c :: rest => do
    let forms : List (Char × Form) :=
      [('d', .signed), ('u', .unsigned), ('o', .octal), ('x', .hexadecimal)]
    let invalid : Except String (Nat × List Char) :=
      .error s!"invalid character '{c}' in type string {Quoting.always whole}"
    let form : Form := if c = 'a' then .named else if c = 'c' then .character
      else (forms.lookup c).getD .octal
    let (size, rest) ←
      if c = 'a' || c = 'c' then pure (1, rest)
      else match forms.lookup c with
        | some _ => size? c 4 rest
        | none => invalid
    let hasText := rest.head? = some 'z'
    let more ← shapes whole steps (if hasText then rest.drop 1 else rest)
    return ⟨form, size, hasText⟩ :: more

/-- The types that letters of options stand for. -/
def shorthands : List (String × Shape) :=
  [("a", ⟨.named, 1, false⟩), ("b", ⟨.octal, 1, false⟩), ("c", ⟨.character, 1, false⟩),
    ("d", ⟨.unsigned, 2, false⟩), ("o", ⟨.octal, 2, false⟩), ("s", ⟨.signed, 2, false⟩),
    ("i", ⟨.signed, 4, false⟩), ("l", ⟨.signed, 8, false⟩), ("x", ⟨.hexadecimal, 2, false⟩),
    ("h", ⟨.hexadecimal, 2, false⟩), ("B", ⟨.octal, 2, false⟩), ("I", ⟨.signed, 8, false⟩),
    ("L", ⟨.signed, 8, false⟩)]

/-- The lines of bytes in some shapes, each with its address; `held` is the line before. -/
def linesOf (shapes : List Shape) (address : Nat → String) (width : Nat) (hides : Bool) :
    Nat → Nat → Option Bytes → Bool → Bytes → List String
  | 0, _, _, _, _ => []
  | _, _, _, _, [] => []
  | steps + 1, place, held, isStarred, bytes =>
    let line := bytes.take width
    let rest := bytes.drop width
    let next := linesOf shapes address width hides steps (place + line.length)
    if hides && held = some line && line.length = width then
      if isStarred then next held true rest else "*\n" :: next held true rest
    else
      let column := shapes.foldl (fun n s => max n s.size) 1
      let room := shapes.foldl (fun n s => max n ((s.width + 1) * (column / s.size))) 0
      let rows := shapes.zipIdx.map fun (s, i) =>
        let front := if i = 0 then address place
          else padLeft (address place).length ""
        front ++ s.row width column room line ++ "\n"
      rows ++ next (some line) false rest

end Dump

/-- Writes bytes as numbers or characters. -/
def od : Program := fun args => do
  let table : OptionTable :=
    { letters := "A:N:S::aBbcDdeFfHhIij:LlOost:vw::Xx"
      names := [("skip-bytes=", "j"), ("address-radix=", "A"), ("read-bytes=", "N"),
        ("format=", "t"), ("output-duplicates", "v"), ("strings=?", "S"), ("width=?", "w"),
        ("traditional", "traditional"), ("endian=", "endian")] }
  let o ← options table args
  let radix := (o.value? "A").getD "o"
  if !(["d", "o", "x", "n"].contains (String.ofList (radix.toList.take 1))) then
    fail (s!"invalid output address radix '{radix}'; " ++
      "it must be one character from [doxn]")
  let amount (option : String) : Work (Option Nat) := do
    match o.value? option with
    | none => return none
    | some text =>
      match Amount.ofText text with
      | .ok n => return some n
      | .error _ =>
        if text.startsWith "0x" then
          match Text.digits 16 (text.toList.drop 2) with
          | (d :: ds, []) => return some (Text.ofDigits 16 (d :: ds))
          | _ => fail s!"invalid -{option} argument {Quoting.literal text}"
        else fail s!"invalid -{option} argument {Quoting.literal text}"
  let skipped := (← amount "j").getD 0
  let most ← amount "N"
  let width ←
    match o.value? "w" with
    | none => pure 16
    | some "" => pure 32
    | some text =>
      match text.toNat? with
      | some n => pure (max n 1)
      | none => fail s!"invalid -w argument {Quoting.literal text}"
  let mut shapes : List Dump.Shape := []
  for (option, value) in o.given do
    if option = "t" then
      match Dump.shapes value (value.length + 1) value.toList with
      | .ok more => shapes := shapes ++ more
      | .error message => fail message
    else
      match Dump.shorthands.lookup option with
      | some shape => shapes := shapes ++ [shape]
      | none => pure ()
  if shapes.isEmpty then shapes := [⟨.octal, 2, false⟩]
  let before := (← get).status
  let isThere ← (filesOrInput o.operands).anyM fun file => do
    return file = "-" || (← lookUp? file).toOption.isSome
  let all ← readAll o.operands
  let isFaulty := before < (← get).status
  if all.length < skipped then fail "cannot skip past end of combined input"
  let bytes := all.drop skipped
  let bytes := match most with
    | some n => bytes.take n
    | none => bytes
  let address (place : Nat) : String :=
    if radix.startsWith "d" then Dump.zeros 7 10 place
    else if radix.startsWith "x" then Dump.zeros 6 16 place
    else if radix.startsWith "n" then ""
    else Dump.zeros 7 8 place
  let lines := Dump.linesOf shapes address width (!o.has "v") (bytes.length + 1) skipped none false
    bytes
  let final := address (skipped + bytes.length)
  if isThere then putText (String.join lines ++ if final.isEmpty then "" else final ++ "\n")
  if isFaulty then raise 1

/-! ## Letters and digits -/

namespace Lettered

/-- The letters of an alphabet for five or six bits. -/
def alphabet (bits : Nat) : List Char :=
  if bits = 6 then "ABCDEFGHIJKLMNOPQRSTUVWXYZabcdefghijklmnopqrstuvwxyz0123456789+/".toList
  else "ABCDEFGHIJKLMNOPQRSTUVWXYZ234567".toList

/-- The number of bytes, and of letters, that make up a group. -/
def groupOf (bits : Nat) : Nat × Nat := if bits = 6 then (3, 4) else (5, 8)

def encode (bits : Nat) (bytes : Bytes) : List Char :=
  let (size, count) := groupOf bits
  (Dump.cut size (bytes.length + 1) bytes).flatMap fun group =>
    let n := (group ++ List.replicate (size - group.length) (0 : UInt8)).foldl
      (fun n b => 256 * n + b.toNat) 0
    let used := (group.length * 8 + bits - 1) / bits
    (List.range count).map fun i =>
      if i < used then
        (alphabet bits).getD (n / Amount.power (Amount.power 2 bits) (count - 1 - i) %
          Amount.power 2 bits) 'A'
      else '='

/-- The bytes of letters, as far as they are right, and whether all are. -/
def decode (bits : Nat) : Nat → List Char → Bytes × Bool
  | 0, _ => ([], true)
  | _ + 1, [] => ([], true)
  | steps + 1, text =>
    let (size, count) := groupOf bits
    let group := text.take count
    let letters := group.takeWhile (alphabet bits).contains
    let padding := group.drop letters.length
    let value := letters.foldl (fun n c =>
      Amount.power 2 bits * n + (alphabet bits).findIdx (· = c)) 0
    let whole := value * Amount.power (Amount.power 2 bits) (count - letters.length)
    let bytes := ((List.range size).map fun i =>
      (whole / Amount.power 256 (size - 1 - i) % 256).toUInt8).take (letters.length * bits / 8)
    let isWhole := group.length = count && padding.all (· = '=') && !bytes.isEmpty &&
      (letters.length * bits) % 8 < bits
    if !isWhole then (if letters.length = group.length || padding.all (· = '=') then bytes else [],
      false)
    else
      let (rest, isRight) := decode bits steps (text.drop count)
      (bytes ++ rest, isRight)

/-- Writes bytes with letters and digits, or reads them back. -/
def program (bits : Nat) : Program := fun args => do
  let table : OptionTable :=
    { letters := "diw:"
      names := [("decode", "d"), ("ignore-garbage", "i"), ("wrap=", "w")] }
  let o ← options table args
  let width ←
    match o.value? "w" with
    | none => pure 76
    | some text =>
      match Amount.ofText text with
      | .ok n => pure n
      | .error _ => fail s!"invalid wrap size: {Quoting.literal text}"
  match o.operands with
  | _ :: extra :: _ => misuse s!"extra operand {Quoting.literal extra}"
  | _ => pure ()
  match ← read (o.operands.headD "-") with
  | .error (.opening error) =>
    let shown := Quoting.ifNeeded (o.operands.headD "-")
    fail s!"{shown}: {error.description}"
  | .error (.reading error) => fail s!"read error: {error.description}"
  | .ok bytes =>
    if o.has "d" then
      let text := (bytes.filter (· ≠ 0x0A)).map Quoting.shown
      let text := if o.has "i" then
          text.filter fun c => c = '=' || (alphabet bits).contains c else text
      let (decoded, isRight) := decode bits (text.length + 1) text
      put decoded
      if !isRight then fail "invalid input"
    else
      let letters := encode bits bytes
      let text := letters.map code
      if width = 0 then put text
      else put ((Dump.cut width (text.length + 1) text).flatMap fun line => line ++ [0x0A])

end Lettered

end SlotServer.Shell.Utility
