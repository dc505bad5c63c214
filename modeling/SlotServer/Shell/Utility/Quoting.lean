import SlotServer.Text.Utf8

/-!
# Names in messages of utilities

How a name is shown so that a shell would read it as one word: as it is if nothing in it means
anything to a shell, in single quotes otherwise, and in double quotes if it holds a single quote and
nothing that double quotes would not keep. Bytes that cannot be printed are shown by their codes.
-/

namespace SlotServer.Shell.Utility.Quoting

/-- The letter that stands for a byte after a backslash. -/
def escapes : List (UInt8 × Char) :=
  [(0x07, 'a'), (0x08, 'b'), (0x0C, 'f'), (0x0A, 'n'), (0x0D, 'r'), (0x09, 't'), (0x0B, 'v')]

def isPrintable (b : UInt8) : Bool := 0x20 ≤ b && b ≤ 0x7E

/-- A byte as a backslash and three octal digits. -/
def octal (b : UInt8) : List Char :=
  let n := b.toNat
  let digit (k : Nat) : Char := Char.ofNat (0x30 + k)
  ['\\', digit (n / 64), digit (n / 8 % 8), digit (n % 8)]

/-- A byte that cannot be printed. -/
def escaped (b : UInt8) : List Char :=
  match escapes.lookup b with
  | some c => ['\\', c]
  | none => octal b

/-- A byte that can be printed, as a character. -/
def shown (b : UInt8) : Char := Char.ofNat b.toNat

/-- The characters that mean something to a shell wherever they stand. -/
def specials : List Char := " !\"$&()*;<=>[^`|'\\?".toList

def isSpecial (name : Bytes) : Bool :=
  name.isEmpty || name == [0x7B] || name == [0x7D] ||
    name.head?.any (fun b => b = 0x23 || b = 0x7E) ||
    name.any fun b => !isPrintable b || specials.contains (shown b)

/-- The characters that double quotes keep. -/
def isKept (b : UInt8) : Bool :=
  let c := shown b
  isPrintable b && (c.isAlphanum || " '%+,-./:@]_".toList.contains c)

/-- The inside of single quotes; `inCodes` says whether the text before ends in codes. -/
def inner (inCodes : Bool) : Bytes → List Char
  | [] => []
  | b :: rest =>
    if isPrintable b then
      let back : List Char := if inCodes then ['\'', '\''] else []
      let c := shown b
      back ++ (if c = '\'' then ['\'', '\\', '\'', '\''] else [c]) ++ inner false rest
    else
      let start : List Char := if inCodes then [] else ['\'', '$', '\'']
      start ++ escaped b ++ inner true rest

def always (name : String) : String :=
  let bytes := Utf8.encodeString name
  if bytes.contains 0x27 && bytes.all isKept then "\"" ++ name ++ "\""
  else String.ofList ('\'' :: inner false bytes ++ ['\''])

def ifNeeded (name : String) : String :=
  if isSpecial (Utf8.encodeString name) then always name else name

/-- A text in single quotes, in which a backslash stands in front of quotes and backslashes. -/
def literal (text : String) : String :=
  let inside := (Utf8.encodeString text).flatMap fun b =>
    let c := shown b
    if !isPrintable b then escaped b else if c = '\'' || c = '\\' then ['\\', c] else [c]
  String.ofList ('\'' :: inside ++ ['\''])

end SlotServer.Shell.Utility.Quoting
