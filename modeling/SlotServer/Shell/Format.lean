import SlotServer.Shell.Format.Real
import SlotServer.Shell.Pattern

/-!
# Formatted output of the shell

Escapes that a backslash begins, and the directives of a format that a percent sign begins. A format
is used again as long as there are arguments for it.
-/

namespace SlotServer.Shell.Format

open Shell.Pattern (code)

/-! ## Escapes -/

/-- The byte of a decimal digit in base eight. -/
def octal? (b : UInt8) : Option Nat :=
  if code '0' ≤ b && b ≤ code '7' then some (b - code '0').toNat else none

/-- The value of at most `limit` octal digits at the start of a text, and what follows them. -/
def octalDigits (limit : Nat) (text : Bytes) : Nat × Bytes :=
  let ds := (text.take limit).takeWhile fun b => (octal? b).isSome
  (Text.ofDigits 8 (ds.filterMap octal?), text.drop ds.length)

def escapeLetters : List (Char × UInt8) :=
  [('\\', 0x5C), ('a', 0x07), ('b', 0x08), ('f', 0x0C), ('n', 0x0A), ('r', 0x0D), ('t', 0x09),
    ('v', 0x0B), ('e', 0x1B)]

/-- The value of at most two hexadecimal digits at the start of a text, and what follows them.
Nothing if there are none. -/
def hexDigits? (text : Bytes) : Option (Nat × Bytes) :=
  let value? (b : UInt8) : Option Nat := Text.digit? 16 (Char.ofNat b.toNat)
  let ds := (text.take 2).takeWhile fun b => (value? b).isSome
  if ds.isEmpty then none
  else some (Text.ofDigits 16 (ds.filterMap value?), text.drop ds.length)

/-- What an escape stands for, and what follows it. In an argument an octal number begins with a
zero; in a format it need not. A hexadecimal number counts only if `hasHex` says so. -/
def escape (inArgument : Bool) (text : Bytes) (hasHex : Bool := false) : Bytes × Bytes :=
  match text with
  | [] => ([code '\\'], [])
  | b :: rest =>
    match escapeLetters.find? fun (c, _) => code c = b with
    | some (_, value) => ([value], rest)
    | none =>
      match if hasHex && b = code 'x' then hexDigits? rest else none with
      | some (n, rest) => ([n.toUInt8], rest)
      | none =>
        if inArgument && b = code '0' then
          let (n, rest) := octalDigits 3 rest
          ([n.toUInt8], rest)
        else if (octal? b).isSome then
          let (n, rest) := octalDigits 3 text
          ([n.toUInt8], rest)
        else ([code '\\', b], rest)

/-- Replaces the escapes of an argument. Output stops at `\c`; the flag says whether it did. -/
def unescape (hasHex : Bool) : Nat → Bytes → Bytes × Bool
  | 0, _ => ([], false)
  | _ + 1, [] => ([], false)
  | steps + 1, b :: rest =>
    if b = code '\\' then
      if rest.head? = some (code 'c') then ([], true)
      else
        let (value, rest) := escape true rest hasHex
        let (more, stopped) := unescape hasHex steps rest
        (value ++ more, stopped)
    else
      let (more, stopped) := unescape hasHex steps rest
      (b :: more, stopped)

/-! ## Formats -/

/-- A number in a directive: there may be none, or an argument gives it. -/
inductive Amount where
  | none
  | given (n : Nat)
  | argument
  deriving DecidableEq, Repr

structure Directive where
  flags : Bytes
  width : Amount
  precision : Amount
  letter : Char
  /-- The directive as it is written. -/
  source : Bytes
  deriving Repr

inductive Part where
  | text (bytes : Bytes)
  | directive (d : Directive)
  /-- A percent sign that no letter follows. -/
  | unfinished
  deriving Repr

/-- The amount at the start of a text, and what follows it. -/
def amount (text : Bytes) : Amount × Bytes :=
  match text with
  | [] => (.none, [])
  | b :: rest =>
    if b = code '*' then (.argument, rest)
    else
      let ds := text.takeWhile fun b => code '0' ≤ b && b ≤ code '9'
      let value := Text.ofDigits 10 (ds.map fun b => (b - code '0').toNat)
      (if ds.isEmpty then .none else .given value, text.drop ds.length)

def flagLetters : List Char := ['-', '+', ' ', '#', '0']

def parts (hasHex : Bool) : Nat → Bytes → List Part
  | 0, _ => []
  | _ + 1, [] => []
  | steps + 1, b :: rest =>
    if b = code '\\' then
      let (value, rest) := escape false rest hasHex
      .text value :: parts hasHex steps rest
    else if b = code '%' then
      if rest.head? = some (code '%') then .text [b] :: parts hasHex steps (rest.drop 1)
      else
        let flags := rest.takeWhile fun f => flagLetters.any fun c => code c = f
        let (width, after) := amount (rest.drop flags.length)
        let (precision, after) : Amount × Bytes :=
          if after.head? = some (code '.') then
            match amount (after.drop 1) with
            | (.none, after) => (.given 0, after)
            | found => found
          else (.none, after)
        match after with
        | [] => [.unfinished]
        | letter :: after =>
          let source := b :: rest.take (rest.length - after.length)
          .directive ⟨flags, width, precision, Char.ofNat letter.toNat, source⟩ ::
            parts hasHex steps after
    else .text [b] :: parts hasHex steps rest

/-- How a text is set in its field. -/
structure Field where
  width : Nat
  precision : Option Nat
  isLeft : Bool
  showsPlus : Bool
  showsBlank : Bool
  isAlternate : Bool
  isZeroFilled : Bool

/-- The field of a directive whose amounts are known. A width below zero means the left side, and a
precision below zero means none. -/
def Field.ofDirective (d : Directive) (width precision : Option Int) : Field :=
  let has (c : Char) : Bool := d.flags.contains (code c)
  let width := width.getD 0
  { width := width.natAbs
    precision := precision.bind fun p => if p < 0 then none else some p.toNat
    isLeft := has '-' || width < 0
    showsPlus := has '+'
    showsBlank := has ' '
    isAlternate := has '#'
    isZeroFilled := has '0' }

def Field.set (f : Field) (zeros : Bool) (sign text : Bytes) : Bytes :=
  let missing := f.width - sign.length - text.length
  if f.isLeft then sign ++ text ++ List.replicate missing (code ' ')
  else if zeros && f.isZeroFilled then sign ++ List.replicate missing (code '0') ++ text
  else List.replicate missing (code ' ') ++ sign ++ text

def Field.sign (f : Field) (negative : Bool) : Bytes :=
  if negative then [code '-']
  else if f.showsPlus then [code '+']
  else if f.showsBlank then [code ' ']
  else []

def Field.integer (f : Field) (letter : Char) (n : Int) : Bytes :=
  let wrapped := (n % UInt64.size).toNat
  let signed := letter = 'd' || letter = 'i'
  let value := if signed then n.natAbs else wrapped
  let radix := if letter = 'o' then 8 else if letter.toLower = 'x' then 16 else 10
  let ds := if value = 0 && f.precision == some 0 then [] else Nat.toDigits radix value
  let ds := if letter = 'X' then ds.map Char.toUpper else ds
  let ds := List.replicate (f.precision.getD 0 - ds.length) '0' ++ ds
  let ds := if letter = 'o' && f.isAlternate && ds.head? ≠ some '0' then '0' :: ds else ds
  let front : Bytes :=
    if signed then f.sign (n < 0)
    else if radix = 16 && f.isAlternate && value ≠ 0 then [code '0', code letter]
    else []
  f.set f.precision.isNone front (ds.map code)

def Field.real (f : Field) (letter : Char) (x : Real) : Bytes :=
  let (negative, text) := x.text letter f.precision f.isAlternate
  let text := if letter.isUpper then text.map Char.toUpper else text
  let (sign, text) : Bytes × List Char :=
    if letter.toLower = 'a' && x.isFinite then
      (f.sign negative ++ (text.take 2).map code, text.drop 2)
    else (f.sign negative, text)
  f.set x.isFinite sign (text.map code)

def Field.text (f : Field) (text : Bytes) : Bytes :=
  f.set false [] ((f.precision.map text.take).getD text)

/-! ## Writing -/

/-- What is wrong with an argument. -/
inductive Complaint where
  | notNumeric (argument : String)
  | incomplete (argument : String)
  | outOfRange (argument : String)

/-- What is wrong with a format. -/
inductive Defect where
  | unknownDirective (source : String)
  | noLetter

/-- What comes out of writing a format. -/
inductive Piece where
  | bytes (bytes : Bytes)
  | complaint (complaint : Complaint)

structure Writing where
  /-- What was written, the last piece first. -/
  output : List Piece
  left : List Bytes
  /-- Whether nothing more is written. -/
  stopped : Bool
  defect : Option Defect

namespace Writing

def argument? : StateM Writing (Option Bytes) := do
  let w ← get
  match w.left with
  | [] => return none
  | a :: left =>
    set { w with left }
    return some a

def put (bytes : Bytes) : StateM Writing Unit :=
  modify fun w => { w with output := .bytes bytes :: w.output }

/-- Complains about an argument whose number does not make up all of it, or does not fit. -/
def check (text : String) (isMissing isExcessive : Bool) (rest : List Char) :
    StateM Writing Unit := do
  let complain (complaint : Complaint) : StateM Writing Unit :=
    modify fun w => { w with output := .complaint complaint :: w.output }
  if !rest.isEmpty then complain (if isMissing then .notNumeric text else .incomplete text)
  else if isExcessive then complain (.outOfRange text)

/-- The code of the character after a quote, if a text begins with one. -/
def quoted? (text : Bytes) : Option Nat :=
  match text with
  | b :: rest => if b = code '\'' || b = code '"' then some (rest.headD 0).toNat else none
  | [] => none

/-- Takes an integer, which may be as great as its kind allows. -/
def integer (signed : Bool) : StateM Writing Int := do
  match ← argument? with
  | none => return 0
  | some bytes =>
    match quoted? bytes with
    | some n => return n
    | none =>
      let text := Utf8.decodeString bytes
      let found := Number.start true text.toList
      let exact : Int :=
        let shown := text.toList.dropWhile Number.isBlank
        let negative := shown.head? = some '-'
        let digits := if negative || shown.head? = some '+' then shown.drop 1 else shown
        match Number.readDigits? true digits with
        | some (n, _) => if negative then -(n : Int) else n
        | none => 0
      if signed then
        check text found.isMissing found.isExcessive found.rest
        return found.value
      else
        let isExcessive := UInt64.size ≤ exact.natAbs
        check text found.isMissing isExcessive found.rest
        return if isExcessive then (UInt64.size : Int) - 1 else exact

def real : StateM Writing Real := do
  match ← argument? with
  | none => return .finite false (Decimal.Binary.ofFloat 0)
  | some bytes =>
    match quoted? bytes with
    | some n => return .finite false (Decimal.Binary.ofFloat (Float.ofNat n))
    | none =>
      let text := Utf8.decodeString bytes
      let (x, isExcessive, isMissing, rest) := Real.start text.toList
      check text isMissing isExcessive rest
      return x

def amount : Amount → StateM Writing (Option Int)
  | .none => return none
  | .given n => return some n
  | .argument => return some (← integer true)

def directive (hasHex : Bool) (d : Directive) : StateM Writing Unit := do
  let width ← amount d.width
  let precision ← amount d.precision
  let field := Field.ofDirective d width precision
  match d.letter with
  | 's' => put (field.text ((← argument?).getD []))
  | 'c' => put ({ field with precision := none }.text [((← argument?).bind List.head?).getD 0])
  | 'b' =>
    let text := (← argument?).getD []
    let (text, stopped) := unescape hasHex (text.length + 1) text
    put (field.text text)
    if stopped then modify fun w => { w with stopped }
  | letter =>
    if ['d', 'i'].contains letter then put (field.integer letter (← integer true))
    else if ['o', 'u', 'x', 'X'].contains letter then
      put (field.integer letter (← integer false))
    else if ['a', 'e', 'f', 'g'].contains letter.toLower then put (field.real letter (← real))
    else
      let defect := Defect.unknownDirective (Utf8.decodeString d.source)
      modify fun w => { w with stopped := true, defect := some defect }

def once (hasHex : Bool) : List Part → StateM Writing Unit
  | [] => return
  | part :: rest => do
    match part with
    | .text bytes => put bytes
    | .directive d => directive hasHex d
    | .unfinished =>
      modify fun w => { w with stopped := true, defect := some .noLetter }
    if (← get).stopped then return else once hasHex rest

/-- Writes a format again and again, as long as it takes arguments and some are left. -/
def again (hasHex : Bool) (format : List Part) : Nat → StateM Writing Unit
  | 0 => return
  | steps + 1 => do
    let before := (← get).left.length
    once hasHex format
    let w ← get
    if w.stopped || w.left.isEmpty || w.left.length = before then return
    else again hasHex format steps

end Writing

/-- What a format writes for these arguments; `hasHex` says whether hexadecimal numbers count after
a backslash. -/
def write (format : Bytes) (args : List Bytes) (hasHex : Bool := false) : Writing :=
  let start : Writing := ⟨[], args, false, none⟩
  let whole := Writing.again hasHex (parts hasHex (format.length + 1) format) (args.length + 1)
  (whole.run start).2

def Writing.bytes (w : Writing) : Bytes :=
  w.output.reverse.flatMap fun piece =>
    match piece with
    | .bytes bytes => bytes
    | .complaint _ => []

def Writing.complaints (w : Writing) : List Complaint :=
  w.output.reverse.filterMap fun piece =>
    match piece with
    | .bytes _ => none
    | .complaint complaint => some complaint

end SlotServer.Shell.Format
