import SlotServer.Shell.Utility.Editor.Command

/-!
# Reading scripts of the stream editor

How the text of a script is read. What is wrong is said together with how far the text was read
when it was noticed.
-/

namespace SlotServer.Shell.Utility.Editor

/-- What is wrong with a script, and where that was noticed. -/
structure ScriptFault where
  message : String
  /-- The number of bytes that were read, if it matters. -/
  place : Option Nat

/-- What is being read. -/
structure Reading where
  rest : Bytes
  place : Nat
  extended : Bool

abbrev Reader := StateT Reading (Except ScriptFault)

namespace Reader

def code (c : Char) : UInt8 := c.toNat.toUInt8

def fail {α : Type} (message : String) : Reader α := do
  throw ⟨message, some (← get).place⟩

def peek : Reader (Option UInt8) := return (← get).rest.head?

def next : Reader (Option UInt8) := do
  let r ← get
  match r.rest with
  | [] => return none
  | b :: rest =>
    set { r with rest, place := r.place + 1 }
    return some b

def skip (n : Nat) : Reader Unit :=
  modify fun r => { r with rest := r.rest.drop n, place := r.place + min n r.rest.length }

def takeWhile (test : UInt8 → Bool) : Reader Bytes := do
  let found := (← get).rest.takeWhile test
  skip found.length
  return found

/-- Whether a byte is a blank within a line. -/
def isBlank (b : UInt8) : Bool := b = 0x20 || (0x09 ≤ b && b ≤ 0x0D && b ≠ 0x0A)

def isSpace (b : UInt8) : Bool := isBlank b || b = 0x0A

def isDigit (b : UInt8) : Bool := 0x30 ≤ b && b ≤ 0x39

def skipBlanks : Reader Unit := do
  let _ ← takeWhile isBlank

def number? : Reader (Option Nat) := do
  let ds ← takeWhile isDigit
  return if ds.isEmpty then none else some (Text.ofDigits 10 (ds.map fun b => (b - 0x30).toNat))

/-! ## Escapes -/

def digit? (base : Nat) (b : UInt8) : Option Nat := Text.digit? base (Char.ofNat b.toNat)

/-- Digits of a code after a letter, and what follows them. -/
def codeDigits (base limit : Nat) (text : Bytes) : Option (UInt8 × Bytes) :=
  let ds := (text.take limit).takeWhile fun b => (digit? base b).isSome
  if ds.isEmpty then none
  else some ((Text.ofDigits base (ds.filterMap (digit? base))).toUInt8, text.drop ds.length)

/-- Puts characters in the place of escapes that stand for them; the others stay. -/
def unescaped : Nat → Bytes → Bytes
  | 0, text => text
  | _ + 1, [] => []
  | steps + 1, b :: rest =>
    if b ≠ code '\\' then b :: unescaped steps rest
    else
      match rest with
      | [] => [b]
      | c :: rest =>
        let coded (base limit : Nat) : Bytes :=
          match codeDigits base limit rest with
          | some (value, after) =>
            let quoted : Bytes := if value = code '\\' then [value, value] else [value]
            quoted ++ unescaped steps after
          | none => b :: c :: unescaped steps rest
        match Char.ofNat c.toNat with
        | 'a' => 0x07 :: unescaped steps rest
        | 'f' => 0x0C :: unescaped steps rest
        | 'r' => 0x0D :: unescaped steps rest
        | 't' => 0x09 :: unescaped steps rest
        | 'v' => 0x0B :: unescaped steps rest
        | 'x' => coded 16 2
        | 'd' => coded 10 3
        | 'o' => coded 8 3
        | 'c' =>
          match rest with
          | k :: rest => (Regular.upper k ^^^ 0x40) :: unescaped steps rest
          | [] => [b, c]
        | _ => b :: c :: unescaped steps rest

/-- Puts characters in the place of escapes. -/
def normal (text : Bytes) : Bytes := unescaped (text.length + 1) text

/-! ## Texts between separators -/

/-- The rest of a list in brackets, up to the closing one, as it is written. -/
def bracket (text : Bytes) : Option Bytes :=
  let negation := text.takeWhile (· = code '^') |>.take 1
  let rest := text.drop negation.length
  let first := if rest.head? = some (code ']') then rest.take 1 else []
  let rec go : Nat → Bytes → Option Bytes
    | 0, _ => none
    | _ + 1, [] => none
    | steps + 1, b :: rest =>
      if b = 0x0A then none
      else if b = code ']' then some [b]
      else
        let mark := rest.head?.getD 0
        let isMarked := b = code '[' && [code ':', code '.', code '='].contains mark
        match if isMarked then Regular.marked? mark (rest.drop 1) else none with
        | some (inside, after) =>
          (go steps after).map fun more => b :: mark :: inside ++ [mark, code ']'] ++ more
        | none => (go steps rest).map (b :: ·)
  (go (rest.length + 1) (rest.drop first.length)).map fun more => negation ++ first ++ more

/-- Takes a text up to a separator. A separator that a backslash stands in front of belongs to the
text. Nothing if there is no separator. -/
def delimited (separator : UInt8) (isRegular : Bool) : Nat → Reader (Option Bytes)
  | 0 => return none
  | steps + 1 => do
    match ← peek with
    | none => return none
    | some b =>
      if b = separator then
        skip 1
        return some []
      else if b = 0x0A && isRegular then return none
      else if b = code '\\' then
        skip 1
        match ← next with
        | none => return none
        | some c =>
          let more ← delimited separator isRegular steps
          let front : Bytes :=
            if c = separator then if !isRegular && c = code '&' then [b, c] else [c]
            else if isRegular && c = code 'n' then [0x0A]
            else if isRegular && c = 0x0A then [c]
            else [b, c]
          return more.map (front ++ ·)
      else if b = code '[' && isRegular then
        skip 1
        match bracket (← get).rest with
        | none =>
          let _ ← takeWhile (· ≠ 0x0A)
          return none
        | some inside =>
          skip inside.length
          let converted := newlines inside
          let more ← delimited separator isRegular steps
          return more.map (b :: converted ++ ·)
      else
        skip 1
        let more ← delimited separator isRegular steps
        return more.map (b :: ·)
where
  /-- Newlines in the place of their escapes. -/
  newlines : Bytes → Bytes
    | a :: b :: rest =>
      if a = code '\\' && b = code 'n' then 0x0A :: newlines rest else a :: newlines (b :: rest)
    | short => short

def upTo (separator : UInt8) (isRegular : Bool) : Reader (Option Bytes) := do
  delimited separator isRegular ((← get).rest.length + 1)

/-- How the expressions of scripts are written. -/
def dialect (extended : Bool) : Regular.Dialect :=
  { extended, sparesClosing := false, sparesOperators := false, sparesBraces := false
    hasEscapes := true }

def expression (text : Bytes) (foldsCase hasLines : Bool) : Reader (Expression × Nat) := do
  if text.isEmpty then return (⟨none, foldsCase, hasLines⟩, 9)
  else
    match Regular.read (dialect (← get).extended) (normal text) with
    | .ok (regular, groups, _) => return (⟨some regular, foldsCase, hasLines⟩, groups)
    | .error problem => fail problem.message

/-! ## Addresses -/

def addressFlags : Nat → Bool → Bool → Reader (Bool × Bool)
  | 0, foldsCase, hasLines => return (foldsCase, hasLines)
  | steps + 1, foldsCase, hasLines => do
    match (← peek).map fun b => Char.ofNat b.toNat with
    | some 'I' =>
      skip 1
      addressFlags steps true hasLines
    | some 'M' =>
      skip 1
      addressFlags steps foldsCase true
    | _ => return (foldsCase, hasLines)

def fits? : Reader (Option Expression) := do
  let separator? ←
    match (← get).rest with
    | b :: c :: _ =>
      if b = code '/' then
        skip 1
        pure (some b)
      else if b = code '\\' then
        skip 2
        pure (some c)
      else pure none
    | [b] =>
      if b = code '/' then
        skip 1
        pure (some b)
      else pure none
    | [] => pure none
  match separator? with
  | none => return none
  | some separator =>
    match ← upTo separator true with
    | none => fail "unterminated address regex"
    | some text =>
      let (foldsCase, hasLines) ← addressFlags 10 false false
      return some (← expression text foldsCase hasLines).1

/-- Takes the first address of a command, if there is one. -/
def address? : Reader (Option Address) := do
  match ← number? with
  | some n =>
    skipBlanks
    if (← peek) = some (code '~') then
      skip 1
      let step := (← number?).getD 0
      return some (if step = 0 then .line n else .steps n step)
    else return some (.line n)
  | none =>
    match (← peek).map fun b => Char.ofNat b.toNat with
    | some '$' =>
      skip 1
      return some .last
    | some '+' =>
      skip 1
      let _ ← number?
      fail "invalid usage of +N or ~N as first address"
    | some '~' =>
      skip 1
      let _ ← number?
      fail "invalid usage of +N or ~N as first address"
    | _ => return (← fits?).map .fits

def rangeEnd : Reader RangeEnd := do
  match ← number? with
  | some n => return .line n
  | none =>
    match (← peek).map fun b => Char.ofNat b.toNat with
    | some '$' =>
      skip 1
      return .last
    | some '+' =>
      skip 1
      return .after ((← number?).getD 0)
    | some '~' =>
      skip 1
      return .multiple ((← number?).getD 0)
    | _ =>
      match ← fits? with
      | some e => return .fits e
      | none =>
        skip 1
        fail "unexpected `,'"

/-! ## Commands -/

def finish : Reader Unit := do
  skipBlanks
  match (← peek).map fun b => Char.ofNat b.toNat with
  | none => return
  | some '}' => return
  | some '#' => return
  | some ';' => skip 1
  | some '\n' => skip 1
  | some _ =>
    skip 1
    fail "extra characters after command"

def label : Reader String := do
  skipBlanks
  let text ← takeWhile fun b => !isSpace b && b ≠ code ';' && b ≠ code '}'
  return Utf8.decodeString text

/-- Takes the name of a file, up to the end of the line. -/
def fileName : Reader String := do
  skipBlanks
  let text ← takeWhile (· ≠ 0x0A)
  if text.isEmpty then fail "missing filename in r/R/w/W commands"
  skip 1
  return Utf8.decodeString text

/-- Takes a text up to a newline that no backslash stands in front of. -/
def textLines : Nat → Reader Bytes
  | 0 => return []
  | steps + 1 => do
    match ← next with
    | none => return []
    | some b =>
      if b = 0x0A then return []
      else if b = code '\\' then
        match ← next with
        | none => return []
        | some c => return b :: c :: (← textLines steps)
      else return b :: (← textLines steps)

/-- A text without the backslashes that stand in front of its characters; an `n` after one stands
for a newline. -/
def bared : Bytes → Bytes
  | a :: b :: rest =>
    if a ≠ code '\\' then a :: bared (b :: rest)
    else if b = code 'n' then 0x0A :: bared rest
    else b :: bared rest
  | short => short

/-- Takes the text of a command that adds lines. -/
def text : Reader Bytes := do
  skipBlanks
  match ← peek with
  | none => fail "expected \\ after `a', `c' or `i'"
  | some b =>
    if b = 0x0A then fail "expected \\ after `a', `c' or `i'"
    let isEscaped := b = code '\\'
    let mut front : Bytes := []
    if isEscaped then
      skip 1
      let blanks ← takeWhile isBlank
      if (← peek) = some 0x0A then skip 1
      else front := blanks
    if isEscaped && (← peek).isNone then return []
    else
      let body ← textLines ((← get).rest.length + 1)
      return front ++ bared (normal body) ++ [0x0A]

def replacement : Nat → Bytes → List Replacement
  | 0, _ => []
  | _ + 1, [] => []
  | steps + 1, b :: rest =>
    if b = code '&' then .group 0 :: replacement steps rest
    else if b = code '\\' then
      match rest with
      | [] => [.text [b]]
      | c :: rest =>
        let part : Replacement :=
          match Char.ofNat c.toNat with
          | 'n' => .text [0x0A]
          | 'U' => .change .upper
          | 'L' => .change .lower
          | 'E' => .change .none
          | 'u' => .change .nextUpper
          | 'l' => .change .nextLower
          | _ => if isDigit c then .group (c - 0x30).toNat else .text [c]
        part :: replacement steps rest
    else .text [b] :: replacement steps rest

/-- The flags of a substitution. -/
structure Flags where
  isGlobal : Bool := false
  prints : Bool := false
  foldsCase : Bool := false
  hasLines : Bool := false
  evaluates : Bool := false
  first : Option Nat := none
  file : Option String := none

/-- Takes the flags of a substitution, with the end of the command. -/
def flags : Nat → Flags → Reader Flags
  | 0, f => return f
  | steps + 1, f => do
    match (← peek).map fun b => Char.ofNat b.toNat with
    | none => return f
    | some '\n' =>
      skip 1
      return f
    | some ';' =>
      skip 1
      return f
    | some '}' => return f
    | some '#' => return f
    | some ' ' =>
      skip 1
      flags steps f
    | some '\t' =>
      skip 1
      flags steps f
    | some c =>
      if c.isDigit then
        if f.first.isSome then
          let _ ← number?
          fail "multiple number options to `s' command"
        else
          let n ← number?
          if n = some 0 then fail "number option to `s' command may not be zero"
          else flags steps { f with first := n }
      else
        skip 1
        match c with
        | 'g' =>
          if f.isGlobal then fail "multiple `g' options to `s' command"
          else flags steps { f with isGlobal := true }
        | 'p' =>
          if f.prints then fail "multiple `p' options to `s' command"
          else flags steps { f with prints := true }
        | 'i' => flags steps { f with foldsCase := true }
        | 'I' => flags steps { f with foldsCase := true }
        | 'm' => flags steps { f with hasLines := true }
        | 'M' => flags steps { f with hasLines := true }
        | 'e' => flags steps { f with evaluates := true }
        | 'w' =>
          let file ← fileName
          return { f with file := some file }
        | _ => fail "unknown option to `s'"

def substitution : Reader Operation := do
  match ← next with
  | none => fail "unterminated `s' command"
  | some separator =>
    match ← upTo separator true with
    | none => fail "unterminated `s' command"
    | some wanted =>
      match ← upTo separator false with
      | none => fail "unterminated `s' command"
      | some target =>
        let f ← flags ((← get).rest.length + 1) {}
        let (e, groups) ← expression wanted f.foldsCase f.hasLines
        let target := normal target
        let parts := replacement (target.length + 1) target
        let most := (parts.filterMap fun p =>
          match p with
          | .group n => some n
          | _ => none).foldl max 0
        if groups < most then fail s!"invalid reference \\{most} on `s' command's RHS"
        return .substitute
          ⟨e, parts, f.isGlobal, f.first.getD 1, f.prints, f.evaluates, f.file⟩

def characters (separator : UInt8) : Bytes → Option Bytes
  | [] => some []
  | a :: b :: rest =>
    if a ≠ code '\\' then (characters separator (b :: rest)).map (a :: ·)
    else if b = code '\\' then (characters separator rest).map (b :: ·)
    else if b = code 'n' then (characters separator rest).map (0x0A :: ·)
    else if b = separator then (characters separator rest).map (b :: ·)
    else (characters separator rest).map (fun more => a :: b :: more)
  | [a] => some [a]

def translation : Reader Operation := do
  match ← next with
  | none => fail "unterminated `y' command"
  | some separator =>
    match ← upTo separator false with
    | none => fail "unterminated `y' command"
    | some source =>
      match ← upTo separator false with
      | none => fail "unterminated `y' command"
      | some target =>
        match characters separator (normal source), characters separator (normal target) with
        | some a, some b =>
          if a.length ≠ b.length then fail "strings for `y' command are different lengths"
          finish
          return .translate (a.zip b)
        | _, _ => fail "strings for `y' command are different lengths"

/-- Takes what a command does, after its letter. Commands that have an end of their own take it. -/
def operation (c : Char) (addresses : Nat) : Reader Operation := do
  let plain (operation : Operation) : Reader Operation := do
    finish
    return operation
  let single : Reader Unit :=
    if 1 < addresses then fail "command only uses one address" else pure ()
  match c with
  | '=' => plain .number
  | 'a' => return .append (← text)
  | 'i' => return .insert (← text)
  | 'c' => return .change (← text)
  | 'd' => plain .delete
  | 'D' => plain .deleteFirst
  | 'e' =>
    skipBlanks
    let command ← takeWhile (· ≠ 0x0A)
    skip 1
    return .evaluate command
  | 'F' => plain .fileName
  | 'g' => plain .get
  | 'G' => plain .getAppended
  | 'h' => plain .hold
  | 'H' => plain .holdAppended
  | 'x' => plain .exchange
  | 'l' =>
    skipBlanks
    plain (.list (← number?))
  | 'n' => plain .next
  | 'N' => plain .nextAppended
  | 'p' => plain .print
  | 'P' => plain .printFirst
  | 'q' =>
    single
    skipBlanks
    plain (.quit ((← number?).getD 0))
  | 'Q' =>
    single
    skipBlanks
    plain (.quitSilently ((← number?).getD 0))
  | 'r' => return .readFile (← fileName)
  | 'R' => return .readLine (← fileName)
  | 'w' => return .write (← fileName)
  | 'W' => return .writeFirst (← fileName)
  | 's' => substitution
  | 'y' => translation
  | 'z' => plain .clear
  | 'v' =>
    let _ ← label
    plain .nothing
  | 'b' =>
    let target ← label
    plain (.jump .always target)
  | 't' =>
    let target ← label
    plain (.jump .ifReplaced target)
  | 'T' =>
    let target ← label
    plain (.jump .ifNotReplaced target)
  | c => fail s!"unknown command: `{c}'"

/-! ## Scripts -/

/-- What was read of a script. -/
structure Progress where
  commands : Array Command
  labels : List (String × Nat)
  /-- The blocks that are open, by the numbers of their commands. -/
  blocks : List Nat

/-- Takes blanks, newlines and semicolons between commands. -/
def skipBetween : Reader Unit := do
  let _ ← takeWhile fun b => isSpace b || b = code ';'

def addresses : Reader (Option Address × Option RangeEnd) := do
  match ← address? with
  | none => return (none, none)
  | some first =>
    skipBlanks
    if (← peek) = some (code ',') then
      skip 1
      skipBlanks
      return (some first, some (← rangeEnd))
    else return (some first, none)

def commands : Nat → Progress → Reader Progress
  | 0, p => return p
  | steps + 1, p => do
    skipBetween
    let (first, last) ← addresses
    skipBlanks
    let mut isNegated := false
    if (← peek) = some (code '!') then
      skip 1
      skipBlanks
      isNegated := true
      if (← peek) = some (code '!') then
        skip 1
        fail "multiple `!'s"
    let isZero := first matches some (.line 0)
    if isZero && !(last matches some (.fits _)) then
      skip 1
      fail "invalid usage of line address 0"
    match ← next with
    | none => if first.isSome then fail "missing command" else return p
    | some b =>
      let build (operation : Operation) : Progress :=
        { p with commands := p.commands.push ⟨first, last, isNegated, isZero, operation⟩ }
      match Char.ofNat b.toNat with
      | '#' =>
        if first.isSome then fail "comments don't accept any addresses"
        let _ ← takeWhile (· ≠ 0x0A)
        commands steps p
      | ':' =>
        if first.isSome then fail ": doesn't want any addresses"
        let name ← label
        if name.isEmpty then fail "\":\" lacks a label"
        commands steps { p with labels := p.labels ++ [(name, p.commands.size)] }
      | '{' =>
        let next := build (.block 0)
        commands steps { next with blocks := p.commands.size :: p.blocks }
      | '}' =>
        match p.blocks with
        | [] => fail "unexpected `\x7d'"
        | start :: blocks =>
          if first.isSome then fail "\x7d doesn't want any addresses"
          finish
          let size := p.commands.size
          let closed := p.commands.modify start fun c => { c with operation := .block size }
          commands steps { p with commands := closed, blocks }
      | c =>
        let count := (if first.isSome then 1 else 0) + (if last.isSome then 1 else 0)
        let operation ← operation c count
        commands steps (build operation)

end Reader

def read (extended isQuiet : Bool) (text : Bytes) : Except ScriptFault Script := do
  let isQuiet := isQuiet || text.take 3 == [0x23, 0x6E, 0x0A] || text == [0x23, 0x6E]
  let start : Reading := ⟨text, 0, extended⟩
  let (p, _) ← (Reader.commands (text.length + 2) ⟨#[], [], []⟩).run start
  if !p.blocks.isEmpty then throw ⟨"unmatched `\x7b'", none⟩
  else return ⟨p.commands, p.labels, isQuiet⟩

end SlotServer.Shell.Utility.Editor
