import SlotServer.Shell.Script.Source

/-!
# Reading scripts

The commands that the text of a script stands for. A script is read command line by command line,
so that what is wrong with a later line does not keep the earlier ones from being run. What stands
in quotes, in braces or in parentheses after a dollar sign belongs to one word; scripts in words are
read along with the words.
-/

namespace SlotServer.Shell

namespace Reading

/-! ## Places -/

/-- Where pieces of a word stand. -/
inductive Place where
  /-- Outside of quotes. -/
  | bare
  /-- In double quotes, which may stand in the braces of a parameter. -/
  | doubleQuotes (inBraces : Bool)
  /-- In the braces of a parameter, outside of quotes. -/
  | braces
  /-- In the braces of a quoted parameter; `inner` says whether further double quotes are open. -/
  | quotedBraces (inner inDocument : Bool)
  /-- In an arithmetic expression, with so many open parentheses. -/
  | expression (depth : Nat)
  /-- In lines that are given as the input of a command. -/
  | document
  deriving DecidableEq, Repr

def Place.isQuoted : Place → Bool
  | bare => false
  | braces => false
  | _ => true

/-- What is missing where pieces at a place are never ended. -/
def Place.missing? : Place → Option String
  | bare => none
  | doubleQuotes _ => some "Unterminated quoted string"
  | braces => some "Missing '\x7d'"
  | quotedBraces _ inDocument =>
    some (if inDocument then "Missing '\x7d'" else "Unterminated quoted string")
  | expression _ => some "Missing '))'"
  | document => none

/-- Whether a backslash at a place takes the meaning of a character away. -/
def Place.escapes (place : Place) (c : Char) : Bool :=
  !place.isQuoted || ['$', '\x60', '\\'].contains c ||
    (c = '"' && place ≠ .document) ||
    (c = '\x7d' &&
      match place with
      | .quotedBraces _ _ => true
      | .doubleQuotes inBraces => inBraces
      | _ => false)

def Place.argument : Place → Place
  | bare => braces
  | braces => braces
  | document => quotedBraces false true
  | quotedBraces _ inDocument => quotedBraces false inDocument
  | _ => quotedBraces false false

/-- The characters that end a word outside of quotes. -/
def isBreak (c : Char) : Bool :=
  [' ', '\t', '\n', '|', '&', ';', '<', '>', '(', ')', Source.mark].contains c

/-- The names of the parameters that are no names of variables. -/
def isSpecial (c : Char) : Bool :=
  c.isDigit || ['@', '*', '#', '?', '-', '$', '!'].contains c

/-! ## Parts without scripts -/

def takeWhile (kind : Char → Bool) : Nat → Reading (List Char)
  | 0 => return []
  | steps + 1 => do
    match ← peek with
    | some c =>
      if kind c then
        skip
        return c :: (← takeWhile kind steps)
      else return []
    | none => return []

def singleQuoted : Reading String := do
  let text := (← get).text.takeWhile (· ≠ '\'')
  modify (Source.advancedBy text.length)
  if (← get).text.isEmpty then fail "Unterminated quoted string"
  skip
  return String.ofList text

/-- Takes the script between backquotes. A backslash protects a backquote, a backslash and a dollar
sign, and in quotes a double quote. -/
def backquotedText (inQuotes : Bool) : Nat → Reading (List Char)
  | 0 => fail "EOF in backquote substitution"
  | steps + 1 => do
    match ← take with
    | none => fail "EOF in backquote substitution"
    | some '\\' =>
      let next := (← get).text.head?
      skip
      match next with
      | none => return '\\' :: (← backquotedText inQuotes steps)
      | some c =>
        let isProtected := c = '\\' || c = '\x60' || c = '$' || (inQuotes && c = '"')
        let rest ← backquotedText inQuotes steps
        return if isProtected then c :: rest else '\\' :: c :: rest
    | some c =>
      if c = '\x60' then return []
      else return c :: (← backquotedText inQuotes steps)

/-- The word that delimits lines of input at the start of a text, whether any of it is quoted, and
the text after it. -/
def delimiter : Nat → Option Char → List Char → List Char × Bool × List Char
  | 0, _, text => ([], false, text)
  | _ + 1, _, [] => ([], false, [])
  | steps + 1, quote, c :: rest =>
    let goOn (front : List Char) (quoted : Bool) (quote : Option Char) (rest : List Char) :=
      let (more, moreQuoted, after) := delimiter steps quote rest
      (front ++ more, quoted || moreQuoted, after)
    match quote with
    | some q =>
      if c = q then goOn [] true none rest
      else if c = '\\' && q = '"' then goOn (rest.take 1) true quote (rest.drop 1)
      else goOn [c] true quote rest
    | none =>
      if isBreak c then ([], false, c :: rest)
      else if c = '\'' || c = '"' then goOn [] true (some c) rest
      else if c = '\\' then goOn (rest.take 1) true none (rest.drop 1)
      else goOn [c] false none rest

def isContinued (line : List Char) : Bool :=
  (line.reverse.takeWhile (· = '\\')).length % 2 = 1

/-- The lines of a text up to a line that is the delimiter, the text after that line if there is
one, and the number of lines that were taken. Tabs in front of a line are left out if `strip` says
so, and lines may go on in the next one if `joins` says so. -/
def documentLines (strip joins : Bool) (delimiter : List Char) :
    Bool → List (List Char) → List Char × Option (List Char) × Nat
  | _, [] => ([], none, 0)
  | continued, line :: rest =>
    let line := if strip && !continued then line.dropWhile (· = '\t') else line
    if !continued && line = delimiter then
      ([], if rest.isEmpty then none else some (['\n'].intercalate rest), 1)
    else
      let isOpen := joins && isContinued line
      let (body, after, count) := documentLines strip joins delimiter isOpen rest
      (line ++ (if rest.isEmpty then [] else ['\n']) ++ body, after, count + 1)

def splitLines : List Char → List (List Char)
  | [] => [[]]
  | c :: rest =>
    if c = '\n' then [] :: splitLines rest
    else
      match splitLines rest with
      | [] => [[c]]
      | line :: lines => (c :: line) :: lines

/-- Takes out the lines below the present one up to the delimiter. -/
def takeDocument (strip joins : Bool) (delimiter : List Char) : Reading (List Char) := do
  let source ← get
  let line := source.text.takeWhile (· ≠ '\n')
  match source.text.drop line.length with
  | [] => return []
  | _ :: below =>
    let (body, after, count) := documentLines strip joins delimiter false (splitLines below)
    let text := line ++ '\n' :: after.getD []
    set { source with text, taken := source.taken + count }
    return body

/-- Reads what is done with the value of a parameter, up to its argument; and whether the argument
stands outside of quotes in any case. Nothing more is read where the value is kept. -/
def change : Reading (Change × Bool) := do
  let simple? (emptyToo : Bool) : Char → Option Change
    | '-' => some (.orElse emptyToo)
    | '=' => some (.orAssign emptyToo)
    | '?' => some (.orFail emptyToo)
    | '+' => some (.ifSet emptyToo)
    | _ => none
  match ← take with
  | some ':' =>
    match (← take).bind (simple? true) with
    | some change => return (change, false)
    | none => return (.wrong, false)
  | some '%' =>
    if ← skipIf '%' then return (.dropSuffix true, true) else return (.dropSuffix false, true)
  | some '#' =>
    if ← skipIf '#' then return (.dropPrefix true, true) else return (.dropPrefix false, true)
  | some '\x7d' => return (.keep, false)
  | some c => return ((simple? false c).getD .wrong, false)
  | none => return (.wrong, false)

/-- Reads the name of a parameter in braces, and whether its length is asked for; a name that is
none stays where it is. -/
def bracedName (steps : Nat) : Reading (Option String × Bool) := do
  let letters : Reading String := do
    return String.ofList (← takeWhile Word.isNamePart steps)
  let digits : Reading String := do
    return String.ofList (← takeWhile Char.isDigit steps)
  match ← peek with
  | none => return (none, false)
  | some '\x7d' => return (none, false)
  | some '#' =>
    skip
    let before ← get
    match ← take with
    | none =>
      set before
      return (some "#", false)
    | some c =>
      if Word.isNameStart c then
        set before
        return (some (← letters), true)
      else if c.isDigit then
        set before
        return (some (← digits), true)
      else if c ≠ '\x7d' && (← peek) = some '\x7d' then
        return (if isSpecial c then some (String.ofList [c]) else none, true)
      else
        set before
        return (some "#", false)
  | some c =>
    if Word.isNameStart c then return (some (← letters), false)
    else if c.isDigit then return (some (← digits), false)
    else
      skip
      return (if isSpecial c then some (String.ofList [c]) else none, false)

/-- The commands that cannot be replaced by functions. -/
def specialCommands : List String :=
  [".", ":", "break", "continue", "eval", "exec", "exit", "export", "readonly", "return", "set",
    "shift", "times", "trap", "unset"]

def after (first : Option Script) (second : Script) : Script :=
  match first with
  | none => second
  | some first => .sequence first second

def withRedirects (line : Nat) (redirects : List Redirect) (body : Script) : Script :=
  match body with
  | .subshell l inner _ => .subshell l inner redirects
  | _ => if redirects.isEmpty then body else .redirected line body redirects

def asIs : Look := ⟨false, false, false⟩

def atCommand : Look := ⟨false, true, true⟩

/-- Tokens begin a command on this line or a later one. -/
def overLines : Look := ⟨true, true, true⟩

mutual

def pieces : Nat → Place → Reading Word
  | 0, _ => return []
  | steps + 1, place => do
    let goOn (front : Word) (place : Place) : Reading Word := do
      return front ++ (← pieces steps place)
    let literal (c : Char) : Word :=
      [if place.isQuoted then .quoted (String.ofList [c]) else .plain c]
    match ← peek with
    | none =>
      match place.missing? with
      | some message => fail message
      | none => return []
    | some c =>
      if place = .bare && isBreak c then return []
      else if c = Source.mark then
        modify Source.afterMark
        goOn [] place
      else if c = '\x7d' && (place = .braces || place matches .quotedBraces false _) then
        skip
        return []
      else if c = '"' && (place matches .doubleQuotes _) then
        skip
        return []
      else
        skip
        match place, c with
        | .quotedBraces inner inDocument, '"' =>
          goOn [.quoted ""] (.quotedBraces (!inner) inDocument)
        | .expression depth, '(' => goOn (literal c) (.expression (depth + 1))
        | .expression (depth + 1), ')' => goOn (literal c) (.expression depth)
        | .expression 0, ')' =>
          if ← skipIf ')' then return [] else goOn (literal c) place
        | _, '\'' =>
          if place.isQuoted then goOn (literal c) place
          else goOn [.quoted (← singleQuoted)] place
        | _, '"' =>
          if place.isQuoted then goOn (literal c) place
          else
            let inner ← pieces steps (.doubleQuotes (place = .braces))
            let isArguments := inner matches [.parameter _ "@" .keep _]
            goOn (if isArguments then inner else .quoted "" :: inner) place
        | _, '\\' =>
          let next := (← get).text.head?
          skip
          match next with
          | none => goOn [.quoted "\\"] place
          | some d =>
            if place.escapes d then goOn [.quoted (String.ofList [d])] place
            else goOn [.quoted (String.ofList ['\\', d])] place
        | _, '$' => goOn (← substitution steps place) place
        | _, _ =>
          if c = '\x60' then
            let body ← backquotedText place.isQuoted (← get).text.length.succ
            let inner := { Source.ofScript (← get).aliases (String.ofList body) with line := 1 }
            match list steps true true none inner with
            | .error fault => throw fault
            | .ok (script, _) => goOn [.output place.isQuoted script] place
          else goOn (literal c) place

/-- Reads what follows a dollar sign. -/
def substitution : Nat → Place → Reading Word
  | 0, _ => return []
  | steps + 1, place => do
    let quoted := place.isQuoted
    match ← peek with
    | some '(' =>
      skip
      if ← skipIf '(' then
        return [.arithmetic quoted (← pieces steps (.expression 0))]
      else
        let script ← list steps true true none
        let token ← token steps asIs
        if token.isOperator ")" then return [.output quoted script]
        else unexpected token (some "\")\"")
    | some '\x7b' =>
      skip
      let (name, isLength) ← bracedName (← get).text.length
      match name, isLength with
      | none, _ => return [.parameter quoted "" .wrong (← pieces steps place.argument)]
      | some name, true =>
        let change := if (← peek) = some '\x7d' then Change.length else .wrong
        return [.parameter quoted name change (← pieces steps place.argument)]
      | some name, false =>
        let (change, isBare) ← change
        if change = .keep then return [.parameter quoted name .keep []]
        else
          let argument ← pieces steps (if isBare then .braces else place.argument)
          return [.parameter quoted name change argument]
    | some c =>
      if Word.isNameStart c then
        let name ← takeWhile Word.isNamePart (← get).text.length
        return [.parameter quoted (String.ofList name) .keep []]
      else if isSpecial c then
        skip
        return [.parameter quoted (String.ofList [c]) .keep []]
      else return [if quoted then .quoted "$" else .plain '$']
    | none => return [if quoted then .quoted "$" else .plain '$']

def rawToken : Nat → Reading Token
  | 0 => return .ending
  | steps + 1 => do
    let single (op : String) : Reading Token := do
      skip
      return .operator op
    let double (c : Char) : Reading Token := do
      skip
      let op := if ← skipIf c then [c, c] else [c]
      return .operator (String.ofList op)
    match ← peek with
    | none => return .ending
    | some ' ' =>
      skip
      rawToken steps
    | some '\t' =>
      skip
      rawToken steps
    | some '#' =>
      modify fun source => { source with text := source.text.dropWhile (· ≠ '\n') }
      rawToken steps
    | some '\n' => single "\n"
    | some '(' => single "("
    | some ')' => single ")"
    | some '&' => double '&'
    | some '|' => double '|'
    | some ';' => double ';'
    | some c =>
      if c = Source.mark then
        modify Source.afterMark
        rawToken steps
      else
        let word ← pieces steps .bare
        let digit? : Option (Option Nat) :=
          match word with
          | [] => some none
          | [.plain d] => if d.isDigit then some (some (d.toNat - 0x30)) else none
          | _ => none
        match digit?, ← peek with
        | some number, some '<' =>
          skip
          if ← skipIf '<' then
            if ← skipIf '-' then return .redirection number "<<-"
            else return .redirection number "<<"
          else if ← skipIf '&' then return .redirection number "<&"
          else if ← skipIf '>' then return .redirection number "<>"
          else return .redirection number "<"
        | some number, some '>' =>
          skip
          if ← skipIf '>' then return .redirection number ">>"
          else if ← skipIf '|' then return .redirection number ">|"
          else if ← skipIf '&' then return .redirection number ">&"
          else return .redirection number ">"
        | _, _ =>
          let isQuoted := word.any fun piece =>
            match piece with
            | .quoted _ => true
            | _ => false
          return .word word isQuoted

def token : Nat → Look → Reading Token
  | 0, _ => return .ending
  | steps + 1, look => do
    let pushed := (← get).pushed
    modify fun source => { source with pushed := none, aliasNext := false }
    let t ←
      match pushed with
      | some t => pure t
      | none => rawToken steps
    if look.overLines && t.isOperator "\n" then token steps look
    else
      let source ← get
      match t with
      | .word word _ =>
        match Word.literal? word with
        | none => return t
        | some text =>
          if look.forKeywords && Token.keywords.contains text then return .keyword text
          else if pushed.isNone && (look.forAliases || source.aliasNext) &&
              !source.active.contains text then
            match source.aliases.lookup text with
            | some value =>
              modify fun source => source.withAlias text value
              token steps look
            | none => return t
          else return t
      | _ => return t

def keyword : Nat → String → Reading Unit
  | 0, _ => return
  | steps + 1, text => do
    let t ← token steps asIs
    if t.isKeyword text then return
    else unexpected t (some s!"\"{text}\"")

def redirect : Nat → Option Nat → String → Reading Redirect
  | 0, _, op => return .mk 0 op []
  | steps + 1, number, op => do
    let standard := if op.toList.head? = some '<' then 0 else 1
    let descriptor := number.getD standard
    if op = "<<" || op = "<<-" then
      let _ ← takeWhile (fun c => c = ' ' || c = '\t') (← get).text.length
      match ← peek with
      | none => unexpected .ending none
      | some c =>
        if isBreak c then unexpected (← token steps asIs) none
        else
          let text := (← get).text
          let (mark, isQuoted, rest) := delimiter (text.length + 1) none text
          modify (Source.advancedBy (text.length - rest.length))
          let body ← takeDocument (op = "<<-") (!isQuoted) mark
          if isQuoted then return .mk descriptor "<<" [.quoted (String.ofList body)]
          else
            let source ← get
            let inner := { Source.ofScript source.aliases (String.ofList body) with
              line := source.line + 1 }
            match pieces steps .document inner with
            | .error fault => throw fault
            | .ok (target, _) => return .mk descriptor "<<" (.quoted "" :: target)
    else
      match ← token steps asIs with
      | .word target _ => return .mk descriptor op target
      | t => unexpected t none

def redirects : Nat → Look → Reading (List Redirect)
  | 0, _ => return []
  | steps + 1, look => do
    match ← token steps look with
    | .redirection number op =>
      let first ← redirect steps number op
      return first :: (← redirects steps asIs)
    | t =>
      push t
      return []

/-- Reads a list of commands after those in `first`. Within a command the list goes on from line to
line and ends in front of what closes it, which may be at once if `closes` says so; else it ends
with the line. -/
def list : Nat → Bool → Bool → Option Script → Reading (Option Script)
  | 0, _, _, first => return first
  | steps + 1, within, closes, first => do
    let t ← token steps ⟨within, true, true⟩
    if t.isOperator "\n" then return first
    else
      push t
      match t with
      | .ending => return first
      | _ =>
        if closes && t.closesList then return first
        else
          let second ← andOr steps
          let t ← token steps asIs
          let second := if t.isOperator "&" then .background second else second
          let all := some (after first second)
          if t.isOperator "&" || t.isOperator ";" then list steps within within all
          else
            push t
            match t with
            | .ending => list steps within within all
            | _ =>
              if t.isOperator "\n" then list steps within within all
              else if within then return all
              else unexpected t none

/-- Reads a list of commands that may not be empty. -/
def body : Nat → Reading Script
  | 0 => return .pipeline []
  | steps + 1 => do
    return (← list steps true false none).getD (.pipeline [])

def andOr : Nat → Reading Script
  | 0 => return .pipeline []
  | steps + 1 => do andOrFrom steps (← pipeline steps)

/-- Reads the pipelines that depend on what came before. -/
def andOrFrom : Nat → Script → Reading Script
  | 0, first => return first
  | steps + 1, first => do
    let t ← token steps asIs
    if t.isOperator "&&" || t.isOperator "||" then
      push (← token steps overLines)
      let second ← pipeline steps
      andOrFrom steps (if t.isOperator "&&" then .both first second else .either first second)
    else
      push t
      return first

def pipeline : Nat → Reading Script
  | 0 => return .pipeline []
  | steps + 1 => do
    let t ← token steps asIs
    let isNegated := t.isKeyword "!"
    if isNegated then push (← token steps atCommand) else push t
    let stages ← stages steps
    let whole :=
      match stages with
      | [stage] => stage
      | _ => .pipeline stages
    return if isNegated then .negation whole else whole

def stages : Nat → Reading (List Script)
  | 0 => return []
  | steps + 1 => do
    let first ← command steps
    let t ← token steps asIs
    if t.isOperator "|" then
      push (← token steps overLines)
      return first :: (← stages steps)
    else
      push t
      return [first]

def command : Nat → Reading Script
  | 0 => return .pipeline []
  | steps + 1 => do
    let line := (← get).line
    let t ← token steps asIs
    match t with
    | .word _ _ =>
      push t
      simple steps line [] [] []
    | .redirection _ _ =>
      push t
      simple steps line [] [] []
    | .keyword "if" =>
      let whole ← branch steps
      keyword steps "fi"
      return withRedirects line (← redirects steps atCommand) whole
    | .keyword "while" =>
      let whole ← loop steps true
      return withRedirects line (← redirects steps atCommand) whole
    | .keyword "until" =>
      let whole ← loop steps false
      return withRedirects line (← redirects steps atCommand) whole
    | .keyword "for" =>
      let whole ← each steps line
      return withRedirects line (← redirects steps atCommand) whole
    | .keyword "case" =>
      let whole ← choice steps line
      return withRedirects line (← redirects steps atCommand) whole
    | .keyword "\x7b" =>
      let whole ← body steps
      keyword steps "\x7d"
      return withRedirects line (← redirects steps atCommand) whole
    | .operator "(" =>
      let inner ← body steps
      let t ← token steps asIs
      if t.isOperator ")" then
        return .subshell line inner (← redirects steps atCommand)
      else unexpected t (some "\")\"")
    | _ => unexpected t none

/-- Reads the parts of a simple command that follow others, or the definition of a function. -/
def simple : Nat → Nat → List (String × Word) → List Word → List Redirect → Reading Script
  | 0, line, assignments, words, redirects =>
    return .simple line assignments words redirects
  | steps + 1, line, assignments, words, redirects => do
    let t ← token steps ⟨false, false, words.isEmpty⟩
    match t with
    | .word word _ =>
      match if words.isEmpty then Word.assignment? word else none with
      | some a => simple steps line (assignments ++ [a]) words redirects
      | none => simple steps line assignments (words ++ [word]) redirects
    | .redirection number op =>
      let r ← redirect steps number op
      simple steps line assignments words (redirects ++ [r])
    | _ =>
      match assignments, words, redirects with
      | [], [name], [] =>
        if t.isOperator "(" then
          let t ← token steps asIs
          if !t.isOperator ")" then unexpected t (some "\")\"")
          else
            match (Word.name? name).filter fun n => !specialCommands.contains n with
            | none => fail "Bad function name"
            | some name =>
              push (← token steps overLines)
              return .define name (← command steps)
        else
          push t
          return .simple line assignments words redirects
      | _, _, _ =>
        push t
        return .simple line assignments words redirects

/-- Reads what follows `if`, up to the word that ends it. -/
def branch : Nat → Reading Script
  | 0 => return .pipeline []
  | steps + 1 => do
    let condition ← body steps
    keyword steps "then"
    let thenBody ← body steps
    let t ← token steps asIs
    if t.isKeyword "elif" then return .branch condition thenBody (some (← branch steps))
    else if t.isKeyword "else" then return .branch condition thenBody (some (← body steps))
    else
      push t
      return .branch condition thenBody none

/-- Reads what follows `while` or `until`. -/
def loop : Nat → Bool → Reading Script
  | 0, _ => return .pipeline []
  | steps + 1, outcome => do
    let condition ← body steps
    keyword steps "do"
    let inner ← body steps
    keyword steps "done"
    return .loop outcome condition inner

/-- Reads what follows `for`. -/
def each : Nat → Nat → Reading Script
  | 0, _ => return .pipeline []
  | steps + 1, line => do
    let name? : Token → Option String
      | .word word _ => Word.name? word
      | _ => none
    match name? (← token steps asIs) with
    | none => fail "Bad for loop variable"
    | some name =>
      let t ← token steps overLines
      let list ←
        if t.isKeyword "in" then do
          let list ← words steps
          let t ← token steps asIs
          if t.isOperator "\n" || t.isOperator ";" then pure (some list)
          else unexpected t none
        else do
          if !t.isOperator ";" then push t
          pure none
      let t ← token steps overLines
      if t.isKeyword "do" then
        let inner ← body steps
        keyword steps "done"
        return .each line name list inner
      else unexpected t (some "\"do\"")

def words : Nat → Reading (List Word)
  | 0 => return []
  | steps + 1 => do
    match ← token steps asIs with
    | .word word _ => return word :: (← words steps)
    | t =>
      push t
      return []

/-- Reads what follows `case`. -/
def choice : Nat → Nat → Reading Script
  | 0, _ => return .pipeline []
  | steps + 1, line => do
    match ← token steps asIs with
    | .word word _ =>
      let t ← token steps overLines
      if t.isKeyword "in" then return .choice line word (← branches steps)
      else unexpected t (some "\"in\"")
    | t => unexpected t (some "word")

/-- Reads the branches of `case` and the word that ends them. -/
def branches : Nat → Reading (List (List Word × Option Script))
  | 0 => return []
  | steps + 1 => do
    let t ← token steps ⟨true, true, false⟩
    if t.isKeyword "esac" then return []
    else
      let t ← if t.isOperator "(" then token steps asIs else pure t
      let patterns ← patterns steps t
      let inner ← list steps true true none
      let t ← token steps ⟨true, true, false⟩
      if t.isKeyword "esac" then return [(patterns, inner)]
      else if t.isOperator ";;" then return (patterns, inner) :: (← branches steps)
      else unexpected t (some "\";;\"")

/-- Reads the patterns of a branch from a token on, up to the parenthesis after them. -/
def patterns : Nat → Token → Reading (List Word)
  | 0, _ => return []
  | steps + 1, first => do
    let pattern : Word :=
      match first with
      | .word word _ => word
      | .keyword text => text.toList.map .plain
      | _ => []
    let t ← token steps asIs
    if t.isOperator "|" then return pattern :: (← patterns steps (← token steps asIs))
    else if t.isOperator ")" then return [pattern]
    else unexpected t (some "\")\"")

end

def stepsFor (source : Source) : Nat :=
  20 * source.text.length + 100000

end Reading

namespace Script

/-- Reads the next command line: its commands, which may be none, and the rest of the script;
nothing at the end of the script. -/
def next (source : Source) : Except SyntaxFault (Option (Option Script × Source)) :=
  let source := { source with pushed := none }
  match Reading.list (Reading.stepsFor source) false false none source with
  | .error fault => .error fault
  | .ok (none, rest) =>
    match rest.pushed with
    | some .ending => .ok none
    | _ => .ok (some (none, rest))
  | .ok (some script, rest) => .ok (some (some script, rest))

/-- Reads a text in which values are put in as if it stood in double quotes. -/
def document (text : String) : Except SyntaxFault Word :=
  let source := Source.ofScript [] text
  (Reading.pieces (Reading.stepsFor source) .document source).map Prod.fst

end Script

end SlotServer.Shell
