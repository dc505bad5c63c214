import SlotServer.Shell.Utility.Calendar
import SlotServer.Shell.Utility.Making
import SlotServer.Shell.Utility.Running

/-!
# Utilities that tell about the machine

Programs that say who works on the machine, what it is, what time it is, and where programs are.
-/

namespace SlotServer.Shell.Utility

open Work

/-! ## Users -/

def user : String := "root"

/-- The numbers of the accounts that have names, as users. -/
def userNumbers : List (String × Nat) :=
  [("root", 0), ("daemon", 1), ("bin", 2), ("sys", 3), ("sync", 4), ("games", 5), ("man", 6),
    ("lp", 7), ("mail", 8), ("news", 9), ("uucp", 10), ("proxy", 13), ("www-data", 33),
    ("backup", 34), ("list", 38), ("irc", 39), ("nobody", 65534)]

def groupOf (name : String) (number : Nat) : String × Nat :=
  if name = "nobody" then ("nogroup", number)
  else if name = "sync" then ("nogroup", 65534)
  else if name = "games" then ("games", 60)
  else if name = "man" then ("man", 12)
  else (name, number)

def id : Program := fun args => do
  let table : OptionTable :=
    { letters := "agGnruzZ"
      names := [("context", "Z"), ("group", "g"), ("groups", "G"), ("name", "n"), ("real", "r"),
        ("user", "u"), ("zero", "z")] }
  let o ← options table args
  let kinds := ["u", "g", "G"].filter o.has
  if 1 < kinds.length then fail "cannot print \"only\" of more than one choice"
  if kinds.isEmpty && o.hasAny ["n", "r"] then
    fail "printing only names or real IDs requires -u, -g, or -G"
  if kinds.isEmpty && o.has "z" then fail "option --zero not permitted in default format"
  let end_ := if o.has "z" then "\x00" else "\n"
  for name in if o.operands.isEmpty then [user] else o.operands do
    let found := userNumbers.find? fun (n, number) => n = name || toString number = name
    match found with
    | none => complain s!"{Quoting.always name}: no such user"
    | some (name, number) =>
      let (group, groupNumber) := groupOf name number
      match kinds.head? with
      | none =>
        let shown := s!"{groupNumber}({group})"
        putText s!"uid={number}({name}) gid={shown} groups={shown}{end_}"
      | some "u" => putText ((if o.has "n" then name else toString number) ++ end_)
      | some _ => putText ((if o.has "n" then group else toString groupNumber) ++ end_)

def whoami : Program := fun args => do
  let o ← options { letters := "" } args
  match o.operands with
  | [] => putLine user
  | extra :: _ => misuse s!"extra operand {Quoting.always extra}"

def groups : Program := fun args => do
  let o ← options { letters := "" } args
  if o.operands.isEmpty then putLine user
  for name in o.operands do
    match userNumbers.lookup name with
    | some number => putLine s!"{name} : {(groupOf name number).1}"
    | none => complain s!"{Quoting.always name}: no such user"

/-- Looks for the name that somebody logged in with, but nobody did. -/
def logname : Program := fun args => do
  let o ← options { letters := "" } args
  match o.operands with
  | [] => fail "no login name"
  | extra :: _ => misuse s!"extra operand {Quoting.always extra}"

def users : Program := fun args => do
  let _ ← options { letters := "abdHlmpqrstTuw" } args

/-- Says what terminal the standard input is: none. -/
def tty : Program := fun args => do
  let o ← options { letters := "s", names := [("silent", "s"), ("quiet", "s")] } args 2
  match o.operands with
  | extra :: _ => misuse s!"extra operand {Quoting.always extra}" 2
  | [] =>
    if !o.has "s" then putLine "not a tty"
    raise 1

/-! ## The machine -/

/-- What is known about the machine, by the letters of options. -/
def machineFacts : List (String × String) :=
  [("s", "Linux"), ("n", "localhost"), ("r", "6.1.0"), ("v", "#1 SMP"), ("m", "x86_64"),
    ("p", "x86_64"), ("i", "x86_64"), ("o", "GNU/Linux")]

def uname : Program := fun args => do
  let table : OptionTable :=
    { letters := "asnrvmpio"
      names := [("all", "a"), ("kernel-name", "s"), ("sysname", "s"), ("nodename", "n"),
        ("kernel-release", "r"), ("release", "r"), ("kernel-version", "v"), ("machine", "m"),
        ("processor", "p"), ("hardware-platform", "i"), ("operating-system", "o")] }
  let o ← options table args
  match o.operands with
  | extra :: _ => misuse s!"extra operand {Quoting.always extra}"
  | [] =>
    let shown := machineFacts.filter fun (letter, _) =>
      o.has "a" || o.has letter || o.given.isEmpty && letter = "s"
    putLine (" ".intercalate (shown.map Prod.snd))

def arch : Program := fun args => do
  let o ← options { letters := "" } args
  match o.operands with
  | [] => putLine "x86_64"
  | extra :: _ => misuse s!"extra operand {Quoting.always extra}"

def hostname : Program := fun args => do
  let _ ← options { letters := "adfiIsyA" } args
  putLine "localhost"

def nproc : Program := fun args => do
  let o ← options { letters := "", names := [("all", "all"), ("ignore=", "ignore")] } args
  match o.operands with
  | [] => putLine "1"
  | extra :: _ => misuse s!"extra operand {Quoting.always extra}"

/-- Makes sure that what was written stays written. -/
def sync : Program := fun args => do
  let o ← options { letters := "df", names := [("data", "d"), ("file-system", "f")] } args
  if o.operands.isEmpty && o.has "d" then misuse "--data needs at least one argument"
  for path in o.operands do
    match ← lookUp? path with
    | .ok _ => pure ()
    | .error error => complain s!"error opening {Quoting.always path}: {error.description}"

def which : Program := fun args => do
  let o ← options { letters := "as" } args 2
  let p ← get
  let directories := (Text.splitAt ':' ((p.environment.lookup "PATH").getD "").toList).map
    String.ofList
  let isFound (path : String) : Bool :=
    match p.disk.resolve path with
    | .error _ => false
    | .ok target =>
      match p.disk.node? target.place with
      | some (.file number) => (p.disk.file? number).any fun f => f.mode &&& 0o111 ≠ 0
      | _ => false
  if o.operands.isEmpty then raise 1
  for name in o.operands do
    let candidates := if name.toList.contains '/' then [name]
      else directories.map fun d => inDirectory (if d.isEmpty then "." else d) name
    let found := candidates.filter isFound
    if found.isEmpty then raise 1
    if !o.has "s" then
      for path in if o.has "a" then found else found.take 1 do putLine path

/-! ## The time -/

/-- A number with something in front of it up to a width; nothing if there is no mark. -/
def filled (mark : Option Char) (width : Nat) (text : String) : String :=
  match mark with
  | some c => String.ofList (List.replicate (width - text.length) c) ++ text
  | none => text

/-- What a letter after a percent sign stands for. `mark` is what stands in front of numbers, if
that is not the usual thing; so is `width`. -/
def dateField (time : Int) (d : Calendar.Date) (letter : Char) (mark : Option (Option Char))
    (width : Nat) : Option String :=
  let number (usual : Char) (places n : Nat) : String :=
    filled (mark.getD (some usual)) (max places width) (toString n)
  let zeros (places n : Nat) : String := number '0' places n
  let blanks (places n : Nat) : String := number ' ' places n
  let short (name : String) : String := String.ofList (name.toList.take 3)
  let word (text : String) : String := filled (mark.getD (some ' ')) width text
  let year := d.year.toNat
  let weekday := Calendar.weekday d
  let dayOfYear := Calendar.dayOfYear d
  let month := Calendar.months.getD (d.month - 1) ""
  let hour12 := (d.hour + 11) % 12 + 1
  let two (n : Nat) : String := filled (some '0') 2 (toString n)
  let half := if d.hour < 12 then "AM" else "PM"
  let clock := s!"{two d.hour}:{two d.minute}:{two d.second}"
  let (weekYear, week) := Calendar.week d
  match letter with
  | 'a' => some (word (short (Calendar.weekdays.getD weekday "")))
  | 'A' => some (word (Calendar.weekdays.getD weekday ""))
  | 'b' => some (word (short month))
  | 'h' => some (word (short month))
  | 'B' => some (word month)
  | 'c' =>
    let name := short (Calendar.weekdays.getD weekday "")
    some (word (s!"{name} {short month} {padLeft 2 (toString d.day)} {clock} {year}"))
  | 'C' => some (zeros 2 (year / 100))
  | 'd' => some (zeros 2 d.day)
  | 'D' => some (word s!"{two d.month}/{two d.day}/{two (year % 100)}")
  | 'e' => some (blanks 2 d.day)
  | 'F' => some (word s!"{year}-{two d.month}-{two d.day}")
  | 'g' => some (zeros 2 (weekYear.toNat % 100))
  | 'G' => some (zeros 4 weekYear.toNat)
  | 'H' => some (zeros 2 d.hour)
  | 'I' => some (zeros 2 hour12)
  | 'j' => some (zeros 3 dayOfYear)
  | 'k' => some (blanks 2 d.hour)
  | 'l' => some (blanks 2 hour12)
  | 'm' => some (zeros 2 d.month)
  | 'M' => some (zeros 2 d.minute)
  | 'n' => some "\n"
  | 'N' =>
    let places := if width = 0 then 9 else width
    some (String.ofList (List.replicate places '0'))
  | 'p' => some (word half)
  | 'P' => some (word half.toLower)
  | 'q' => some (zeros 1 ((d.month - 1) / 3 + 1))
  | 'r' => some (word s!"{two hour12}:{two d.minute}:{two d.second} {half}")
  | 'R' => some (word s!"{two d.hour}:{two d.minute}")
  | 's' => some (if time < 0 then toString time else zeros 1 time.toNat)
  | 'S' => some (zeros 2 d.second)
  | 't' => some "\t"
  | 'T' => some (word clock)
  | 'X' => some (word clock)
  | 'u' => some (zeros 1 (if weekday = 0 then 7 else weekday))
  | 'U' => some (zeros 2 ((dayOfYear + 6 - weekday) / 7))
  | 'V' => some (zeros 2 week)
  | 'w' => some (zeros 1 weekday)
  | 'W' => some (zeros 2 ((dayOfYear + 6 - (weekday + 6) % 7) / 7))
  | 'x' => some (word s!"{two d.month}/{two d.day}/{two (year % 100)}")
  | 'y' => some (zeros 2 (year % 100))
  | 'Y' => some (zeros 4 year)
  | 'z' => some "+0000"
  | 'Z' => some (word "UTC")
  | _ => none

/-- A time written as a format says. -/
def dated (time : Int) : Nat → List Char → List Char
  | 0, _ => []
  | _ + 1, [] => []
  | steps + 1, '%' :: rest =>
    let flags := rest.takeWhile fun c => "_-0^#+".toList.contains c
    let afterFlags := rest.drop flags.length
    let digits := afterFlags.takeWhile Char.isDigit
    let afterWidth := afterFlags.drop digits.length
    let colons := afterWidth.takeWhile (· = ':')
    let afterColons := afterWidth.drop colons.length
    let afterMark := match afterColons with
      | 'E' :: more => if more.isEmpty then afterColons else more
      | 'O' :: more => if more.isEmpty then afterColons else more
      | _ => afterColons
    let mark : Option (Option Char) :=
      flags.foldl (fun found c =>
        match c with
        | '_' => some (some ' ')
        | '-' => some none
        | '0' => some (some '0')
        | _ => found) none
    match afterMark with
    | [] => '%' :: rest
    | '%' :: more => '%' :: dated time steps more
    | c :: more =>
      let width := Text.ofDigits 10 (Text.digits 10 digits).1
      let shown : Option String :=
        if c = 'z' && !colons.isEmpty then
          some (match colons.length with
            | 1 => "+00:00"
            | 2 => "+00:00:00"
            | _ => "+00")
        else if !colons.isEmpty then none
        else dateField time (Calendar.ofSeconds time) c mark width
      match shown with
      | some text =>
        let text := if flags.contains '^' then text.map Char.toUpper
          else if flags.contains '#' then
            (if c = 'Z' || c = 'p' then text.map Char.toLower else text.map Char.toUpper)
          else text
        text.toList ++ dated time steps more
      | none => '%' :: (flags ++ digits ++ colons ++ [c]) ++ dated time steps more
  | steps + 1, c :: rest => c :: dated time steps rest

/-- The formats of standards for dates and times, by how much they show. -/
def standardFormats : List (String × String) :=
  [("date", "%F"), ("hours", "%FT%H+00:00"), ("minutes", "%FT%R+00:00"),
    ("seconds", "%FT%T+00:00"), ("ns", "%FT%T,%N+00:00")]

def date : Program := fun args => do
  let table : OptionTable :=
    { letters := "d:f:I::r:Rs:u"
      names := [("date=", "d"), ("debug", "debug"), ("file=", "f"), ("iso-8601=?", "I"),
        ("reference=", "r"), ("rfc-email", "R"), ("rfc-822", "R"), ("rfc-2822", "R"),
        ("rfc-3339=", "3339"), ("set=", "s"), ("uct", "u"), ("utc", "u"), ("universal", "u"),
        ("resolution", "resolution")] }
  let o ← options table args
  let now := (← disk).time
  let formats := o.operands.filter fun a => a.startsWith "+"
  match formats.length, o.operands with
  | n, _ :: extra :: _ =>
    if 1 < n then fail "multiple output formats specified"
    misuse s!"extra operand {Quoting.literal extra}"
  | 0, text :: _ => fail s!"invalid date {Quoting.literal text}"
  | _, _ => pure ()
  let format :=
    match o.last? ["I", "R", "3339"], formats with
    | _, format :: _ => (format.drop 1).copy
    | some "I", _ =>
      let value := (o.value? "I").getD ""
      let found := standardFormats.find? fun (known : String × String) => known.1.startsWith value
      (found.map Prod.snd).getD "%F"
    | some "R", _ => "%a, %d %b %Y %T +0000"
    | some _, _ =>
      let value := (o.value? "3339").getD ""
      if value.startsWith "s" then "%F %T+00:00"
      else if value.startsWith "n" then "%F %T.%N+00:00" else "%F"
    | none, [] => "%a %b %e %T UTC %Y"
  let write (time : Int) : Work Unit :=
    putLine (String.ofList (dated time (format.length + 1) format.toList))
  let writeText (text : String) : Work Unit := do
    match Calendar.ofText? now text with
    | some time => write time
    | none => complain s!"invalid date {Quoting.literal text}"
  match o.last? ["d", "f", "r", "s"] with
  | some "f" =>
    let file := (o.value? "f").getD ""
    match ← readOrComplain? file with
    | some bytes => for line in lines bytes do writeText (textOf (bare line))
    | none => pure ()
  | some "r" =>
    let path := (o.value? "r").getD ""
    match ← lookUp? path with
    | .ok (_, .file number) =>
      let disk ← disk
      write (((disk.file? number).map DiskFile.time).getD now)
    | .ok _ => write now
    | .error error => complain s!"{Quoting.ifNeeded path}: {error.description}"
  | some option => writeText ((o.value? option).getD "")
  | none => write now

end SlotServer.Shell.Utility
