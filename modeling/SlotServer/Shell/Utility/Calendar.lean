import SlotServer.Text.Reader
import SlotServer.Text.Split

/-!
# Calendar

Times as seconds since the beginning of 1970, and the dates that they are: years, months and days,
hours, minutes and seconds.
-/

namespace SlotServer.Shell.Utility.Calendar

/-- A date with a time of day. -/
structure Date where
  year : Int
  month : Nat
  day : Nat
  hour : Nat
  minute : Nat
  second : Nat
  deriving DecidableEq, Repr

def daysOf (year : Int) (month day : Nat) : Int :=
  let y := if month ≤ 2 then year - 1 else year
  let era := y.fdiv 400
  let yearOfEra := y - era * 400
  let shifted : Nat := (month + 9) % 12
  let dayOfYear : Int := ((153 * shifted + 2) / 5 + day : Nat) - 1
  era * 146097 + yearOfEra * 365 + yearOfEra / 4 - yearOfEra / 100 + dayOfYear - 719468

def seconds (d : Date) : Int :=
  daysOf d.year d.month d.day * 86400 + (d.hour * 3600 + d.minute * 60 + d.second : Nat)

def ofSeconds (n : Int) : Date :=
  let days := n.fdiv 86400
  let rest := (n - days * 86400).toNat
  let z := days + 719468
  let era := z.fdiv 146097
  let dayOfEra := (z - era * 146097).toNat
  let yearOfEra := (dayOfEra - dayOfEra / 1460 + dayOfEra / 36524 - dayOfEra / 146096) / 365
  let dayOfYear := dayOfEra - (365 * yearOfEra + yearOfEra / 4 - yearOfEra / 100)
  let shifted := (5 * dayOfYear + 2) / 153
  let month := if shifted < 10 then shifted + 3 else shifted - 9
  let year : Int := (yearOfEra : Int) + era * 400 + (if month ≤ 2 then 1 else 0)
  ⟨year, month, dayOfYear - (153 * shifted + 2) / 5 + 1, rest / 3600, rest % 3600 / 60, rest % 60⟩

/-- The day of the week, zero for Sunday. -/
def weekday (d : Date) : Nat := ((daysOf d.year d.month d.day + 4) % 7).toNat

def dayOfYear (d : Date) : Nat :=
  (daysOf d.year d.month d.day - daysOf d.year 1 1 + 1).toNat

/-- The year and the week that a day belongs to, where weeks begin on Mondays and the first week has
the first Thursday. -/
def week (d : Date) : Int × Nat :=
  let days := daysOf d.year d.month d.day
  let thursday := days - (days + 3) % 7 + 3
  let year := (ofSeconds (thursday * 86400)).year
  (year, ((thursday - daysOf year 1 1) / 7 + 1).toNat)

def months : List String :=
  ["January", "February", "March", "April", "May", "June", "July", "August", "September",
    "October", "November", "December"]

def weekdays : List String :=
  ["Sunday", "Monday", "Tuesday", "Wednesday", "Thursday", "Friday", "Saturday"]

def daysIn (year : Int) (month : Nat) : Nat :=
  let next := if month = 12 then daysOf (year + 1) 1 1 else daysOf year (month + 1) 1
  (next - daysOf year month 1).toNat

def date? (year : Int) (month day hour minute second : Nat) : Option Date :=
  if 1 ≤ month && month ≤ 12 && 1 ≤ day && day ≤ daysIn year month && hour < 24 && minute < 60 &&
      second < 60 then
    some ⟨year, month, day, hour, minute, second⟩
  else none

/-- The number that digits alone make up. -/
def number? (text : List Char) : Option Nat :=
  match Text.digits 10 text with
  | (d :: ds, []) => some (Text.ofDigits 10 (d :: ds))
  | _ => none

/-- A time of day: hours, minutes and perhaps seconds. -/
def clock? (text : List Char) : Option (Nat × Nat × Nat) := do
  match Text.splitAt ':' text with
  | [h, m] => some (← number? h, ← number? m, 0)
  | [h, m, s] =>
    let whole := s.takeWhile Char.isDigit
    some (← number? h, ← number? m, ← number? whole)
  | _ => none

def unit? (word : String) : Option Nat :=
  let bare := if word.endsWith "s" then (word.dropEnd 1).copy else word
  match bare with
  | "second" => some 1
  | "sec" => some 1
  | "minute" => some 60
  | "min" => some 60
  | "hour" => some 3600
  | "day" => some 86400
  | "week" => some 604800
  | "fortnight" => some 1209600
  | _ => none

/-- The time that is so many units away, as the words of a text say, and the words after them. -/
def distance? (word : String) (rest : List String) : Option (Int × List String) := do
  let sign := word.toList.headD '+'
  let digits := if sign = '+' || sign = '-' then word.toList.drop 1 else word.toList
  let size ← unit? (← rest.head?)
  let amount : Int := (← number? digits) * size
  let isAgo := rest[1]? = some "ago"
  let isBack := (sign = '-') != isAgo
  some (if isBack then -amount else amount, rest.drop (if isAgo then 2 else 1))

/-- The time that a date with perhaps a time of day says. -/
def written? (text : List Char) : Option Int :=
  match Text.splitAt '-' text with
  | [y, m, d] => do
    let parts := Text.splitAt 'T' d
    let clock := (parts.getD 1 []).filter (· ≠ 'Z')
    let (h, mi, s) ← if clock.isEmpty then some (0, 0, 0) else clock? clock
    let date ← date? (← number? y) (← number? m) (← number? (parts.headD [])) h mi s
    some (seconds date)
  | _ => none

/-- The time after one word of a text, and the words that are left. -/
def afterWord? (now : Int) (word : String) (rest : List String) : Option (Int × List String) :=
  match word, rest with
  | "now", rest => some (now, rest)
  | "today", rest => some (now, rest)
  | "yesterday", rest => some (now - 86400, rest)
  | "tomorrow", rest => some (now + 86400, rest)
  | "UTC", rest => some (now, rest)
  | "Z", rest => some (now, rest)
  | "next", unit :: rest => do some (now + (← unit? unit), rest)
  | "last", unit :: rest => do some (now - (← unit? unit), rest)
  | word, rest =>
    match word.toList with
    | '@' :: '-' :: digits => do some (-(← number? digits : Int), rest)
    | '@' :: digits => do some ((← number? digits : Int), rest)
    | text =>
      match written? text, clock? (text.filter (· ≠ 'Z')) with
      | some time, _ => some (time, rest)
      | none, some (h, m, s) =>
        if h < 24 && m < 60 && s < 60 then
          some (now - now % 86400 + (h * 3600 + m * 60 + s : Nat), rest)
        else none
      | none, none => (distance? word rest).map fun (by_, rest) => (now + by_, rest)

/-- The time that the words of a text say, given the time now; `steps` is at least their number. -/
def ofWords : Nat → Int → List String → Option Int
  | 0, now, words => if words.isEmpty then some now else none
  | _ + 1, now, [] => some now
  | steps + 1, now, word :: rest => do
    let (now, rest) ← afterWord? now word rest
    ofWords steps now rest

def ofText? (now : Nat) (text : String) : Option Nat :=
  let words := (Text.splitAt ' ' text.toList).filter fun w => !w.isEmpty
  match ofWords words.length now (words.map String.ofList) with
  | some n => if n < 0 then some 0 else some n.toNat
  | none => if text.length = 1 then some now else none

/-- The time that a stamp of digits says: perhaps a year, then month, day, hour and minute, and
perhaps seconds after a point. -/
def ofStamp? (now : Nat) (text : String) : Option Nat := do
  let (digits, second) ←
    match Text.splitAt '.' text.toList with
    | [digits] => some (digits, 0)
    | [digits, s] => if s.length = 2 then (number? s).map fun s => (digits, s) else none
    | _ => none
  let _ ← number? digits
  let pair (i : Nat) : Nat := (number? ((digits.drop i).take 2)).getD 0
  let thisYear := (ofSeconds now).year
  let (year, i) ←
    match digits.length with
    | 8 => some (thisYear, 0)
    | 10 =>
      let y : Int := pair 0
      some (if y < 69 then 2000 + y else 1900 + y, 2)
    | 12 => some ((100 * pair 0 + pair 2 : Nat), 4)
    | _ => none
  let date ← date? year (pair i) (pair (i + 2)) (pair (i + 4)) (pair (i + 6)) second
  some (seconds date).toNat

end SlotServer.Shell.Utility.Calendar
