/-!
# Settings of a shell

The settings that change how a shell works, with their names and letters. A setting is kept by its
letter; those without a letter are kept by one that cannot be given.
-/

namespace SlotServer.Shell.Setting

def hidden (c : Char) : Bool := c = '1' || c = '2'

def all : List (String × Char) :=
  [("errexit", 'e'), ("noglob", 'f'), ("ignoreeof", 'I'), ("interactive", 'i'), ("monitor", 'm'),
    ("noexec", 'n'), ("stdin", 's'), ("xtrace", 'x'), ("verbose", 'v'), ("vi", 'V'),
    ("emacs", 'E'), ("noclobber", 'C'), ("allexport", 'a'), ("notify", 'b'), ("nounset", 'u'),
    ("privileged", 'p'), ("nolog", '1'), ("debug", '2')]

def isKnown (letter : Char) : Bool :=
  !hidden letter && all.any fun (_, c) => c = letter

/-- The settings with one more of them or one less. Only one way to edit lines is kept. -/
def changed (settings : List Char) (letter : Char) (on : Bool) : List Char :=
  let excluded : Char := if letter = 'V' then 'E' else if letter = 'E' then 'V' else letter
  let others := settings.filter fun c => c ≠ letter
  if on then letter :: others.filter (fun c => c ≠ excluded) else others

/-- The letters of settings, in the order that they are shown in. -/
def letters (settings : List Char) : List Char :=
  (all.map Prod.snd).reverse.filter fun c => !hidden c && settings.contains c

def table (settings : List Char) : String :=
  let row (setting : String × Char) : String :=
    let gap := String.ofList (List.replicate (16 - setting.1.length) ' ')
    let state := if settings.contains setting.2 then "on" else "off"
    s!"{setting.1}{gap}{state}\n"
  "Current option settings\n" ++ String.join (all.map row)

/-- The settings, as commands that restore them. -/
def commands (settings : List Char) : String :=
  String.join (all.map fun (name, c) =>
    let sign := if settings.contains c then "-" else "+"
    s!"set {sign}o {name}\n")

end SlotServer.Shell.Setting
