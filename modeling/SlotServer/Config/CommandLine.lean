import SlotServer.Config.Setting
import SlotServer.Text.Similarity
import SlotServer.Text.Utf8

/-!
# The command line

Reading a configuration from arguments and the variables of the environment. An argument is
preferred to a variable, and a variable to the value by default; a variable that is overridden is
not looked at. Arguments are read from the left and the first error counts. A value that stands in
an argument of its own waits for the next argument before it is looked at, so that an argument that
is unknown is reported before the value in front of it.
-/

namespace SlotServer

abbrev Environment := List (String × Bytes)

namespace CommandLine

/-- What an argument can be about. -/
inductive Item where
  | setting (setting : Setting)
  | help
  | version
  deriving DecidableEq, Repr

def Item.all : List Item :=
  Setting.all.map setting ++ [help, version]

def Item.flag? : Item → Option String
  | setting s => s.flag?
  | help => some "help"
  | version => some "version"

def Item.ofFlag? (name : String) : Option Item :=
  Item.all.find? fun item => item.flag? == some name

def Item.similar? (name : String) : Option Item :=
  let candidate (item : Item) : Option (List Char × Item) :=
    item.flag?.map fun flag => (flag.toList, item)
  Text.mostSimilar? name.toList (Item.all.filterMap candidate)

/-- Why the arguments give no configuration. -/
inductive Refusal where
  | help
  | version
  /-- A value is not valid text. -/
  | notText
  | missingValue (setting : Setting)
  | badValue (setting : Setting) (value : String) (error : ValueError)
  /-- A flag is given twice. -/
  | repeated (setting : Setting)
  /-- A flag that takes no value is given one; with the items that were given before. -/
  | unwantedValue (item : Item) (value : String) (given : List Item)
  /-- A long flag that there is not; with the items that were given before. -/
  | unknownLong (name : String) (similar : Option Item) (given : List Item)
  | unknownShort (name : String)
  | surplus (argument : String)
  deriving DecidableEq, Repr

/-- How far the arguments have been read. -/
structure Progress where
  config : Config
  /-- The settings that have been given a value, the first one first. -/
  given : List Setting
  /-- A setting whose value has not been looked at yet, or has not been read yet. -/
  waiting : Option (Setting × Option Bytes)
  /-- Whether all arguments from here on are values. -/
  flagsEnded : Bool
  deriving DecidableEq, Repr

namespace Progress

def start : Progress := ⟨Config.default, [], none, false⟩

def take (progress : Progress) (setting : Setting) (value : Bytes) : Except Refusal Progress :=
  if progress.given.contains setting then .error (.repeated setting)
  else
    match Utf8.decodeString? value with
    | none => .error .notText
    | some text =>
      match progress.config.set setting text with
      | .error error => .error (.badValue setting text error)
      | .ok config => .ok { progress with config, given := progress.given ++ [setting] }

/-- Looks at the value that waits. -/
def settle (progress : Progress) : Except Refusal Progress :=
  match progress.waiting with
  | none => .ok progress
  | some (setting, none) => .error (.missingValue setting)
  | some (setting, some value) => { progress with waiting := none }.take setting value

/-- The settings that count as given when an unknown flag is met, whether or not the value that
waits is one. -/
def named (progress : Progress) : List Item :=
  let settings :=
    match progress.waiting with
    | some (setting, some _) =>
      if progress.given.contains setting then progress.given.erase setting
      else progress.given ++ [setting]
    | _ => progress.given
  settings.map .setting

def hasPort (progress : Progress) : Bool :=
  progress.given.contains .port || (progress.waiting.map Prod.fst) == some .port

def plainArgument (progress : Progress) (argument : Bytes) : Except Refusal Progress :=
  if progress.hasPort then .error (.surplus (Utf8.decodeString argument))
  else do
    let progress ← progress.settle
    return { progress with waiting := some (.port, some argument) }

def valueArgument (progress : Progress) (argument : Bytes) : Except Refusal Progress :=
  match progress.waiting with
  | some (setting, none) => .ok { progress with waiting := some (setting, some argument) }
  | _ => progress.plainArgument argument

/-- Reads a flag by its name, with a value if there is one in the same argument. -/
def longFlag (progress : Progress) (name : Bytes) (value : Option Bytes) :
    Except Refusal Progress :=
  let unknown (name : String) :=
    Refusal.unknownLong name (Item.similar? name) progress.named
  match Utf8.decodeString? name with
  | none => .error (unknown (Utf8.decodeString name))
  | some name =>
    match Item.ofFlag? name, value with
    | none, _ => .error (unknown name)
    | some (.setting setting), some value => do (← progress.settle).take setting value
    | some (.setting setting), none => do
      return { ← progress.settle with waiting := some (setting, none) }
    | some item, some value =>
      let given := progress.given.map Item.setting
      .error (.unwantedValue item (Utf8.decodeString value) given)
    | some .help, none => do
      let _ ← progress.settle
      throw .help
    | some .version, none => do
      let _ ← progress.settle
      throw .version

/-- Reads short flags. All that there are end the reading, so only the first one counts; one that is
no text is reported with everything after it. -/
def shortFlag (progress : Progress) (flags : Bytes) : Except Refusal Progress :=
  let text := Utf8.decodeString flags
  let first := String.ofList (text.toList.take 1)
  if first = "h" then do
    let _ ← progress.settle
    throw .help
  else if first = "V" then do
    let _ ← progress.settle
    throw .version
  else if (Utf8.encodeString first).isPrefixOf flags then .error (.unknownShort first)
  else .error (.unknownShort text)

def hyphen : UInt8 := 0x2D

def equalsSign : UInt8 := 0x3D

def argument (progress : Progress) (argument : Bytes) : Except Refusal Progress :=
  if progress.flagsEnded then progress.plainArgument argument
  else
    match argument with
    | a :: b :: body =>
      if a = hyphen ∧ b = hyphen then
        if body.isEmpty then .ok { progress with flagsEnded := true }
        else
          let name := body.takeWhile (· ≠ equalsSign)
          progress.longFlag name ((body.drop name.length).tail?)
      else if a = hyphen then progress.shortFlag (b :: body)
      else progress.valueArgument argument
    | _ => progress.valueArgument argument

/-- Takes the settings that are not given from the environment, in their order. -/
def fromEnvironment (progress : Progress) (environment : Environment) :
    List Setting → Except Refusal Progress
  | [] => .ok progress
  | setting :: rest =>
    if progress.given.contains setting then progress.fromEnvironment environment rest
    else
      match environment.lookup setting.variableName with
      | none => progress.fromEnvironment environment rest
      | some value => do (← progress.take setting value).fromEnvironment environment rest

end Progress

end CommandLine

open CommandLine in
/-- The configuration that arguments and an environment give. The first argument is the name of the
program. -/
def Config.load (arguments : List Bytes) (environment : Environment) : Except Refusal Config := do
  let progress ← arguments.tail.foldlM Progress.argument Progress.start
  let progress ← progress.settle
  return (← progress.fromEnvironment environment Setting.all).config

end SlotServer
