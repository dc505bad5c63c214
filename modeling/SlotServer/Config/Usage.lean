import SlotServer.Config.CommandLine
import SlotServer.Text.Plain
import SlotServer.Text.Split

/-!
# Usage

What the user is told about the command line: the usage of the program, the help with every
setting, and the messages about arguments that give no configuration.
-/

namespace SlotServer.CommandLine

open Text (styled)

/-- The program's name, where its path does not give another one. -/
def programName : String := "cmdslotd"

def versionText : String := s!"{programName} 0.1.0\n"

/-- The last part of a path that names something, if the path ends in a name. -/
def fileName? (path : Bytes) : Option Bytes :=
  let slash : UInt8 := 0x2F
  let dot : UInt8 := 0x2E
  let parts := (Text.splitAt slash path).zipIdx.filter fun (part, i) =>
    !part.isEmpty && (i = 0 || part != [dot])
  match parts.getLast? with
  | some (part, _) => if part = [dot] ∨ part = [dot, dot] then none else some part
  | none => none

/-- The name of the program that its arguments begin with. -/
def programOf (arguments : List Bytes) : String :=
  ((arguments.head?.bind fileName?).bind Utf8.decodeString?).getD programName

def Item.shown : Item → String
  | setting s => s.shown
  | help => "--help"
  | version => "--version"

/-- An item as it is shown in a list, with its flag in a style. -/
def Item.listed : Item → String
  | setting s => s.listed
  | help => styled "--help"
  | version => styled "--version"

def usageOf (program : String) (items : List String) : String :=
  " ".intercalate ([styled "Usage:", styled program] ++ items)

/-- The usage of a program. Where items are given they are listed in the order in which they were
given; the port always comes last. -/
def usage (program : String) (given : List Item) : String :=
  if given.isEmpty then usageOf program ["[OPTIONS]", "[PORT]"]
  else
    let flags := given.eraseDups.filter fun item => item != .setting .port
    let port := if given.contains (.setting .port) then "<PORT>" else "[PORT]"
    usageOf program (flags.map Item.listed ++ [port])

/-- The usage of a program with an item that is not used with any setting. Where a setting is given
all of them are named, as one choice. -/
def usageAlone (program : String) (item : Item) (given : List Item) : String :=
  if given.isEmpty then usage program [item]
  else
    let name (setting : Setting) : String :=
      if setting = .port then setting.placeholder else setting.listed
    let choice := "|".intercalate (Setting.all.map name)
    usageOf program [item.listed, "<" ++ choice ++ ">"]

/-- What a setting is for, the value of its variable and its value by default. A line break in the
value is followed by blanks up to where the text begins. -/
def description (environment : Environment) (setting : Setting) : String :=
  let value := Utf8.decodeString ((environment.lookup setting.variableName).getD [])
  let value := "\n          ".intercalate ((Text.splitAt '\n' value.toList).map String.ofList)
  s!"{setting.purpose} [env: {setting.variableName}={value}] [default: {setting.defaultText}]"

def helpText (program : String) (environment : Environment) : String :=
  let line (setting : Setting) : String :=
    s!"      {setting.listed}\n          {description environment setting}\n"
  let flags (short : String) (long : Item) (purpose : String) : String :=
    s!"  {styled short}, {long.listed}\n          {purpose}\n"
  String.join
    (["Connection-slotted command server\n\n", usage program [], "\n\n", styled "Arguments:",
        s!"\n  {Setting.port.shown}  {description environment .port}\n\n", styled "Options:",
        "\n"] ++
      (Setting.all.erase .port).map line ++
      [flags "-h" .help "Print help", flags "-V" .version "Print version"])

namespace Refusal

/-- A text of the user or about the user's text, in quotation marks. -/
def quoted (text : String) : String :=
  s!"'{styled text}'"

/-- What helps with an argument that is unknown. -/
def tip (argument : String) (similar : Option Item) : String :=
  let advice :=
    match similar with
    | some item =>
      let flag := "--" ++ item.flag?.getD ""
      s!"a similar argument exists: {quoted flag}"
    | none =>
      let escaped := "-- " ++ argument
      s!"to pass {quoted argument} as a value, use {quoted escaped}"
  "\n\n  " ++ styled "tip:" ++ " " ++ advice

/-- What is wrong with the arguments, with the usage where that helps. -/
def body (program : String) : Refusal → String
  | help => ""
  | version => ""
  | notText => s!"invalid UTF-8 was detected in one or more arguments\n\n{usage program []}"
  | missingValue s => s!"a value is required for {quoted s.shown} but none was supplied"
  | badValue s value error =>
    s!"invalid value {quoted value} for {quoted s.shown}: {error.message}"
  | repeated s =>
    s!"the argument {quoted s.shown} cannot be used multiple times\n\n{usage program []}"
  | unwantedValue item value given =>
    s!"unexpected value {quoted value} for {quoted item.shown} found; no more were expected\n\n" ++
      usageAlone program item given
  | unknownLong name similar given =>
    let argument := "--" ++ name
    s!"unexpected argument {quoted argument} found{tip argument similar}\n\n" ++
      usage program (given ++ similar.toList)
  | unknownShort name =>
    let argument := "-" ++ name
    s!"unexpected argument {quoted argument} found{tip argument none}\n\n{usage program []}"
  | surplus argument =>
    s!"unexpected argument {quoted argument} found\n\n{usage program []}"

/-- Everything that the user is told instead of running the program. -/
def message (program : String) (environment : Environment) (refusal : Refusal) : String :=
  let text :=
    match refusal with
    | help => helpText program environment
    | version => versionText
    | _ =>
      String.join
        [styled "error:", " ", refusal.body program, "\n\nFor more information, try ",
          quoted "--help", ".\n"]
  String.ofList (Text.plain .outside text.toList)

/-- Whether the user got what was asked for. -/
def isAnswer : Refusal → Bool
  | help => true
  | version => true
  | _ => false

/-- The number with which the program ends. -/
def exitCode (refusal : Refusal) : Nat :=
  if refusal.isAnswer then 0 else 2

end Refusal

end SlotServer.CommandLine
