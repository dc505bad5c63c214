import SlotServer.Shell.Builtin.Basic
import SlotServer.Shell.Condition
import SlotServer.Shell.Format

/-!
# Texts and tests

The commands of the shell that write texts, and those that decide something.
-/

namespace SlotServer.Shell.Builtin

/-- Writes its arguments with blanks between them. -/
def echo : Builtin := fun args => do
  let silent := args.head? == some (Utf8.encodeString "-n")
  let text := [(0x20 : UInt8)].intercalate (if silent then args.drop 1 else args)
  let (output, stopped) := Format.unescape false (text.length + 1) text
  emit (output ++ if silent || stopped then [] else [0x0A])
  finish 0

def complaintText : Format.Complaint → String
  | .notNumeric argument => s!"{argument}: expected numeric value"
  | .incomplete argument => s!"{argument}: not completely converted"
  | .outOfRange argument => s!"{argument}: Numerical result out of range"

def defectText : Format.Defect → String
  | .unknownDirective source => s!"{source}: invalid directive"
  | .noLetter => "missing format character"

def printf : Builtin := fun args => do
  let (_, args) ← options "" args
  match args with
  | [] => Action.fail "usage: printf format [arg ...]"
  | format :: args =>
    let written := Format.write format args
    for complaint in written.complaints do Action.report (complaintText complaint)
    emit written.bytes
    match written.defect with
    | some defect => Action.fail (defectText defect)
    | none => finish (if written.complaints.isEmpty then 0 else 1)

def decideCondition (args : List Bytes) : Action Flow := do
  match Condition.holds (← get).disk (texts args) with
  | .ok b => finish (if b then 0 else 1)
  | .error message => Action.fail message

def bracket : Builtin := fun args => do
  if args.getLast? == some [byteOf ']'] then decideCondition args.dropLast
  else Action.fail "missing ]"

/-- How long the shell and its programs have run. -/
def times : Builtin := fun _ => do
  emitText "0m0.000000s 0m0.000000s\n0m0.000000s 0m0.000000s\n"
  finish 0

/-- The resources that can be limited, with the letters of their options. -/
def resources : List (Char × String) :=
  [('t', "time(seconds)"), ('f', "file(blocks)"), ('d', "data(kbytes)"), ('s', "stack(kbytes)"),
    ('c', "coredump(blocks)"), ('m', "memory(kbytes)"), ('l', "locked memory(kbytes)"),
    ('p', "process"), ('n', "nofiles"), ('v', "vmemory(kbytes)"), ('w', "locks"),
    ('r', "rtprio")]

/-- Shows a limit. Limits that are set have no effect. -/
def ulimit : Builtin := fun args => do
  let (letters, rest) ← options "HSatfdscmlpnvwr" args
  let shown (c : Char) : String :=
    match c with
    | 's' => "8192"
    | 'c' => "0"
    | 'n' => "1048576"
    | 'r' => "0"
    | _ => "unlimited"
  match texts rest with
  | [] =>
    if letters.contains 'a' then
      for (c, name) in resources do
        let gap := String.ofList (List.replicate (20 - name.length) ' ')
        emitText s!"{name}{gap} {shown c}\n"
    else
      let letter := (letters.filter fun c => c ≠ 'H' && c ≠ 'S').getLast?.getD 'f'
      emitText s!"{shown letter}\n"
    finish 0
  | [value] =>
    if value = "unlimited" || (!value.isEmpty && value.all Char.isDigit) then finish 0
    else Action.fail "bad number"
  | _ => Action.fail "too many arguments"

end SlotServer.Shell.Builtin
