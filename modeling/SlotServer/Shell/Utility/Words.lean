import SlotServer.Shell.Format
import SlotServer.Shell.Utility.Paths

/-!
# Utilities that write words

Programs that write their arguments, parts of paths, or a line again and again, and those that only
have a status.
-/

namespace SlotServer.Shell.Utility

open Pattern (code)
open Work

def only (status : Nat) : Program := fun _ => raise status

/-- Writes its arguments with blanks between them. -/
def echo : Program := fun args => do
  let isOption (a : String) : Bool :=
    match a.toList with
    | '-' :: c :: more => (c :: more).all "neE".toList.contains
    | _ => false
  let flags := args.takeWhile isOption
  let words := args.drop flags.length
  let letters := flags.flatMap fun f => f.toList.drop 1
  let interprets := (letters.filter (· ≠ 'n')).getLast? = some 'e'
  let text := Utf8.encodeString (" ".intercalate words)
  let (output, stopped) :=
    if interprets then Format.unescape true (text.length + 1) text else (text, false)
  put (output ++ if stopped || letters.contains 'n' then [] else [0x0A])

def printf : Program := fun args => do
  let args := if args.head? = some "--" then args.drop 1 else args
  match args with
  | [] => misuse "missing operand"
  | format :: args =>
    let list := args.map Utf8.encodeString
    let written := Format.write (Utf8.encodeString format) list true
    for piece in written.output.reverse do
      match piece with
      | .bytes bytes => put bytes
      | .complaint complaint =>
        match complaint with
        | .notNumeric a => complain s!"{Quoting.literal a}: expected a numeric value"
        | .incomplete a => complain s!"{Quoting.literal a}: value not completely converted"
        | .outOfRange a => complain s!"{Quoting.literal a}: Numerical result out of range"
    match written.defect with
    | some (.unknownDirective source) => fail s!"{source}: invalid conversion specification"
    | some .noLetter => fail "%: invalid conversion specification"
    | none =>
      match written.left with
      | extra :: _ =>
        if !written.stopped then
          let name := (← get).name
          let shown := Quoting.literal (textOf extra)
          warn s!"{name}: warning: ignoring excess arguments, starting with {shown}"
      | [] => pure ()

/-- A line that may end in a NUL. -/
def putEnded (zero : Bool) (text : String) : Work Unit :=
  put (Utf8.encodeString text ++ [if zero then 0 else 0x0A])

/-- Writes the last part of a path, without an ending if one is given. -/
def basename : Program := fun args => do
  let table : OptionTable :=
    { letters := "as:z"
      names := [("multiple", "a"), ("suffix=", "s"), ("zero", "z")]
      endsAtOperand := true }
  let o ← options table args
  let without (ending path : String) : String :=
    let name := lastPart path
    if name.endsWith ending && name ≠ ending then (name.dropEnd ending.length).copy else name
  match o.operands with
  | [] => misuse "missing operand"
  | path :: rest =>
    if o.hasAny ["a", "s"] then
      for path in o.operands do putEnded (o.has "z") (without ((o.value? "s").getD "") path)
    else
      match rest with
      | _ :: extra :: _ => misuse s!"extra operand {Quoting.literal extra}"
      | _ => putEnded (o.has "z") (without (rest.headD "") path)

/-- Writes paths without their last parts. -/
def dirname : Program := fun args => do
  let o ← options { letters := "z", names := [("zero", "z")] } args
  if o.operands.isEmpty then misuse "missing operand"
  for path in o.operands do putEnded (o.has "z") (directoryPart path)

/-- The most lines that are written again and again; after so many nobody reads any more. -/
def manyLines : Nat := 60000

/-- Writes a line again and again. -/
def yes : Program := fun args => do
  let o ← options { letters := "", endsAtOperand := true } args
  let words := if o.operands.isEmpty then ["y"] else o.operands
  let line := Utf8.encodeString (" ".intercalate words ++ "\n")
  put (List.replicate (manyLines / line.length + 40000) line).flatten

def pwd : Program := fun args => do
  let o ← options { letters := "LP", names := [("logical", "L"), ("physical", "P")] } args
  if !o.operands.isEmpty then warn s!"{(← get).name}: ignoring non-option arguments"
  putLine ("/" ++ "/".intercalate (← disk).workingDirectory)

/-- Writes variables that programs get to know. -/
def printenv : Program := fun args => do
  let o ← options { letters := "0", names := [("null", "0")], endsAtOperand := true } args 2
  let bindings := (← get).environment
  if o.operands.isEmpty then
    for (name, value) in bindings do putEnded (o.has "0") s!"{name}={value}"
  else
    for name in o.operands do
      match bindings.lookup name with
      | some value => putEnded (o.has "0") value
      | none => raise 1

end SlotServer.Shell.Utility
