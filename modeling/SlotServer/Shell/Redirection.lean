import SlotServer.Shell.Expansion

/-!
# Redirections

Where the descriptors of a command lead after its redirections.
-/

namespace SlotServer.Shell

namespace Redirection

/-- What is said where a file cannot be opened or created. -/
def openFault (error : SystemError) (missing : String) : String :=
  match error with
  | .noSuchEntry => missing
  | .notADirectory => missing
  | other => other.description

/-- The place that a path leads to, and what is there. -/
def lookUp (disk : Disk) (path : String) : Except SystemError (Disk.Target × Option DiskNode) :=
  match disk.resolve path with
  | .error fault => .error fault.systemError
  | .ok target =>
    match disk.node? target.place with
    | some .directory => .ok (target, some .directory)
    | some node => if target.asDirectory then .error .notADirectory else .ok (target, some node)
    | none => .ok (target, none)

/-- The medium of something that is there; a file is read or written from its start. -/
def mediumOf (appends : Bool) : DiskNode → Medium
  | .directory => .directory
  | .file number => .file number 0 appends
  | .fullDevice => .full
  | .zeroDevice => .zeros
  | _ => .nothing

def openChannel (channel : Channel) : Action Nat :=
  Action.onChannels fun channels => channels.add channel

/-- Opens the channel that a descriptor leads to once more. -/
def reopen (descriptor : Nat) (channel : Channel) (truncate : Bool) :
    Action (Except SystemError Nat) := do
  let state ← get
  match state.descriptors.lookup descriptor with
  | none => return .error .noSuchEntry
  | some number =>
    match (state.channels.list[number]?).map Channel.medium with
    | some (.file file _ _) =>
      if truncate then
        modify fun state => state.withDisk (state.disk.writeFile file fun _ => [])
      let appends := channel.medium matches .file _ _ true
      return .ok (← openChannel { channel with medium := .file file 0 appends })
    | some (.pipe _ _ _) => return .ok number
    | some medium => return .ok (← openChannel { channel with medium })
    | none => return .error .noSuchEntry

def openInput (path : String) : Action (Except SystemError Nat) := do
  match lookUp (← get).disk path with
  | .error error => return .error error
  | .ok (_, none) => return .error .noSuchEntry
  | .ok (_, some (.stream descriptor)) => reopen descriptor ⟨.nothing, true, false⟩ false
  | .ok (_, some node) => return .ok (← openChannel ⟨mediumOf false node, true, false⟩)

/-- How a path is opened for writing. -/
structure Opening where
  /-- Whether the path is read too. -/
  reads : Bool
  /-- Whether what is written goes to the end. -/
  appends : Bool
  /-- Whether a file that is there is emptied. -/
  truncates : Bool
  /-- Whether a file that is there is left alone. -/
  spares : Bool

/-- Opens a path for writing, and creates a file if there is none. -/
def openOutput (opening : Opening) (path : String) : Action (Except SystemError Nat) := do
  let state ← get
  match lookUp state.disk path with
  | .error error => return .error error
  | .ok (_, some .directory) => return .error .isADirectory
  | .ok (target, none) =>
    if target.asDirectory then return .error .isADirectory
    else
      match state.disk.node? target.place.dropLast with
      | some .directory =>
        let mode := 0o666 - (0o666 &&& state.mask)
        let number := state.disk.files.size
        modify fun state => state.withDisk (state.disk.putFile target.place [] mode)
        let medium := Medium.file number 0 opening.appends
        return .ok (← openChannel ⟨medium, opening.reads, true⟩)
      | _ => return .error .noSuchEntry
  | .ok (_, some (.stream descriptor)) =>
    let medium := Medium.file 0 0 opening.appends
    reopen descriptor ⟨medium, opening.reads, true⟩ opening.truncates
  | .ok (_, some (.file number)) =>
    if opening.spares then return .error .entryExists
    else
      if opening.truncates then
        modify fun state => state.withDisk (state.disk.writeFile number fun _ => [])
      let medium := Medium.file number 0 opening.appends
      return .ok (← openChannel ⟨medium, opening.reads, true⟩)
  | .ok (_, some node) =>
    return .ok (← openChannel ⟨mediumOf opening.appends node, opening.reads, true⟩)

/-- A redirection whose target is a text. -/
structure Opened where
  descriptor : Nat
  operator : String
  target : Bytes

/-- Lets a descriptor lead to a channel, or nowhere. -/
def setDescriptor (descriptor : Nat) (channel : Option Nat) : Action Unit :=
  modify fun state =>
    let others := state.descriptors.filter fun (d, _) => d != descriptor
    let mine := channel.map fun number => (descriptor, number)
    { state with descriptors := mine.toList ++ others }

/-- Applies a redirection, or says what is wrong. -/
def apply (r : Opened) : Action (Except String Unit) := do
  let path := Utf8.decodeString r.target
  let done (opened : Except SystemError Nat) (verb missing : String) :
      Action (Except String Unit) := do
    match opened with
    | .ok number =>
      setDescriptor r.descriptor (some number)
      return .ok ()
    | .error error => return .error s!"cannot {verb} {path}: {openFault error missing}"
  let create (opening : Opening) : Action (Except String Unit) := do
    done (← openOutput opening path) "create" "Directory nonexistent"
  match r.operator with
  | "<<" =>
    let number ← openChannel ⟨.pipe r.target [] none, true, false⟩
    setDescriptor r.descriptor (some number)
    return .ok ()
  | "<" => done (← openInput path) "open" "No such file"
  | "<>" => create ⟨true, false, false, false⟩
  | ">>" => create ⟨false, true, false, false⟩
  | ">|" => create ⟨false, false, true, false⟩
  | ">" => create ⟨false, false, true, (← get).isOn 'C'⟩
  | _ =>
    match path.toList with
    | ['-'] =>
      setDescriptor r.descriptor none
      return .ok ()
    | _ =>
      let source := path.toNat?.getD 10
      match (← get).descriptors.lookup source with
      | none => return .error s!"{source}: Bad file descriptor"
      | some number =>
        setDescriptor r.descriptor (some number)
        return .ok ()

/-- The texts of the targets of redirections. A descriptor has one digit. -/
def targets (output : Option Script → Action Bytes) :
    List Redirect → Action (List Opened)
  | [] => return []
  | .mk descriptor operator target :: rest => do
    let text ←
      if operator = ">&" || operator = "<&" then do
        let fields ← Expansion.fields output target
        let text := (fields.head?).getD []
        let isDescriptor :=
          match text with
          | [b] => (0x30 ≤ b && b ≤ 0x39) || b = 0x2D
          | _ => false
        if isDescriptor then pure text else Action.fail "Syntax error: Bad fd number"
      else if operator = "<<" then do
        pure ((← Expansion.whole output .nowhere target).map MarkedByte.byte)
      else Expansion.text output target
    return ⟨descriptor, operator, text⟩ :: (← targets output rest)

/-- Applies redirections one after another. If one fails, the flag says so, and it is reported. -/
def applyAll : List Opened → Action Bool
  | [] => return true
  | r :: rest => do
    match ← apply r with
    | .ok () => applyAll rest
    | .error message =>
      Action.report message
      return false

end Redirection

end SlotServer.Shell
