import SlotServer.Disk

/-!
# Channels

Where what a program reads comes from, and where what it writes goes to: files, devices, and pipes,
which give what was written to them once. Several descriptors can lead to one channel, and they
share the place in the file that is read or written next.
-/

namespace SlotServer.Shell

/-- What is read or written. -/
inductive Medium where
  | nothing
  | zeros
  | full
  | directory
  /-- Bytes that are waiting to be read, and further ones, the last one first. Where `room` is
  given, it is written to so many times more until somebody reads. -/
  | pipe (front back : Bytes) (room : Option Nat)
  /-- The file of a number from an offset on; what is written may always go to its end. -/
  | file (number offset : Nat) (appends : Bool)
  deriving Repr

/-- A medium and what may be done with it. -/
structure Channel where
  medium : Medium
  reads : Bool
  writes : Bool
  deriving Repr

/-- The channels that there are, by number, and the disk that they lead to. -/
structure Channels where
  disk : Disk
  list : Array Channel

namespace Channels

def add (channels : Channels) (channel : Channel) : Nat × Channels :=
  (channels.list.size, { channels with list := channels.list.push channel })

def setMedium (channels : Channels) (number : Nat) (medium : Medium) : Channels :=
  { channels with list := channels.list.modify number fun c => { c with medium } }

def overwritten (contents : Bytes) (offset : Nat) (bytes : Bytes) : Bytes :=
  let gap := List.replicate (offset - contents.length) 0
  contents.take offset ++ gap ++ bytes ++ contents.drop (offset + bytes.length)

def write (channels : Channels) (number : Nat) (bytes : Bytes) :
    Except SystemError Unit × Channels :=
  match channels.list[number]? with
  | none => (.error .badDescriptor, channels)
  | some channel =>
    if bytes.isEmpty then (.ok (), channels)
    else if !channel.writes then (.error .badDescriptor, channels)
    else
      match channel.medium with
      | .nothing => (.ok (), channels)
      | .zeros => (.ok (), channels)
      | .full => (.error .noSpaceLeft, channels)
      | .directory => (.error .badDescriptor, channels)
      | .pipe front back room =>
        if room = some 0 then (.error .pipeBroken, channels)
        else
          let room := room.map fun n => n - 1
          (.ok (), channels.setMedium number (.pipe front (bytes.reverse ++ back) room))
      | .file file offset appends =>
        if appends then
          (.ok (), { channels with disk := channels.disk.writeFile file (· ++ bytes) })
        else
          let channels := channels.setMedium number (.file file (offset + bytes.length) appends)
          (.ok (), { channels with
            disk := channels.disk.writeFile file fun old => overwritten old offset bytes })

/-- The most bytes that are taken from a channel that gives zeros. -/
def maxZeros : Nat := 65536

def readable (channels : Channels) (number : Nat) : Except SystemError Bytes :=
  match channels.list[number]? with
  | none => .error .badDescriptor
  | some channel =>
    if !channel.reads then .error .badDescriptor
    else
      match channel.medium with
      | .nothing => .ok []
      | .zeros => .ok (List.replicate maxZeros 0)
      | .full => .ok (List.replicate maxZeros 0)
      | .directory => .error .isADirectory
      | .pipe front back _ => .ok (if back.isEmpty then front else front ++ back.reverse)
      | .file file offset _ => .ok ((channels.disk.fileContents file).drop offset)

def consume (channels : Channels) (number count : Nat) : Channels :=
  match channels.list[number]? with
  | none => channels
  | some channel =>
    match channel.medium with
    | .pipe front back room =>
      let waiting := if back.isEmpty then front else front ++ back.reverse
      channels.setMedium number (.pipe (waiting.drop count) [] room)
    | .file file offset appends =>
      channels.setMedium number (.file file (offset + count) appends)
    | _ => channels

def isSeekable (channels : Channels) (number : Nat) : Bool :=
  channels.list[number]?.any fun channel => channel.medium matches .file _ _ _

end Channels

end SlotServer.Shell
