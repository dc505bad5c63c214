/-!
# Faults

The ways in which a file, a process, a stream or a socket can fail, and their texts.
-/

namespace SlotServer

/-- Kinds of failure that carry no detail. -/
inductive FaultKind where
  | notFound
  | permissionDenied
  | connectionReset
  | connectionAborted
  | brokenPipe
  | addressInUse
  | addressNotAvailable
  | alreadyExists
  | wouldBlock
  | invalidInput
  | invalidData
  | timedOut
  | interrupted
  | unexpectedEof
  | outOfMemory
  | other
  deriving DecidableEq, Repr

def FaultKind.message : FaultKind → String
  | .notFound => "entity not found"
  | .permissionDenied => "permission denied"
  | .connectionReset => "connection reset"
  | .connectionAborted => "connection aborted"
  | .brokenPipe => "broken pipe"
  | .addressInUse => "address in use"
  | .addressNotAvailable => "address not available"
  | .alreadyExists => "entity already exists"
  | .wouldBlock => "operation would block"
  | .invalidInput => "invalid input parameter"
  | .invalidData => "invalid data"
  | .timedOut => "timed out"
  | .interrupted => "operation interrupted"
  | .unexpectedEof => "unexpected end of file"
  | .outOfMemory => "out of memory"
  | .other => "other error"

/-- Failures that the operating system reports by number. -/
inductive SystemError where
  | noSuchEntry
  | badDescriptor
  | permissionDenied
  | entryExists
  | noSuchDevice
  | notADirectory
  | isADirectory
  | invalidArgument
  | noSpaceLeft
  | pipeBroken
  | nameTooLong
  | directoryNotEmpty
  | tooManyLinks
  | addressInUse
  | addressNotAvailable
  deriving DecidableEq, Repr

def SystemError.number : SystemError → Nat
  | .noSuchEntry => 2
  | .badDescriptor => 9
  | .permissionDenied => 13
  | .entryExists => 17
  | .noSuchDevice => 19
  | .notADirectory => 20
  | .isADirectory => 21
  | .invalidArgument => 22
  | .noSpaceLeft => 28
  | .pipeBroken => 32
  | .nameTooLong => 36
  | .directoryNotEmpty => 39
  | .tooManyLinks => 40
  | .addressInUse => 98
  | .addressNotAvailable => 99

/-- The description of a system error, without its number. -/
def SystemError.description : SystemError → String
  | .noSuchEntry => "No such file or directory"
  | .badDescriptor => "Bad file descriptor"
  | .permissionDenied => "Permission denied"
  | .entryExists => "File exists"
  | .noSuchDevice => "No such device"
  | .notADirectory => "Not a directory"
  | .isADirectory => "Is a directory"
  | .invalidArgument => "Invalid argument"
  | .noSpaceLeft => "No space left on device"
  | .pipeBroken => "Broken pipe"
  | .nameTooLong => "File name too long"
  | .directoryNotEmpty => "Directory not empty"
  | .tooManyLinks => "Too many levels of symbolic links"
  | .addressInUse => "Address already in use"
  | .addressNotAvailable => "Cannot assign requested address"

def SystemError.message (error : SystemError) : String :=
  s!"{error.description} (os error {error.number})"

/-- A failure of one operation on a file, a process, a stream or a socket. -/
inductive Fault where
  /-- A failure of which only the kind is known. -/
  | bare (kind : FaultKind)
  /-- A failure that the operating system reported. -/
  | system (error : SystemError)
  /-- A write call accepted nothing although bytes were left to write. -/
  | writeStalled
  /-- A path holds a NUL character, which no file name can. -/
  | nulInPath
  /-- A command line holds a NUL character, which no process argument can. -/
  | nulInCommand
  /-- A host is no name that a name server could know. -/
  | unknownHost
  | silentNameServer
  deriving DecidableEq, Repr

namespace Fault

def message : Fault → String
  | bare kind => kind.message
  | system error => error.message
  | writeStalled => "failed to write whole buffer"
  | nulInPath => "file name contained an unexpected NUL byte"
  | nulInCommand => "nul byte found in provided data"
  | unknownHost => "failed to lookup address information: Name or service not known"
  | silentNameServer =>
    "failed to lookup address information: Temporary failure in name resolution"

/-- The system error that a fault of an operation on a path comes from. -/
def systemError : Fault → SystemError
  | system error => error
  | _ => .noSuchEntry

/-- Whether the operation was merely interrupted and is tried again. -/
def isInterrupted (fault : Fault) : Bool :=
  fault == bare .interrupted

end Fault

end SlotServer
