import SlotServer.Net.Endpoint

/-!
# Start and stop of a server

What keeps a server from accepting connections, why it is told to stop, and what else can go wrong
while it waits for that.
-/

namespace SlotServer

/-- Why a server cannot accept connections, or not stop accepting them in good order. -/
inductive ServerError where
  /-- The host could not be resolved. -/
  | resolve (address : String) (fault : Fault)
  /-- The host was resolved to no address at all. -/
  | unresolved (address : String)
  /-- The address could not be bound. -/
  | bind (address : SocketAddress) (fault : Fault)
  /-- The bound socket could not be polled. -/
  | nonBlocking (fault : Fault)
  /-- The thread that accepts connections could not be started. -/
  | spawn (fault : Fault)
  /-- The thread that accepts connections died. -/
  | acceptThreadPanicked
  deriving DecidableEq, Repr

def ServerError.message : ServerError → String
  | resolve address fault => s!"cannot resolve listen address {address}: {fault.message}"
  | unresolved address => s!"listen address {address} resolved to nothing"
  | bind address fault => s!"cannot listen on {address.text}: {fault.message}"
  | nonBlocking fault => s!"cannot poll the listening socket: {fault.message}"
  | spawn fault => s!"cannot start the accept thread: {fault.message}"
  | acceptThreadPanicked => "accept thread panicked"

/-- Why a server is told to stop. -/
inductive ShutdownCause where
  | signal (name : String)
  /-- The embedding program asked for it. -/
  | requested
  deriving DecidableEq, Repr

def ShutdownCause.text : ShutdownCause → String
  | signal name => name
  | requested => "requested"

/-- Why a program cannot wait for a signal: nothing can be told to it when signals arrive. -/
structure ShutdownError where
  source : Fault
  deriving DecidableEq, Repr

instance : ToString ShutdownError where
  toString error := s!"cannot listen for termination signals: {error.source.message}"

/-- Waits for a signal to terminate: the name of the one that arrives, if one ever does. -/
def awaitSignal (handlers : Except Fault Unit) (arrived : Option String) :
    Except ShutdownError ShutdownCause :=
  match handlers with
  | .error source => .error ⟨source⟩
  | .ok () => .ok ((arrived.map .signal).getD .requested)

instance instToStringEmpty : ToString Empty := ⟨nofun⟩

/-- Why a run of a server fails, where waiting for the stop can fail with an error of type `ε`. -/
inductive RunError (ε : Type) where
  | listener (error : ServerError)
  | shutdown (error : ε)
  deriving DecidableEq, Repr

namespace RunError

variable {ε : Type}

def message [ToString ε] : RunError ε → String
  | listener error => error.message
  | shutdown error => toString error

/-- Where waiting cannot fail, it was the listener. -/
def listenerError : RunError Empty → ServerError
  | listener error => error

instance : Coe ServerError (RunError ε) := ⟨listener⟩

instance : Coe (RunError Empty) ServerError := ⟨listenerError⟩

end RunError

end SlotServer
