import SlotServer.Log.Event

/-!
# Reports on the life of a server

What a server reports while it starts and stops, and the event by which each report is logged.
-/

namespace SlotServer

/-- A report on the start or the stop of a server. Waiting for the stop can fail with an error of
type `ε`. -/
inductive Report (ε : Type := Empty) where
  /-- The address is about to be bound. -/
  | starting (config : Config)
  /-- Connections are accepted at an address. -/
  | listening (config : Config) (address : SocketAddress)
  /-- The server could not be started or stopped. -/
  | failed (error : RunError ε)
  /-- The server was told to stop. -/
  | stopping (cause : ShutdownCause)
  | stopped
  deriving DecidableEq, Repr

def Report.ofResult {ε : Type} : Except (RunError ε) Unit → Report ε
  | .ok () => .stopped
  | .error error => .failed error

def Report.event {ε : Type} [ToString ε] : Report ε → Log.Event
  | starting config => .serverStarting config.listen
  | listening config address =>
    .serverListening address config.maxConnections config.bufferSize
  | failed error => .serverFailed error.message
  | stopping cause => .serverStopping cause
  | stopped => .serverStopped

end SlotServer
