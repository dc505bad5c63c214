import SlotServer.Command
import SlotServer.Config.Settings
import SlotServer.Server.Error
import SlotServer.Slots.Table

/-!
# Log events

Everything that the server can log, as one type, and the entry that is written for each event: a
level, the part of the server it comes from, a message and named fields.
-/

namespace SlotServer.Log

/-- How much an event matters. The order runs from the gravest to the most detailed. -/
inductive Level where
  | error
  | warn
  | info
  | debug
  | trace
  deriving DecidableEq, Repr

namespace Level

def name : Level → String
  | error => "ERROR"
  | warn => "WARN"
  | info => "INFO"
  | debug => "DEBUG"
  | trace => "TRACE"

/-- The place of a level in the order, from 1 for errors to 5 for traces. -/
def rank : Level → Nat
  | error => 1
  | warn => 2
  | info => 3
  | debug => 4
  | trace => 5

end Level

inductive FieldValue where
  /-- A text that line formats quote. -/
  | quoted (text : String)
  | plain (text : String)
  | number (n : Nat)
  deriving DecidableEq, Repr

/-- What is written for an event. -/
structure Entry where
  level : Level
  target : String
  message : String
  fields : List (String × FieldValue)
  deriving DecidableEq, Repr

/-- An event that the server can log. -/
inductive Event where
  | slotAllocated (record : ConnectionRecord)
  /-- A lease was dropped and gave its slot back. -/
  | slotReleased (slot : Nat)
  /-- A lease was dropped, but there was nothing to give back. -/
  | staleLease (error : SlotError)
  /-- A command is about to be executed. -/
  | dispatching (kind : CommandKind) (argumentBytes : Nat)
  /-- A command of unknown kind is left alone. -/
  | ignoring (keyword : String)
  /-- A file could not be opened for reading. -/
  | retrieveSkipped (path : String) (fault : Fault)
  /-- Reading a file failed halfway. -/
  | retrieveInterrupted (path : String) (fault : Fault)
  /-- A store command holds no blank between path and body. -/
  | storeSkipped
  /-- A file could not be created or written. -/
  | storeFailed (path : String) (fault : Fault)
  /-- A command line could not be started. -/
  | runFailed (fault : Fault)
  /-- The local sink could not be written. -/
  | sinkFailed (fault : Fault)
  | peerClosed (slot : Nat)
  /-- Nothing more can be received from the peer. -/
  | receiveFailed (slot : Nat) (fault : Fault)
  /-- A reply could not be sent. -/
  | replyFailed (slot : Nat) (fault : Fault)
  /-- A worker took over a connection. -/
  | connectionOpened (record : ConnectionRecord)
  /-- A worker is done with a connection. -/
  | connectionClosed (slot processed : Nat)
  /-- Connections are accepted from now on. -/
  | accepting (address : SocketAddress) (capacity : Nat)
  /-- Connections are no longer accepted. -/
  | acceptingStopped (address : SocketAddress)
  /-- A connection found no free slot. -/
  | rejecting (error : SlotError)
  | admitted (record : ConnectionRecord)
  /-- The server is about to bind its address. -/
  | serverStarting (address : ListenAddress)
  | serverListening (address : SocketAddress) (maxConnections bufferSize : UInt64)
  /-- The server failed to start or to stop. -/
  | serverFailed (message : String)
  | serverStopping (cause : ShutdownCause)
  | serverStopped
  | telemetryInstalled (settings : LogSettings)
  deriving DecidableEq, Repr

/-! ## The parts of the server that events come from -/

def slotsTarget : String := "cmdslotd::slots"

/-- The execution of commands. -/
def dispatchTarget : String := "cmdslotd::dispatch"

/-- The workers that serve connections. -/
def workerTarget : String := "cmdslotd::worker"

/-- The loop that accepts connections. -/
def transportTarget : String := "cmdslotd::transport"

/-- The start and stop of the server. -/
def lifecycleTarget : String := "cmdslotd::lifecycle"

def telemetryTarget : String := "cmdslotd::telemetry"

namespace Event

def entry : Event → Entry
  | slotAllocated record =>
    ⟨.debug, slotsTarget, "slot allocated",
      [("slot", .number record.slot), ("peer", .quoted record.peerLabel)]⟩
  | slotReleased slot => ⟨.debug, slotsTarget, "slot released", [("slot", .number slot)]⟩
  | staleLease error =>
    ⟨.warn, slotsTarget, "slot lease released an inactive slot",
      [("error", .plain error.message)]⟩
  | dispatching kind argumentBytes =>
    ⟨.debug, dispatchTarget, "dispatching command",
      [("kind", .plain kind.name), ("argument_len", .number argumentBytes)]⟩
  | ignoring keyword =>
    ⟨.debug, dispatchTarget, "ignoring unknown command", [("keyword", .quoted keyword)]⟩
  | retrieveSkipped path fault =>
    ⟨.debug, dispatchTarget, "retrieve skipped",
      [("path", .quoted path), ("error", .plain fault.message)]⟩
  | retrieveInterrupted path fault =>
    ⟨.debug, dispatchTarget, "retrieve interrupted",
      [("path", .quoted path), ("error", .plain fault.message)]⟩
  | storeSkipped => ⟨.debug, dispatchTarget, "store skipped: no body separator", []⟩
  | storeFailed path fault =>
    ⟨.debug, dispatchTarget, "store failed",
      [("path", .quoted path), ("error", .plain fault.message)]⟩
  | runFailed fault =>
    ⟨.debug, dispatchTarget, "run failed to start", [("error", .plain fault.message)]⟩
  | sinkFailed fault =>
    ⟨.debug, dispatchTarget, "failed to write to local sink", [("error", .plain fault.message)]⟩
  | peerClosed slot => ⟨.debug, workerTarget, "peer closed", [("slot", .number slot)]⟩
  | receiveFailed slot fault =>
    ⟨.debug, workerTarget, "receive failed",
      [("slot", .number slot), ("error", .plain fault.message)]⟩
  | replyFailed slot fault =>
    ⟨.debug, workerTarget, "reply failed",
      [("slot", .number slot), ("error", .plain fault.message)]⟩
  | connectionOpened record =>
    ⟨.info, workerTarget, "connection opened",
      [("slot", .number record.slot), ("peer", .quoted record.peerLabel)]⟩
  | connectionClosed slot processed =>
    ⟨.info, workerTarget, "connection closed",
      [("slot", .number slot), ("processed", .number processed)]⟩
  | accepting address capacity =>
    ⟨.info, transportTarget, "accepting connections",
      [("address", .plain address.text), ("capacity", .number capacity)]⟩
  | acceptingStopped address =>
    ⟨.info, transportTarget, "stopped accepting connections", [("address", .plain address.text)]⟩
  | rejecting error =>
    ⟨.info, transportTarget, "rejecting connection", [("error", .plain error.message)]⟩
  | admitted record =>
    ⟨.debug, transportTarget, "connection admitted",
      [("slot", .number record.slot), ("peer", .quoted record.peerLabel)]⟩
  | serverStarting address =>
    ⟨.info, lifecycleTarget, "starting command server",
      [("event", .quoted "server_starting"), ("address", .plain address.text)]⟩
  | serverListening address maxConnections bufferSize =>
    ⟨.info, lifecycleTarget, "command server listening",
      [("event", .quoted "server_listening"), ("address", .plain address.text),
        ("max_connections", .number maxConnections.toNat),
        ("buffer_size", .number bufferSize.toNat)]⟩
  | serverFailed message =>
    ⟨.error, lifecycleTarget, "command server failed",
      [("event", .quoted "server_failed"), ("error", .plain message)]⟩
  | serverStopping cause =>
    ⟨.info, lifecycleTarget, "no longer accepting connections",
      [("event", .quoted "server_stopping"), ("cause", .plain cause.text)]⟩
  | serverStopped =>
    ⟨.info, lifecycleTarget, "command server stopped", [("event", .quoted "server_stopped")]⟩
  | telemetryInstalled settings =>
    ⟨.debug, telemetryTarget, "telemetry installed",
      [("format", .plain settings.format.name), ("filter", .quoted settings.filter)]⟩

end Event

end SlotServer.Log
