import SlotServer.Config.Settings
import SlotServer.Text.Integer
import SlotServer.Text.Plain

/-!
# Single settings

The six settings that a configuration is put together from. Each is given as text: as a flag or as
the one argument that is no flag, in a variable of the environment, or not at all.
-/

namespace SlotServer

inductive Setting where
  | port
  | host
  | maxConnections
  | bufferSize
  | logFilter
  | logFormat
  deriving DecidableEq, Repr

/-- What is wrong with the text of a setting. -/
inductive ValueError where
  | notAnInteger (error : Text.IntegerError)
  | notAPort (value : Int)
  | zero
  | unknownFormat
  deriving DecidableEq, Repr

def ValueError.message : ValueError → String
  | notAnInteger error => error.message
  | notAPort value => s!"{value} is not in 0..=65535"
  | zero => "value must be at least 1"
  | unknownFormat => LogFormat.unknownMessage

/-- Reads a port. Other integers of 64 bits are told apart from texts that are no integers. -/
def readPort (text : String) : Except ValueError UInt16 :=
  match Text.readSigned 0x7FFFFFFFFFFFFFFF text.toList with
  | .error error => .error (.notAnInteger error)
  | .ok n => if 0 ≤ n ∧ n < UInt16.size then .ok n.toNat.toUInt16 else .error (.notAPort n)

def readCount (text : String) : Except ValueError UInt64 :=
  match Text.readUnsigned 0xFFFFFFFFFFFFFFFF text.toList with
  | .error error => .error (.notAnInteger error)
  | .ok n => if n = 0 then .error .zero else .ok n.toUInt64

def readFormat (text : String) : Except ValueError LogFormat :=
  match LogFormat.parse? text with
  | some format => .ok format
  | none => .error .unknownFormat

/-- The configuration with one setting changed to what a text says. -/
def Config.set (config : Config) (setting : Setting) (text : String) : Except ValueError Config :=
  match setting with
  | .port => (readPort text).map fun port => { config with listen := { config.listen with port } }
  | .host => .ok { config with listen := { config.listen with host := text } }
  | .maxConnections => (readCount text).map fun count => { config with maxConnections := count }
  | .bufferSize => (readCount text).map fun count => { config with bufferSize := count }
  | .logFilter => .ok { config with logging := { config.logging with filter := text } }
  | .logFormat =>
    (readFormat text).map fun format => { config with logging := { config.logging with format } }

namespace Setting

def all : List Setting :=
  [port, host, maxConnections, bufferSize, logFilter, logFormat]

/-- The name of a setting's flag. The port has none: it is given without one. -/
def flag? : Setting → Option String
  | port => none
  | host => some "host"
  | maxConnections => some "max-connections"
  | bufferSize => some "buffer-size"
  | logFilter => some "log-filter"
  | logFormat => some "log-format"

def placeholder : Setting → String
  | port => "PORT"
  | host => "HOST"
  | maxConnections => "MAX_CONNECTIONS"
  | bufferSize => "BUFFER_SIZE"
  | logFilter => "LOG_FILTER"
  | logFormat => "LOG_FORMAT"

def variableName (setting : Setting) : String :=
  "CMDSLOT_" ++ setting.placeholder

/-- The text of the value that holds where nothing is said. -/
def defaultText : Setting → String
  | port => "8080"
  | host => "127.0.0.1"
  | maxConnections => "10"
  | bufferSize => "2048"
  | logFilter => "info"
  | logFormat => "json"

def purpose : Setting → String
  | port => "TCP port to listen on"
  | host => "Interface address to bind when listening on TCP"
  | maxConnections => "Maximum number of simultaneously connected peers"
  | bufferSize => "Receive buffer size per connection, in bytes"
  | logFilter => "`tracing` filter directive, for example `cmdslotd=debug`"
  | logFormat => "Log output format (`json` or `compact`)"

def shown (setting : Setting) : String :=
  match setting.flag? with
  | some flag => s!"--{flag} <{setting.placeholder}>"
  | none => s!"[{setting.placeholder}]"

/-- A setting as it is shown in a list, with its flag in a style. -/
def listed (setting : Setting) : String :=
  match setting.flag? with
  | some flag => Text.styled s!"--{flag}" ++ s!" <{setting.placeholder}>"
  | none => s!"[{setting.placeholder}]"

theorem set_defaultText (setting : Setting) :
    Config.default.set setting setting.defaultText = .ok Config.default := by
  cases setting <;> rfl

end Setting

end SlotServer
