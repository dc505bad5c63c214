import SlotServer.Net.Endpoint

/-!
# Settings

What a server is configured with, and the values that hold where nothing else is said.
-/

namespace SlotServer

/-- How log events are written. -/
inductive LogFormat where
  /-- One JSON object per event. -/
  | json
  /-- One line of text per event. -/
  | compact
  deriving DecidableEq, Repr

namespace LogFormat

def name : LogFormat → String
  | json => "json"
  | compact => "compact"

/-- The format of this name, in any case of the ASCII letters. -/
def parse? (text : String) : Option LogFormat :=
  let letters := text.toList.map Char.toLower
  if letters = json.name.toList then some json
  else if letters = compact.name.toList then some compact
  else none

/-- What is said of a text that names no format. -/
def unknownMessage : String := "Matching variant not found"

end LogFormat

/-- Which log events are written, and how. -/
structure LogSettings where
  filter : String
  format : LogFormat
  deriving DecidableEq, Repr

/-- The configuration of a server. -/
structure Config where
  listen : ListenAddress
  maxConnections : UInt64
  /-- The most bytes that one read takes from a connection. -/
  bufferSize : UInt64
  logging : LogSettings
  deriving DecidableEq, Repr

namespace Config

/-- The configuration of a server that is told nothing. -/
def default : Config where
  listen := { host := "127.0.0.1", port := 8080 }
  maxConnections := 10
  bufferSize := 2048
  logging := { filter := "info", format := .json }

instance : Inhabited Config := ⟨default⟩

end Config

end SlotServer
