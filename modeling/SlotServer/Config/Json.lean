import SlotServer.Config.Settings
import SlotServer.Json.Record
import SlotServer.Json.Written

/-!
# Settings in JSON

Reading and writing of listen addresses, log settings and whole configurations. What is written is
read back; what is read may have its members in any order and others besides.
-/

namespace SlotServer

open JsonText

namespace LogFormat

def named? (text : String) : Option LogFormat :=
  if text = json.name then some json
  else if text = compact.name then some compact
  else none

def jsonReader : Reader LogFormat :=
  nameReader named? s!"`{json.name}` or `{compact.name}`"

end LogFormat

def portReader : Reader UInt16 :=
  fun text => (naturalReader UInt16.size "u16" text).map fun (n, rest) => (n.toUInt16, rest)

def countReader : Reader UInt64 :=
  fun text => (naturalReader UInt64.size "usize" text).map fun (n, rest) => (n.toUInt64, rest)

/-- The member of a record that is read by `reader` and kept by drafts as `get` and `set` say. -/
def jsonMember {δ α : Type} (name : String) (get : δ → Option α) (set : δ → α → δ)
    (reader : Reader α) : Member δ where
  name := name
  isSet draft := (get draft).isSome
  read draft text := (reader text).map fun (value, rest) => (set draft value, rest)

namespace ListenAddress

/-- A listen address that is being read. -/
structure Draft where
  host : Option String
  port : Option UInt16

def shape : Shape Draft ListenAddress where
  title := "struct ListenAddress"
  members :=
    [jsonMember "host" Draft.host (fun draft host => { draft with host := some host })
      (stringReader "a string"),
     jsonMember "port" Draft.port (fun draft port => { draft with port := some port })
      portReader]
  blank := ⟨none, none⟩
  finish draft := do
    let host ← required "host" draft.host
    let port ← required "port" draft.port
    return { host, port }

def ofJson (text : String) : Except JsonText.Error ListenAddress :=
  whole shape.reader text

def toJson (address : ListenAddress) : String :=
  writtenObject [("host", writtenString address.host), ("port", toString address.port.toNat)]

end ListenAddress

namespace LogSettings

/-- Log settings that are being read. -/
structure Draft where
  filter : Option String
  format : Option LogFormat

def shape : Shape Draft LogSettings where
  title := "struct LogSettings"
  members :=
    [jsonMember "filter" Draft.filter (fun draft filter => { draft with filter := some filter })
      (stringReader "a string"),
     jsonMember "format" Draft.format (fun draft format => { draft with format := some format })
      LogFormat.jsonReader]
  blank := ⟨none, none⟩
  finish draft := do
    let filter ← required "filter" draft.filter
    let format ← required "format" draft.format
    return { filter, format }

def ofJson (text : String) : Except JsonText.Error LogSettings :=
  whole shape.reader text

def toJson (settings : LogSettings) : String :=
  writtenObject
    [("filter", writtenString settings.filter), ("format", writtenString settings.format.name)]

end LogSettings

namespace Config

/-- A configuration that is being read. -/
structure Draft where
  listen : Option ListenAddress
  maxConnections : Option UInt64
  bufferSize : Option UInt64
  logging : Option LogSettings

/-- The form of a configuration in JSON. -/
def shape : Shape Draft Config where
  title := "struct Config"
  members :=
    [jsonMember "listen" Draft.listen (fun draft listen => { draft with listen := some listen })
      ListenAddress.shape.reader,
     jsonMember "max_connections" Draft.maxConnections
      (fun draft count => { draft with maxConnections := some count }) countReader,
     jsonMember "buffer_size" Draft.bufferSize
      (fun draft count => { draft with bufferSize := some count }) countReader,
     jsonMember "logging" Draft.logging
      (fun draft logging => { draft with logging := some logging }) LogSettings.shape.reader]
  blank := ⟨none, none, none, none⟩
  finish draft := do
    let listen ← required "listen" draft.listen
    let maxConnections ← required "max_connections" draft.maxConnections
    let bufferSize ← required "buffer_size" draft.bufferSize
    let logging ← required "logging" draft.logging
    return { listen, maxConnections, bufferSize, logging }

/-- The configuration that a JSON text holds. -/
def ofJson (text : String) : Except JsonText.Error Config :=
  whole shape.reader text

def toJson (config : Config) : String :=
  writtenObject
    [("listen", config.listen.toJson),
     ("max_connections", toString config.maxConnections.toNat),
     ("buffer_size", toString config.bufferSize.toNat),
     ("logging", config.logging.toJson)]

end Config

end SlotServer
