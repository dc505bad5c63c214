import SlotServer.Config.Settings
import SlotServer.Json.Written
import SlotServer.Log.Event
import SlotServer.Text.Quoted

/-!
# Log lines

The two ways in which an entry is written: as a JSON object with the fields of the entry among its
members, and as one line of text. Neither holds the time.
-/

namespace SlotServer.Log

def FieldValue.toJson : FieldValue → String
  | quoted text => JsonText.writtenString text
  | plain text => JsonText.writtenString text
  | number n => toString n

def FieldValue.text : FieldValue → String
  | quoted text => Text.quoted text
  | plain text => text
  | number n => toString n

/-- A text with blanks in front of it, up to a width. -/
def padded (width : Nat) (text : String) : String :=
  String.ofList (List.replicate (width - text.length) ' ') ++ text

namespace Entry

/-- The JSON object of an entry that a thread makes. -/
def toJson (entry : Entry) (thread : String) : String :=
  let text := JsonText.writtenString
  JsonText.writtenObject
    ([("level", text entry.level.name), ("message", text entry.message)] ++
      entry.fields.map (fun (name, value) => (name, value.toJson)) ++
      [("target", text entry.target), ("threadName", text thread)])

/-- The line of text of an entry that a thread makes, with the name of the thread as wide as
`width`. -/
def compactLine (entry : Entry) (width : Nat) (thread : String) : String :=
  let fields := entry.fields.map fun (name, value) => s!" {name}={value.text}"
  s!"{padded 5 entry.level.name} {padded width thread} {entry.target}: {entry.message}" ++
    String.join fields

/-- The lines of entries with the threads that make them. In lines of text, the name of a thread
is as wide as the widest one so far, which is `width` at first. -/
def lines (format : LogFormat) (width : Nat) : List (String × Entry) → List String
  | [] => []
  | (thread, entry) :: rest =>
    let width := max width thread.utf8ByteSize
    let line :=
      match format with
      | .json => entry.toJson thread
      | .compact => entry.compactLine width thread
    line :: lines format width rest

end Entry

end SlotServer.Log
