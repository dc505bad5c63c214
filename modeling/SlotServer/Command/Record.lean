import SlotServer.Command
import SlotServer.Text.Blank

/-!
# Records

How a received record is read as a command: the bytes are decoded, one line terminator is taken off
the end, and the first word is the keyword. Every record is a command, if only an unknown one.
-/

namespace SlotServer

namespace Record

/-- The text without the line terminator at its end, if it has one. Only one is taken off. -/
def dropTerminator (text : List Char) : List Char :=
  if text.getLast? = some '\n' then
    let line := text.dropLast
    if line.getLast? = some '\r' then line.dropLast else line
  else
    text

/-- The keyword of a line and its argument, before any cap. -/
def split (line : List Char) : List Char × List Char :=
  let line := Text.dropBlank line
  (Text.firstWord line, Text.dropBlank (Text.afterWord line))

end Record

def Command.parse (record : Bytes) : Command :=
  let parts := Record.split (Record.dropTerminator (Utf8.decode record))
  Command.ofParts parts.1 parts.2

end SlotServer
