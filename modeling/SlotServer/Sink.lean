import SlotServer.Log.Event
import SlotServer.Transfer.Reading

/-!
# The local sink

Contents of files and output of commands stay on the server: a sink prints them on its standard
output. Chunks of a file and lines of an output are told apart by what is printed before them.
-/

namespace SlotServer

/-- What is handed to the sink at once. -/
inductive SinkCall where
  | retrieved (chunk : Bytes)
  /-- The whole output of a command. -/
  | output (text : String)
  deriving DecidableEq, Repr

namespace Sink

/-- The lines of a text, each with its newline; the last one may have none. -/
def lines : List Char → List (List Char)
  | [] => []
  | c :: rest =>
    if c = '\n' then [c] :: lines rest
    else
      match lines rest with
      | [] => [[c]]
      | line :: more => (c :: line) :: more

/-- What is printed before a chunk of a file. -/
def chunkLabel : String := "Sending: "

/-- What is printed before each line of an output. -/
def lineLabel : String := "Result: "

def printed : SinkCall → Bytes
  | .retrieved chunk => Utf8.encodeString chunkLabel ++ chunk
  | .output text =>
    (lines text.toList).flatMap fun line => Utf8.encode (lineLabel.toList ++ line)

/-- The events of calls on a standard output that takes no bytes at all. What could not be printed
is kept and tried again, so after the first call that prints anything every call fails; `pending`
says whether there was one before. -/
def refusals (pending : Bool) : List SinkCall → List Log.Event
  | [] => []
  | call :: calls =>
    if pending || !(printed call).isEmpty then
      .sinkFailed (.system .noSpaceLeft) :: refusals true calls
    else
      refusals false calls

end Sink

end SlotServer
