import SlotServer.Log.Filter
import SlotServer.Log.Line

/-!
# Telemetry

A process has room for one subscriber to its log events. The first call of `initialise` with a
filter that can be read takes the place and says so in the log; later calls only look up the format
that was chosen then. A call that fails leaves everything as it was.
-/

namespace SlotServer.Log

/-- Who listens to the log events of a process. -/
inductive Subscriber where
  /-- Somebody who was not installed here. -/
  | foreign
  | own (filter : Filter) (format : LogFormat)
  deriving DecidableEq, Repr

/-- The place for a subscriber, and a cell that is filled once, with the format of the one that was
installed here. -/
structure Telemetry where
  format : Option LogFormat := none
  subscriber : Option Subscriber := none
  deriving DecidableEq, Repr

/-- Why telemetry could not be installed. -/
inductive TelemetryError where
  | filter (directive : String) (error : FilterError)
  /-- The place is taken. -/
  | install
  deriving DecidableEq, Repr

def TelemetryError.message : TelemetryError → String
  | filter directive error => s!"log filter `{directive}` is invalid: {error.message}"
  | install =>
    "cannot install the log subscriber: a global default trace dispatcher has already been set"

/-- Reads the text of a filter, or says what is wrong with it. -/
abbrev FilterReader := String → Except FilterError Filter

namespace Telemetry

/-- The telemetry of a process where nothing was installed. -/
@[match_pattern]
abbrev vacant : Telemetry := {}

/-- The telemetry of a process where somebody else listens already. -/
@[match_pattern]
abbrev foreign : Telemetry := { subscriber := some .foreign }

/-- The telemetry of a process after a subscriber was installed here. -/
@[match_pattern]
abbrev installed (filter : Filter) (format : LogFormat) : Telemetry :=
  { format := some format, subscriber := some (.own filter format) }

/-- What a call of `initialise` comes to. -/
structure Initialised where
  telemetry : Telemetry
  /-- The format that log lines have from now on. -/
  result : Except TelemetryError LogFormat
  /-- The events that the call causes, made after the subscriber took its place. -/
  events : List Event

/-- The subscriber with these settings, if the place is free for it. What counts as a filter is up
to `read`. -/
def install (settings : LogSettings) (telemetry : Telemetry) (read : FilterReader) :
    Except TelemetryError Subscriber :=
  match read settings.filter with
  | .error error => .error (.filter settings.filter error)
  | .ok filter =>
    if telemetry.subscriber.isSome then .error .install else .ok (.own filter settings.format)

/-- Installs a subscriber with these settings, unless one was installed here before. -/
def initialise (settings : LogSettings) (telemetry : Telemetry)
    (read : FilterReader := Filter.parse) : Initialised :=
  match telemetry.format with
  | some format => ⟨telemetry, .ok format, []⟩
  | none =>
    match telemetry.install settings read with
    | .error error => ⟨telemetry, .error error, []⟩
    | .ok subscriber =>
      ⟨⟨some settings.format, some subscriber⟩, .ok settings.format,
        [.telemetryInstalled settings]⟩

/-- Several calls of `initialise`, one after another: their results, and the events of all. -/
def initialiseAll (telemetry : Telemetry) (calls : List LogSettings)
    (read : FilterReader := Filter.parse) :
    Telemetry × List (Except TelemetryError LogFormat) × List Event :=
  match calls with
  | [] => (telemetry, [], [])
  | settings :: rest =>
    let first := telemetry.initialise settings read
    let (last, results, events) := first.telemetry.initialiseAll rest read
    (last, first.result :: results, first.events ++ events)

/-- The log lines of events with the threads that make them. -/
def lines (telemetry : Telemetry) (events : List (String × Event)) : List String :=
  match telemetry.subscriber with
  | some (.own filter format) =>
    let entries := events.map fun (thread, event) => (thread, event.entry)
    Entry.lines format 0 (entries.filter fun (_, entry) => filter.enables entry)
  | _ => []

end Telemetry

end SlotServer.Log
