import SlotServer.Config.Usage
import SlotServer.Log.Telemetry
import SlotServer.Server.Run

/-!
# The program

The whole program: it reads its configuration from the command line and the environment, installs
telemetry and runs the server until a signal arrives. What goes wrong on the way is said on the
standard error, after the name of the program.
-/

namespace SlotServer.Program

open CommandLine Log

/-- What a run of the program leaves behind. -/
structure Outcome (σ : Type) where
  exitCode : Nat
  output : Bytes
  errorLines : List String
  /-- The course of the steps that clients of the server made. -/
  course : List (Server.Progress σ)

variable {σ : Type}

/-- A run that ends with an error. -/
def failed (lines : List String) (message : String) : Outcome σ :=
  ⟨1, [], lines ++ [s!"{programName}: {message}"], []⟩

/-- Runs the server and logs what it reports. -/
def serve (telemetry : Telemetry) (installed : List Event) (run : Server.Run σ ShutdownError) :
    Outcome σ :=
  let events :=
    installed.map (fun event => (Thread.main, event)) ++ run.timeline.map Server.Note.logged
  let lines := telemetry.lines (events.map fun (thread, event) => (thread.name, event))
  match run.result with
  | .error error => failed lines error.message
  | .ok () =>
    ⟨0, Server.printed (run.course.flatMap Server.Progress.trace), lines, run.course⟩

/-- Runs the program with these arguments, the name of the program among them, while clients of the
server make steps, until a signal arrives. Whether the program can be told of signals and the server
can start a thread is up to the system. -/
def run (network : Network) (host : Capabilities σ) (arguments : List Bytes)
    (environment : Environment) (steps : List Server.Step) (signal : Option String) (state : σ)
    (handlers : Except Fault Unit := .ok ()) (thread : Server.AcceptThread := {}) : Outcome σ :=
  match Config.load arguments environment with
  | .error refusal =>
    let text := refusal.message (programOf arguments) environment
    if refusal.isAnswer then ⟨refusal.exitCode, Utf8.encodeString text, [], []⟩
    else
      let lines := (Text.splitAt '\n' text.toList).map String.ofList
      ⟨refusal.exitCode, [], lines.dropLast, []⟩
  | .ok config =>
    let started := Telemetry.vacant.initialise config.logging
    match started.result with
    | .error error => failed [] error.message
    | .ok _ =>
      serve started.telemetry started.events
        (Server.runUntil network host config steps (awaitSignal handlers signal) state thread)

end SlotServer.Program
