import SlotServer.Lifecycle
import SlotServer.Net.Network
import SlotServer.Server.Session
import SlotServer.Sink

/-!
# Running a server

A server is started, serves until it is told to stop, and is stopped, and reports each of these. It
fails if its address cannot be bound, if accepting connections cannot be started, if nothing can be
waited for, or if the thread that accepts connections does not come to its end.
-/

namespace SlotServer.Server

variable {σ ε : Type}

/-- What becomes of the thread that accepts connections. -/
structure AcceptThread where
  /-- Whether it can be started. -/
  spawn : Except Fault Unit := .ok ()
  /-- Whether it panics. Nothing that it does itself can, but what records its events may. -/
  panics : Bool := false

/-- The address to bind for a listen address: the first one that it stands for. -/
def resolve (network : Network) (address : ListenAddress) : Except ServerError SocketAddress :=
  match network.addresses address with
  | .error fault => .error (.resolve address.text fault)
  | .ok [] => .error (.unresolved address.text)
  | .ok (first :: _) => .ok first

def bind (network : Network) (address : ListenAddress) : Except ServerError SocketAddress := do
  let resolved ← resolve network address
  (network.bind resolved).mapError (.bind resolved)

/-- Starts a server: the server without clients, and what it logs. -/
def start (network : Network) (config : Config) (state : σ) (thread : AcceptThread := {}) :
    Except ServerError (Session σ × Log.Record) := do
  let address ← bind network config.listen
  (network.poll address).mapError .nonBlocking
  thread.spawn.mapError .spawn
  let session := Session.new address network.reachable config state
  return (session, [(.accept, .accepting address session.slots.table.capacity)])

/-- Waits for the thread that accepts connections to come to its end. -/
def join (thread : AcceptThread) : Except ServerError Unit :=
  if thread.panics then .error .acceptThreadPanicked else .ok ()

/-- A client that sends records one after another and leaves; it does not come at all if it has
none. -/
def visit (records : List Bytes) : List Step :=
  if records.isEmpty then []
  else .connect "visitor" :: records.map (.send "visitor") ++ [.disconnect "visitor"]

/-- Something that is noted down while a server runs. -/
inductive Note (ε : Type) where
  | report (report : Report ε)
  | event (thread : Log.Thread) (event : Log.Event)
  deriving DecidableEq, Repr

def Note.report? : Note ε → Option (Report ε)
  | report r => some r
  | event _ _ => none

/-- The entry of a note in the log, where reports are logged too. -/
def Note.logged [ToString ε] : Note ε → Log.Thread × Log.Event
  | report r => (.main, r.event)
  | event thread e => (thread, e)

def notes (record : Log.Record) : List (Note ε) :=
  record.map fun (thread, event) => .event thread event

/-- What came of running a server. -/
structure Run (σ ε : Type) where
  result : Except (RunError ε) Unit
  /-- All that was noted down, in order. -/
  timeline : List (Note ε)
  /-- The course of the steps that its clients made. -/
  course : List (Progress σ)
  /-- The server at the end, if it was started. -/
  session : Option (Session σ)

def Run.reports (run : Run σ ε) : List (Report ε) :=
  run.timeline.filterMap Note.report?

/-- What waiting for the stop and then stopping come to: where both fail, it is waiting that did. -/
def conclude (waited : Except ε ShutdownCause) (stopped : Except ServerError Unit) :
    Except (RunError ε) Unit :=
  (waited.mapError .shutdown).bind fun _ => stopped.mapError .listener

/-- What is noted down from the stop on: the cause, if there is one, and what the thread that
accepts connections logs if it comes to its end. -/
def notesOfStop (waited : Except ε ShutdownCause) (stopped : Except ServerError Unit)
    (log : Log.Record) : List (Note ε) :=
  (waited.toOption.map fun cause => .report (.stopping cause)).toList ++
    if stopped.isOk then notes log else []

/-- Serves while clients make steps, until waiting for the stop ends, and is stopped then. -/
def serveUntil (host : Capabilities σ) (config : Config) (session : Session σ) (log : Log.Record)
    (steps : List Step) (waited : Except ε ShutdownCause) (thread : AcceptThread) : Run σ ε :=
  let bufferSize := config.bufferSize.toNat
  let course := session.run host bufferSize steps
  let stop := (session.after course).step host bufferSize .stop
  let stopped := join thread
  let result := conclude waited stopped
  let timeline :=
    [.report (.starting config), .report (.listening config session.address)] ++ notes log ++
      course.flatMap (fun progress => notes progress.log) ++ notesOfStop waited stopped stop.log ++
      [.report (.ofResult result)]
  ⟨result, timeline, course, some stop.session⟩

/-- Runs a server while its clients make steps, until waiting for the stop ends: with a cause to
stop for, or with an error, after which the server is stopped too. -/
def runUntil (network : Network) (host : Capabilities σ) (config : Config) (steps : List Step)
    (waited : Except ε ShutdownCause) (state : σ) (thread : AcceptThread := {}) : Run σ ε :=
  match start network config state thread with
  | .error error =>
    ⟨.error error, [.report (.starting config), .report (.failed error)], [], none⟩
  | .ok (session, log) => serveUntil host config session log steps waited thread

/-- Runs a server until it is told to stop for a cause. -/
def run (network : Network) (host : Capabilities σ) (config : Config) (steps : List Step)
    (cause : ShutdownCause) (state : σ) (thread : AcceptThread := {}) : Run σ Empty :=
  runUntil network host config steps (.ok cause) state thread

/-- What the sink prints of what a server did. -/
def printed (trace : Trace) : Bytes :=
  let call : Action → Option SinkCall
    | .retrieved chunk => some (.retrieved chunk)
    | .output text => some (.output text)
    | _ => none
  (trace.filterMap call).flatMap Sink.printed

def replies (course : List (Progress σ)) : List Answer :=
  course.filterMap fun progress =>
    match progress.answer with
    | .reply bytes => some (.reply bytes)
    | .closed => some .closed
    | _ => none

end SlotServer.Server
