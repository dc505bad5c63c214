import SlotServer.Config.Settings
import SlotServer.Log.SlotEvents
import SlotServer.Log.Thread
import SlotServer.Worker

/-!
# Sessions

A server that accepts connections, its clients, and what happens between them step by step. A step
is an action of one client, of whoever holds the slot table, or of whoever stops the server; it ends
when the server has nothing left to do. A client that finds a free slot is admitted and served by a
worker of its own; otherwise it is turned away, and its connection is closed without a word.
-/

namespace SlotServer.Server

/-- A client that was admitted. -/
structure Served where
  lease : Nat
  record : ConnectionRecord
  /-- How many records of the client were executed and acknowledged. -/
  processed : Nat := 0
  /-- What the client has sent and its worker has not received yet. -/
  pending : Bytes := []
  /-- The replies that the client has not read yet, the oldest first. -/
  unread : List Bytes := []
  deriving DecidableEq, Repr

/-- A client whose connection it has not given up. -/
inductive Client where
  | served (client : Served)
  | turnedAway
  deriving DecidableEq, Repr

/-- A running server with its clients, on a machine in a state of type `σ`. -/
structure Session (σ : Type) where
  address : SocketAddress
  /-- Whether clients can connect to it. -/
  reachable : Bool
  slots : LeasedTable
  /-- The clients by their names, in the order in which they connected. -/
  clients : List (String × Client)
  /-- Whether connections are still accepted. -/
  accepting : Bool
  state : σ

/-- How a stream hands out to a worker what a client has sent. -/
structure Delivery where
  /-- How much arrives at a time. What is left then arrives in one. -/
  arrivals : List Nat := []
  /-- How many of the last bytes arrive only later. -/
  heldBack : Nat := 0
  deriving DecidableEq, Repr

/-- How a connection comes to its end that the client has closed. -/
structure Parting where
  /-- How much arrives at a time of what was sent before. -/
  arrivals : List Nat := []
  /-- Why receiving fails after that, if it does. -/
  fault : Option Fault := none
  /-- How the stream answers the last replies. -/
  writes : WriteScript := {}
  deriving DecidableEq, Repr

/-- The address of a client on the same machine. -/
def localPeer : IpAddress := .v4 ⟨127, 0, 0, 1⟩

/-- Something that happens to a server. -/
inductive Step where
  /-- A client connects, from an address that the socket reports or not. -/
  | connect (client : String) (peer : Option IpAddress := some localPeer)
  /-- A client sends bytes at once and reads one reply. -/
  | send (client : String) (bytes : Bytes) (delivery : Delivery := {})
  | read (client : String) (delivery : Delivery := {})
  /-- A client sends bytes and ends its side, and reads all replies to the end. -/
  | finish (client : String) (bytes : Bytes) (arrivals : List Nat := [])
  /-- A client closes its connection. -/
  | disconnect (client : String) (parting : Parting := {})
  /-- A client that was turned away gives up its connection. -/
  | forget (client : String)
  | release (slot : Nat)
  /-- The records that hold slots are looked at. -/
  | records
  /-- The server is told to stop. -/
  | stop
  deriving DecidableEq, Repr

/-- What came of a step. -/
inductive Answer where
  | admitted
  | turnedAway
  /-- A connection is refused, because the server has stopped. -/
  | refused
  /-- The server cannot be reached. -/
  | unreachable
  | reply (bytes : Bytes)
  /-- A client found its connection closed. -/
  | closed
  /-- A client waits for a reply to come. -/
  | waiting
  /-- A client has left. -/
  | gone
  | nothingToForget
  | noClient
  | released
  | notReleased (error : SlotError)
  | records (records : List ConnectionRecord)
  | stopped
  | alreadyStopped
  deriving DecidableEq, Repr

/-- A session after a step, with what came of it, what the server did and what it logged. -/
structure Progress (σ : Type) where
  session : Session σ
  answer : Answer
  trace : Trace
  log : Log.Record

namespace Session

variable {σ : Type}

/-- A server without clients, with a free slot for each connection that it can serve at once. -/
def new (address : SocketAddress) (reachable : Bool) (config : Config) (state : σ) :
    Session σ where
  address := address
  reachable := reachable
  slots := .new config.maxConnections.toNat
  clients := []
  accepting := true
  state := state

/-- The number of slots that are held. -/
def active (session : Session σ) : Nat :=
  session.slots.table.activeCount

def client? (session : Session σ) (name : String) : Option Client :=
  session.clients.lookup name

def without (session : Session σ) (name : String) : Session σ :=
  { session with clients := session.clients.filter fun (n, _) => n != name }

/-- The session with a client in a new state. -/
def update (session : Session σ) (name : String) (client : Client) : Session σ :=
  { session with
    clients := session.clients.map fun (n, old) => (n, if n = name then client else old) }

/-- A step that changes nothing. -/
def unchanged (session : Session σ) (answer : Answer) : Progress σ :=
  ⟨session, answer, [], []⟩

/-- A client connects. Allocating the slot decides whether it is admitted. -/
def connect (session : Session σ) (name : String) (peer : Option IpAddress) : Progress σ :=
  if !session.reachable then session.unchanged .unreachable
  else if !session.accepting then session.unchanged .refused
  else
    match session.slots.step (.allocate peer) with
    | (slots, .leased lease record) =>
      let client := Client.served { lease, record }
      ⟨{ session with slots, clients := session.clients ++ [(name, client)] }, .admitted, [],
        [(.accept, .slotAllocated record), (.accept, .admitted record),
          (.worker record.slot, .connectionOpened record)]⟩
    | (slots, .refused error) =>
      ⟨{ session with slots, clients := session.clients ++ [(name, .turnedAway)] }, .turnedAway,
        [], [(.accept, .rejecting error)]⟩
    | (slots, _) => ({ session with slots }).unchanged .turnedAway

/-- Lets the worker of a client serve the next pieces of what the client sent: the client with the
replies to them. The client is there, so each reply can be sent. -/
def servePieces (host : Capabilities σ) (client : Served) (state : σ) :
    List Transfer.Piece → Outcome σ Served
  | [] => ⟨client, state, []⟩
  | piece :: pieces =>
    let handled := Worker.handle host client.record piece.bytes {} state
    let client :=
      { client with
        processed := client.processed + 1
        unread := client.unread ++ [handled.trace.replies.flatten] }
    let later := servePieces host client handled.state pieces
    ⟨later.value, later.state, handled.trace ++ later.trace⟩

/-- The events that a worker logs while it serves. -/
def workerLog (client : Served) (trace : Trace) : Log.Record :=
  trace.events.map fun event => (.worker client.record.slot, event)

/-- A client sends bytes, and its worker receives what the stream hands out to it, in pieces of at
most `bufferSize` bytes. -/
def deliver (host : Capabilities σ) (bufferSize : Nat) (session : Session σ) (name : String)
    (client : Served) (bytes : Bytes) (delivery : Delivery) : Served × Progress σ :=
  let sent := client.pending ++ bytes
  let arrived := sent.length - delivery.heldBack
  let intake := Transfer.intake bufferSize (Transfer.parts delivery.arrivals (sent.take arrived))
  let client := { client with pending := sent.drop arrived }
  let outcome := servePieces host client session.state intake.pieces
  let session := { session.update name (.served outcome.value) with state := outcome.state }
  (outcome.value, ⟨session, .waiting, outcome.trace, workerLog client outcome.trace⟩)

def readReply (session : Session σ) (name : String) (client : Served) : Session σ × Answer :=
  match client.unread with
  | [] => (session, .waiting)
  | reply :: unread => (session.update name (.served { client with unread }), .reply reply)

/-- A client sends bytes, none if it only waits, and reads one reply. -/
def exchange (host : Capabilities σ) (bufferSize : Nat) (session : Session σ) (name : String)
    (bytes : Bytes) (delivery : Delivery) : Progress σ :=
  match session.client? name with
  | none => session.unchanged .noClient
  | some .turnedAway => session.unchanged .closed
  | some (.served client) =>
    let (client, sent) := session.deliver host bufferSize name client bytes delivery
    let (session, answer) := sent.session.readReply name client
    { sent with session, answer }

/-- The worker of a client serves what is left to read to its end, and drops its lease. -/
def leave (host : Capabilities σ) (bufferSize : Nat) (session : Session σ) (name : String)
    (client : Served) (reads : ReadScript) (writes : WriteScript) : Progress σ :=
  let outcome := Worker.serve host client.record bufferSize reads writes session.state
  let (slots, answer) := session.slots.step (.drop client.lease)
  let processed := client.processed + outcome.value.processed
  let events := .connectionClosed client.record.slot processed :: answer.event?.toList
  ⟨{ session with slots, state := outcome.state }.without name, .gone, outcome.trace,
    workerLog client outcome.trace ++ events.map fun event => (.worker client.record.slot, event)⟩

def step (host : Capabilities σ) (bufferSize : Nat) (session : Session σ) : Step → Progress σ
  | .connect name peer => session.connect name peer
  | .send name bytes delivery => session.exchange host bufferSize name bytes delivery
  | .read name delivery => session.exchange host bufferSize name [] delivery
  | .finish name bytes arrivals =>
    match session.client? name with
    | none => session.unchanged .noClient
    | some .turnedAway => (session.without name).unchanged (.reply [])
    | some (.served client) =>
      let reads := Transfer.parts arrivals (client.pending ++ bytes)
      let left := session.leave host bufferSize name client reads {}
      { left with answer := .reply (client.unread.flatten ++ left.trace.replies.flatten) }
  | .disconnect name parting =>
    match session.client? name with
    | none => session.unchanged .noClient
    | some .turnedAway => (session.without name).unchanged .gone
    | some (.served client) =>
      let reads := Transfer.parts parting.arrivals client.pending ++
        parting.fault.toList.map ReadStep.fault
      session.leave host bufferSize name client reads parting.writes
  | .forget name =>
    match session.client? name with
    | some .turnedAway => (session.without name).unchanged .gone
    | _ => session.unchanged .nothingToForget
  | .release slot =>
    match session.slots.step (.release slot) with
    | (slots, .notReleased error) => ({ session with slots }).unchanged (.notReleased error)
    | (slots, _) => ({ session with slots }).unchanged .released
  | .records => session.unchanged (.records session.slots.table.activeRecords)
  | .stop =>
    if session.accepting then
      ⟨{ session with accepting := false }, .stopped, [],
        [(.accept, .acceptingStopped session.address)]⟩
    else session.unchanged .alreadyStopped

/-- A run of steps: the last session, the course of every step in order. -/
def run (host : Capabilities σ) (bufferSize : Nat) (session : Session σ) :
    List Step → List (Progress σ)
  | [] => []
  | first :: rest =>
    let progress := session.step host bufferSize first
    progress :: progress.session.run host bufferSize rest

/-- The session after a run that went like this. -/
def after (session : Session σ) (course : List (Progress σ)) : Session σ :=
  (course.getLast?.map Progress.session).getD session

/-- The steps by which all clients leave and the server is stopped. -/
def ending (session : Session σ) : List Step :=
  session.clients.map (fun (name, _) => .disconnect name) ++
    if session.accepting then [.stop] else []

end Session

end SlotServer.Server
