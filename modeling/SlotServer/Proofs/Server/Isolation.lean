import SlotServer.Capability.Scripted
import SlotServer.Proofs.Server.Steps
import SlotServer.Proofs.Slots.Table

/-!
# Isolation of clients

The clients of a server share its slots, the machine that commands are executed on and the server
itself. Still each of them sees what it would see if it were alone: the answers to its steps are a
function of these steps, and what it reads is the acknowledgements of what it sent itself.
-/

namespace SlotServer.Server

/-! ## A client alone -/

/-- What is under way between a client and its worker: what was sent and not yet received, and the
replies that were not yet read. -/
structure Channel where
  pending : Bytes := []
  unread : List Bytes := []
  deriving DecidableEq, Repr

namespace Delivery

/-- How many of the bytes that were sent arrive. -/
def arrived (delivery : Delivery) (sent : Bytes) : Nat :=
  sent.length - delivery.heldBack

/-- The pieces in which a worker receives what arrives. -/
def pieces (delivery : Delivery) (bufferSize : Nat) (sent : Bytes) : List Bytes :=
  let reads := Transfer.parts delivery.arrivals (sent.take (delivery.arrived sent))
  (Transfer.intake bufferSize reads).pieces.map Transfer.Piece.bytes

/-- What is still under way. -/
def rest (delivery : Delivery) (sent : Bytes) : Bytes :=
  sent.drop (delivery.arrived sent)

theorem flatten_pieces (delivery : Delivery) (bufferSize : Nat) (sent : Bytes) :
    (delivery.pieces bufferSize sent).flatten ++ delivery.rest sent = sent := by
  rw [pieces, Transfer.flatten_intake_parts, rest, List.take_append_drop]

theorem pieces_of_arrivals (arrivals : List Nat) (bufferSize : Nat) (sent : Bytes) :
    pieces { arrivals := arrivals } bufferSize sent =
      (Transfer.intake bufferSize (Transfer.parts arrivals sent)).pieces.map
        Transfer.Piece.bytes := by
  simp [pieces, arrived]

theorem rest_of_heldBack_eq_zero {delivery : Delivery} (h : delivery.heldBack = 0)
    (sent : Bytes) : delivery.rest sent = [] := by
  simp [rest, arrived, h]

end Delivery

namespace Step

/-- How what is under way arrives with a step, if anything does. Nothing is held back of what a
client has sent that leaves. -/
def delivery? : Step → Option Delivery
  | send _ _ delivery | read _ delivery => some delivery
  | finish _ _ arrivals => some { arrivals := arrivals }
  | disconnect _ parting => some { arrivals := parting.arrivals }
  | _ => none

/-- The pieces that arrive with a step, where `pending` was sent before. -/
def pieces (bufferSize : Nat) (pending : Bytes) (step : Step) : List Bytes :=
  step.delivery?.elim [] fun delivery => delivery.pieces bufferSize (pending ++ step.sent)

/-- What is still to arrive after a step. -/
def rest (pending : Bytes) (step : Step) : Bytes :=
  step.delivery?.elim pending fun delivery => delivery.rest (pending ++ step.sent)

/-- The replies to a client of this label that come of a step. -/
def replies (bufferSize : Nat) (label : String) (pending : Bytes) (step : Step) : List Bytes :=
  (step.pieces bufferSize pending).map (Worker.acknowledgement label)

/-- Whether a client leaves with a step. -/
def leaves : Step → Bool
  | finish _ _ _ | disconnect _ _ => true
  | _ => false

end Step

/-- What a client finds that reads one reply. -/
def firstReply (unread : List Bytes) : Answer :=
  (unread.head?.map Answer.reply).getD .waiting

/-- What a step is answered to a client of this label that nobody else can disturb, and what is then
under way. A client that has left has nothing under way, not even nothing. -/
def Step.alone (bufferSize : Nat) (label : String) (step : Step) :
    Option Channel → Option Channel × Answer
  | none =>
    match step with
    | forget _ => (none, .nothingToForget)
    | _ => (none, .noClient)
  | some channel =>
    let unread := channel.unread ++ step.replies bufferSize label channel.pending
    match step with
    | send _ _ _ | read _ _ => (some ⟨step.rest channel.pending, unread.tail⟩, firstReply unread)
    | finish _ _ _ => (none, .reply unread.flatten)
    | disconnect _ _ => (none, .gone)
    | _ => (some channel, .nothingToForget)

/-- What the steps of a client are answered, one after another. -/
def conversation (bufferSize : Nat) (label : String) : Option Channel → List Step → List Answer
  | _, [] => []
  | channel, step :: steps =>
    let next := step.alone bufferSize label channel
    next.2 :: conversation bufferSize label next.1 steps

/-- The steps of a client while it is there: all up to the one by which it leaves. -/
def stay : List Step → List Step
  | [] => []
  | step :: steps => if step.leaves then [step] else step :: stay steps

/-- Whether the client ends its side, and reads to the end. -/
def Finishes (steps : List Step) : Prop :=
  ∃ name bytes arrivals, .finish name bytes arrivals ∈ stay steps

/-- The pieces that arrive with some steps. -/
def pieces (bufferSize : Nat) : Bytes → List Step → List Bytes
  | _, [] => []
  | pending, step :: steps =>
    step.pieces bufferSize pending ++ pieces bufferSize (step.rest pending) steps

/-! ## What arrives -/

namespace Step

theorem flatten_pieces (bufferSize : Nat) (pending : Bytes) (step : Step) :
    (step.pieces bufferSize pending).flatten ++ step.rest pending = pending ++ step.sent := by
  cases step with
  | send name bytes delivery | read name delivery =>
      exact delivery.flatten_pieces bufferSize _
  | finish name bytes arrivals =>
      exact Delivery.flatten_pieces { arrivals := arrivals } bufferSize _
  | disconnect name parting =>
      have hpieces := Delivery.flatten_pieces { arrivals := parting.arrivals } bufferSize
      exact (hpieces (pending ++ [])).trans rfl
  | _ => simp [pieces, rest, delivery?, sent]

theorem pieces_bounded (bufferSize : Nat) (pending : Bytes) (step : Step) :
    ∀ piece ∈ step.pieces bufferSize pending,
      0 < piece.length ∧ piece.length ≤ max bufferSize 1 := by
  intro piece hpiece
  cases hdelivery : step.delivery? with
  | none => simp [pieces, hdelivery] at hpiece
  | some delivery =>
      simp only [pieces, hdelivery, Option.elim_some, Delivery.pieces] at hpiece
      obtain ⟨received, hreceived, rfl⟩ := List.mem_map.mp hpiece
      exact Transfer.intake_bounded bufferSize _ received hreceived

theorem pieces_eq_nil {step : Step} (h : step.delivery? = none) (bufferSize : Nat)
    (pending : Bytes) : step.pieces bufferSize pending = [] := by
  rw [pieces, h]
  rfl

theorem rest_of_delivered {step : Step} (h : ∀ delivery ∈ step.delivery?, delivery.heldBack = 0) :
    step.rest [] = [] := by
  rw [rest]
  cases hdelivery : step.delivery? with
  | none => rfl
  | some delivery => exact Delivery.rest_of_heldBack_eq_zero (h delivery hdelivery) _

end Step

/-- Of all that is sent a first part arrives, in order. -/
theorem flatten_pieces (bufferSize : Nat) (pending : Bytes) (steps : List Step) :
    (pieces bufferSize pending steps).flatten ++ steps.foldl Step.rest pending =
      pending ++ steps.flatMap Step.sent := by
  induction steps generalizing pending with
  | nil => simp [pieces]
  | cons step steps ih =>
      rw [pieces, List.flatten_append, List.append_assoc, List.foldl_cons, ih, ← List.append_assoc,
        step.flatten_pieces, List.append_assoc, List.flatMap_cons]

theorem pieces_bounded (bufferSize : Nat) (pending : Bytes) (steps : List Step) :
    ∀ piece ∈ pieces bufferSize pending steps,
      0 < piece.length ∧ piece.length ≤ max bufferSize 1 := by
  induction steps generalizing pending with
  | nil => simp [pieces]
  | cons step steps ih =>
      intro piece hpiece
      rcases List.mem_append.mp hpiece with hfirst | hrest
      · exact step.pieces_bounded bufferSize pending piece hfirst
      · exact ih _ piece hrest

theorem stay_cons_of_leaves {step : Step} (h : step.leaves = true) (steps : List Step) :
    stay (step :: steps) = [step] := by
  rw [stay, if_pos h]

theorem stay_cons_of_stays {step : Step} (h : step.leaves = false) (steps : List Step) :
    stay (step :: steps) = step :: stay steps := by
  rw [stay, if_neg (by simp [h])]

theorem Finishes.of_cons {step : Step} {steps : List Step} (h : Finishes (step :: steps))
    (hstays : step.leaves = false) : Finishes steps := by
  obtain ⟨name, bytes, arrivals, hmem⟩ := h
  rw [stay_cons_of_stays hstays] at hmem
  rcases List.mem_cons.mp hmem with rfl | hlater
  · cases hstays
  · exact ⟨name, bytes, arrivals, hlater⟩

/-- Nothing is left to arrive of a client that has left. -/
theorem rest_of_leaves {steps : List Step} (h : ∃ step ∈ stay steps, step.leaves = true)
    (pending : Bytes) : (stay steps).foldl Step.rest pending = [] := by
  induction steps generalizing pending with
  | nil =>
      obtain ⟨_, hmem, -⟩ := h
      cases hmem
  | cons step steps ih =>
      cases hleaves : step.leaves with
      | true =>
          rw [stay_cons_of_leaves hleaves]
          cases step with
          | finish name bytes arrivals | disconnect name parting =>
              exact Delivery.rest_of_heldBack_eq_zero rfl _
          | _ => cases hleaves
      | false =>
          rw [stay_cons_of_stays hleaves] at h ⊢
          obtain ⟨leaving, hmem, hlast⟩ := h
          rcases List.mem_cons.mp hmem with rfl | hlater
          · simp [hleaves] at hlast
          · exact ih ⟨leaving, hlater, hlast⟩ _

theorem rest_of_delivered {steps : List Step}
    (h : ∀ step ∈ steps, ∀ delivery ∈ step.delivery?, delivery.heldBack = 0) :
    steps.foldl Step.rest [] = [] := by
  induction steps with
  | nil => rfl
  | cons step steps ih =>
      obtain ⟨hstep, hrest⟩ := List.forall_mem_cons.mp h
      rw [List.foldl_cons, Step.rest_of_delivered hstep, ih hrest]

/-! ## What a client alone reads -/

section Alone

variable (bufferSize : Nat) (label : String)

theorem received_conversation_none (steps : List Step) :
    (conversation bufferSize label none steps).flatMap Answer.received = [] := by
  induction steps with
  | nil => rfl
  | cons step steps ih =>
      have hstep : (step.alone bufferSize label none).1 = none ∧
          (step.alone bufferSize label none).2.received = [] := by
        cases step <;> exact ⟨rfl, rfl⟩
      rw [conversation, List.flatMap_cons, hstep.1, hstep.2, ih, List.append_nil]

/-- Reading one reply takes it off those that wait. -/
theorem received_firstReply (unread : List Bytes) :
    (firstReply unread).received ++ unread.tail.flatten = unread.flatten := by
  cases unread <;> rfl

/-- As long as a client stays, what it reads with a step is taken off the replies that have come for
it. -/
theorem alone_of_stays {step : Step} (h : step.leaves = false) (channel : Channel) :
    ∃ next, (step.alone bufferSize label (some channel)).1 = some next ∧
      next.pending = step.rest channel.pending ∧
      (step.alone bufferSize label (some channel)).2.received ++ next.unread.flatten =
        (channel.unread ++ step.replies bufferSize label channel.pending).flatten := by
  cases step with
  | send name bytes delivery | read name delivery =>
      exact ⟨_, rfl, rfl, received_firstReply _⟩
  | finish name bytes arrivals | disconnect name parting => cases h
  | connect _ _ | forget _ | release _ | records | stop =>
      refine ⟨channel, rfl, rfl, ?_⟩
      rw [Step.replies, Step.pieces_eq_nil rfl, List.map_nil, List.append_nil]
      rfl

/-- The replies that have come for a client are those it has read, followed by those it has not. If
it ends its side and reads to the end, there are none of these. -/
theorem received_conversation (channel : Channel) (steps : List Step) :
    ∃ rest, (conversation bufferSize label (some channel) steps).flatMap Answer.received ++ rest =
        (channel.unread ++ (pieces bufferSize channel.pending (stay steps)).map
          (Worker.acknowledgement label)).flatten ∧
      (Finishes steps → rest = []) := by
  induction steps generalizing channel with
  | nil =>
      refine ⟨channel.unread.flatten, by simp [conversation, stay, pieces], ?_⟩
      simp [Finishes, stay]
  | cons step steps ih =>
      cases hleaves : step.leaves with
      | true =>
          rw [Finishes, stay_cons_of_leaves hleaves, conversation, pieces, pieces, List.append_nil]
          cases step with
          | finish name bytes arrivals =>
              refine ⟨[], ?_, fun _ => rfl⟩
              simp [Step.alone, Step.replies, received_conversation_none, Answer.received]
          | disconnect name parting =>
              let replies := (Step.disconnect name parting).replies bufferSize label channel.pending
              refine ⟨(channel.unread ++ replies).flatten, ?_, by simp⟩
              simp only [Step.alone, received_conversation_none, List.flatMap_cons]
              rfl
          | _ => cases hleaves
      | false =>
          obtain ⟨next, hnext, hpending, hread⟩ := alone_of_stays bufferSize label hleaves channel
          obtain ⟨rest, hrest, hfinish⟩ := ih next
          refine ⟨rest, ?_, fun h => hfinish (h.of_cons hleaves)⟩
          rw [List.flatten_append] at hrest
          rw [stay_cons_of_stays hleaves, conversation, hnext, List.flatMap_cons,
            List.append_assoc, hrest, ← List.append_assoc, hread, hpending, pieces]
          simp [Step.replies]

end Alone

/-- What is true of the steps of a client of this label and the answers to them: the answers are a
function of the steps alone, and what the client reads is, in order, what the acknowledgements of
the pieces of its own bytes begin with. It is all of them if the client ended its side. -/
structure Isolated (bufferSize : Nat) (label : String) (steps : List Step)
    (answers : List Answer) : Prop where
  answers_eq : answers = conversation bufferSize label (some {}) steps
  pieces_eq : ∀ step ∈ steps, ∀ pending,
    (step.pieces bufferSize pending).flatten ++ step.rest pending = pending ++ step.sent ∧
      ∀ piece ∈ step.pieces bufferSize pending, 0 < piece.length ∧ piece.length ≤ max bufferSize 1
  pieces_bounded : ∀ piece ∈ pieces bufferSize [] (stay steps),
    0 < piece.length ∧ piece.length ≤ max bufferSize 1
  pieces_prefix : (pieces bufferSize [] (stay steps)).flatten <+: (stay steps).flatMap Step.sent
  /-- All that the client sent arrives once it has left, or if nothing is held back. -/
  pieces_whole : ((∃ step ∈ stay steps, step.leaves = true) ∨
      ∀ step ∈ stay steps, ∀ delivery ∈ step.delivery?, delivery.heldBack = 0) →
    (pieces bufferSize [] (stay steps)).flatten = (stay steps).flatMap Step.sent
  received_prefix : answers.flatMap Answer.received <+:
    ((pieces bufferSize [] (stay steps)).map (Worker.acknowledgement label)).flatten
  received_eq : Finishes steps → answers.flatMap Answer.received =
    ((pieces bufferSize [] (stay steps)).map (Worker.acknowledgement label)).flatten

theorem isolated_conversation (bufferSize : Nat) (label : String) (steps : List Step) :
    Isolated bufferSize label steps (conversation bufferSize label (some {}) steps) := by
  obtain ⟨rest, hrest, hfinish⟩ := received_conversation bufferSize label {} steps
  have hpieces := flatten_pieces bufferSize [] (stay steps)
  rw [List.nil_append] at hrest hpieces
  refine ⟨rfl, ?_, pieces_bounded bufferSize [] (stay steps), ⟨_, hpieces⟩, ?_, ⟨rest, hrest⟩, ?_⟩
  · exact fun step _ pending =>
      ⟨step.flatten_pieces bufferSize pending, step.pieces_bounded bufferSize pending⟩
  · intro hall
    have hnone : (stay steps).foldl Step.rest [] = [] :=
      hall.elim (fun h => rest_of_leaves h []) rest_of_delivered
    rw [← hpieces, hnone, List.append_nil]
  · intro hleft
    rw [← hrest, hfinish hleft, List.append_nil]

/-! ## A client among others -/

namespace Session

variable {σ : Type} (host : Capabilities σ) (bufferSize : Nat) {session : Session σ}
  {name label : String}

/-- What is under way of a client of this label, or that there is no such client. -/
def Shows (session : Session σ) (name label : String) : Option Channel → Prop
  | none => session.client? name = none
  | some channel => ∃ client : Served, session.client? name = some (.served client) ∧
      client.pending = channel.pending ∧ client.unread = channel.unread ∧
        client.record.peerLabel = label

theorem readReply_answer (client : Served) :
    (session.readReply name client).2 = firstReply client.unread := by
  unfold readReply
  split
  next hunread => rw [hunread]; rfl
  next reply unread hunread => rw [hunread]; rfl

/-- What arrives of the bytes of a client becomes replies that wait for it. -/
theorem deliver_value (session : Session σ) (host : Capabilities σ) (bufferSize : Nat)
    (name : String) (client : Served) (bytes : Bytes) (delivery : Delivery) :
    (session.deliver host bufferSize name client bytes delivery).1 =
      { client with
        processed := client.processed +
          (delivery.pieces bufferSize (client.pending ++ bytes)).length
        pending := delivery.rest (client.pending ++ bytes)
        unread := client.unread ++ (delivery.pieces bufferSize (client.pending ++ bytes)).map
          (Worker.acknowledgement client.record.peerLabel) } := by
  simp [deliver, servePieces_value, Delivery.pieces, Delivery.rest, Delivery.arrived,
    Worker.acknowledgements]

theorem Shows.exchange {channel : Channel} (h : session.Shows name label (some channel))
    (bytes : Bytes) (delivery : Delivery) :
    let unread := channel.unread ++ (delivery.pieces bufferSize (channel.pending ++ bytes)).map
      (Worker.acknowledgement label)
    let progress := session.exchange host bufferSize name bytes delivery
    progress.answer = firstReply unread ∧
      progress.session.Shows name label
        (some ⟨delivery.rest (channel.pending ++ bytes), unread.tail⟩) := by
  intro unread progress
  obtain ⟨client, hclient, hpending, hunread, hlabel⟩ := h
  have hvalue := deliver_value session host bufferSize name client bytes delivery
  rw [hpending, hunread, hlabel] at hvalue
  have hsent : (session.deliver host bufferSize name client bytes delivery).2.session.client? name =
      some (.served (session.deliver host bufferSize name client bytes delivery).1) := by
    rw [client?_deliver, if_pos rfl, hclient]
    rfl
  simp only [progress, Session.exchange, hclient]
  refine ⟨?_, _, client?_readReply_self _ hsent, ?_⟩
  · rw [readReply_answer, hvalue]
  · rw [hvalue]
    exact ⟨rfl, rfl, hlabel⟩

/-- A client that ends its side reads the replies to all that it has sent. -/
theorem Shows.finish {channel : Channel} (h : session.Shows name label (some channel))
    (bytes : Bytes) (arrivals : List Nat) :
    let step := Step.finish name bytes arrivals
    let progress := session.step host bufferSize step
    progress.answer =
        .reply (channel.unread ++ step.replies bufferSize label channel.pending).flatten ∧
      progress.session.client? name = none := by
  intro step progress
  obtain ⟨client, hclient, hpending, hunread, hlabel⟩ := h
  simp only [progress, step, Session.step, hclient]
  refine ⟨?_, ?_⟩
  · simp only [leave, replies_serve, hpending, hunread, hlabel, List.flatten_append]
    simp [Step.replies, Step.pieces, Step.delivery?, Step.sent, Delivery.pieces_of_arrivals,
      Worker.acknowledgements, Function.comp_def]
  · exact (client?_leave session host bufferSize _ _).trans (if_pos rfl)

/-- A step of a client is answered as if the client were alone. -/
theorem Shows.step {channel : Option Channel} (h : session.Shows name label channel) {step : Step}
    (hstep : step.isBy name) (hconnect : ∀ peer, step ≠ .connect name peer) :
    (session.step host bufferSize step).answer = (step.alone bufferSize label channel).2 ∧
      (session.step host bufferSize step).session.Shows name label
        (step.alone bufferSize label channel).1 := by
  rw [Step.isBy_iff] at hstep
  cases channel with
  | none =>
      cases step with
      | connect other peer =>
          obtain rfl : other = name := Option.some.inj hstep
          exact absurd rfl (hconnect peer)
      | send other bytes delivery | read other delivery =>
          obtain rfl : other = name := Option.some.inj hstep
          have hnone : session.client? other = none := h
          simp only [Session.step, Session.exchange, hnone]
          exact ⟨rfl, h⟩
      | finish other bytes arrivals | disconnect other parting | forget other =>
          obtain rfl : other = name := Option.some.inj hstep
          have hnone : session.client? other = none := h
          simp only [Session.step, hnone]
          exact ⟨rfl, h⟩
      | release slot | records | stop => cases hstep
  | some channel =>
      cases step with
      | connect other peer =>
          obtain rfl : other = name := Option.some.inj hstep
          exact absurd rfl (hconnect peer)
      | send other bytes delivery =>
          obtain rfl : other = name := Option.some.inj hstep
          exact h.exchange host bufferSize bytes delivery
      | read other delivery =>
          obtain rfl : other = name := Option.some.inj hstep
          exact h.exchange host bufferSize [] delivery
      | finish other bytes arrivals =>
          obtain rfl : other = name := Option.some.inj hstep
          exact h.finish host bufferSize bytes arrivals
      | disconnect other parting =>
          obtain rfl : other = name := Option.some.inj hstep
          obtain ⟨client, hclient, -⟩ := h
          simp only [Session.step, hclient, Step.alone]
          exact ⟨rfl, (client?_leave session host bufferSize _ _).trans (if_pos rfl)⟩
      | forget other =>
          obtain rfl : other = name := Option.some.inj hstep
          obtain ⟨client, hclient, hrest⟩ := h
          simp only [Session.step, hclient, Step.alone]
          exact ⟨rfl, client, hclient, hrest⟩
      | release slot | records | stop => cases hstep

theorem Shows.of_client?_eq {other : Session σ} {channel : Option Channel}
    (h : session.Shows name label channel)
    (hclient : other.client? name = session.client? name) : other.Shows name label channel := by
  cases channel with
  | none => exact hclient.trans h
  | some channel =>
      obtain ⟨client, hserved, hrest⟩ := h
      exact ⟨client, hclient.trans hserved, hrest⟩

/-- Among others, the steps of a client are answered as if it were alone. -/
theorem Shows.run {channel : Option Channel} (h : session.Shows name label channel)
    {steps : List Step} (hsteps : ∀ peer, .connect name peer ∉ steps) :
    (picked (Step.isBy name) steps (session.run host bufferSize steps)).map Progress.answer =
      conversation bufferSize label channel (steps.filter (Step.isBy name)) := by
  induction steps generalizing session channel with
  | nil => rfl
  | cons step steps ih =>
      obtain ⟨hconnect, hrest⟩ := Step.notMem_cons hsteps
      rw [picked_run_cons]
      cases hstep : step.isBy name with
      | true =>
          obtain ⟨hanswer, hnext⟩ := h.step host bufferSize hstep hconnect
          rw [List.filter_cons_of_pos hstep, conversation, ← hanswer, ← ih hnext hrest]
          rfl
      | false =>
          have hnext := h.of_client?_eq (client?_step_of_not_isBy session host bufferSize hstep)
          rw [List.filter_cons_of_neg (by simp [hstep]), ← ih hnext hrest]
          rfl

/-- A client that was admitted has nothing under way at first, and is known by its address. -/
theorem Shows.admitted {peer : IpAddress} (h : session.client? name = none)
    (hadmitted : (session.step host bufferSize (.connect name (some peer))).answer = .admitted) :
    (session.step host bufferSize (.connect name (some peer))).session.Shows name peer.text
      (some {}) := by
  have hconnects := connect_connects session name (some peer)
  rw [Session.step] at hadmitted ⊢
  generalize session.connect name (some peer) = progress at hconnects hadmitted
  cases hconnects with
  | unreachable _ | refused _ _ | turnedAway _ _ _ => cases hadmitted
  | @admitted record table _ _ ha =>
      obtain ⟨-, hrecord, -⟩ := (SlotTable.allocate_eq_ok_iff ..).mp ha
      refine ⟨_, client?_connected_self session _ h, rfl, rfl, ?_⟩
      rw [hrecord]
      rfl

theorem text_localPeer : localPeer.text = "127.0.0.1" := by
  decide

/-- Whatever else happens at a server, a client that was admitted is isolated from all others, from
the slot that it got and from what its own commands bring about. One on the same machine is called
by the address at which it reaches the server. -/
theorem run_isolated (host : Capabilities σ) (address : SocketAddress) (reachable : Bool)
    (config : Config) (state : σ) (before later : List Step) (name : String) (peer : IpAddress) :
    let bufferSize := config.bufferSize.toNat
    let start := (new address reachable config state).reached host bufferSize before
    let connected := start.step host bufferSize (.connect name (some peer))
    start.client? name = none → connected.answer = .admitted →
      (∀ other, .connect name other ∉ later) →
        Isolated bufferSize peer.text (later.filter (Step.isBy name))
          ((picked (Step.isBy name) later (connected.session.run host bufferSize later)).map
            Progress.answer) ∧
        localPeer.text = "127.0.0.1" := by
  intro bufferSize start connected hname hadmitted hlater
  have hshows := Shows.admitted host bufferSize hname hadmitted
  rw [hshows.run host bufferSize hlater]
  exact ⟨isolated_conversation bufferSize peer.text _, text_localPeer⟩

/-- Two clients in one slot: it was taken from the first by a direct release, and the first is still
served. The second sends in two parts, of which one arrives late. -/
theorem run_isolated_one_slot :
    let host : Capabilities Unit := (Script.mk [] .echo).capabilities
    let config : Config := { Config.default with maxConnections := 1, bufferSize := 4 }
    let start := (new ⟨localPeer, 8080, 0⟩ true config ()).reached host 4
      [.connect "alpha", .release 0]
    let connected := start.step host 4 (.connect "beta" (some localPeer))
    let later : List Step := [.send "alpha" [0x47, 0x45, 0x54, 0x0A],
      .send "beta" [1, 2, 3, 4, 5] { arrivals := [1], heldBack := 2 }, .disconnect "alpha",
      .finish "beta" [6]]
    start.client? "beta" = none ∧ connected.answer = .admitted ∧
      (∀ other, .connect "beta" other ∉ later) ∧
      Isolated 4 "127.0.0.1" (later.filter (Step.isBy "beta"))
        ((picked (Step.isBy "beta") later (connected.session.run host 4 later)).map
          Progress.answer) := by
  intro host config start connected later
  have hname : start.client? "beta" = none := by decide
  have hadmitted : connected.answer = .admitted := by decide
  have hlater : ∀ other, .connect "beta" other ∉ later := by simp [later]
  obtain ⟨hisolated, hlabel⟩ := run_isolated host ⟨localPeer, 8080, 0⟩ true config ()
    [.connect "alpha", .release 0] later "beta" localPeer hname hadmitted hlater
  rw [hlabel] at hisolated
  exact ⟨hname, hadmitted, hlater, hisolated⟩

end Session

end SlotServer.Server
