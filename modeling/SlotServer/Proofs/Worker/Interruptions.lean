import SlotServer.Capability.Scripted
import SlotServer.Proofs.Transfer.Interruptions
import SlotServer.Proofs.Worker.Exchange

/-!
# Interrupted service

Calls are interrupted on files as well as on connections. Executing a command on a machine with more
interruptions does the same in the same order and comes to the same, and so does serving a
connection with more interruptions; only what is left to read may hold more of them.
-/

namespace SlotServer

/-! ## Machines -/

/-- Two answers to opening or creating a path that leave the same state: the same refusal, or
scripts that are related. -/
inductive Answered {σ α : Type} (related : α → α → Prop) :
    Except Fault α × σ → Except Fault α × σ → Prop where
  | refused (fault : Fault) (state : σ) :
      Answered related (.error fault, state) (.error fault, state)
  | granted {script other : α} (h : related script other) (state : σ) :
      Answered related (.ok script, state) (.ok other, state)

/-- The second machine is the first one with more interruptions of reading and writing files. -/
structure Capabilities.Interrupted {σ : Type} (host other : Capabilities σ) : Prop where
  openFile : ∀ path state,
    Answered ReadScript.Interrupted (host.openFile path state) (other.openFile path state)
  createFile : ∀ path state,
    Answered WriteScript.Interrupted (host.createFile path state) (other.createFile path state)
  append : other.append = host.append
  run : other.run = host.run

/-! ## Commands -/

namespace Dispatch

variable {σ : Type} {host other : Capabilities σ}

theorem retrieve_interrupted (h : host.Interrupted other) (path : String) (state : σ) :
    retrieve other path state = retrieve host path state := by
  have hopened := h.openFile path state
  rw [retrieve, retrieve]
  generalize host.openFile path state = opened at hopened ⊢
  generalize other.openFile path state = again at hopened ⊢
  cases hopened with
  | refused fault later => rfl
  | granted hscript later => simp only [Transfer.chunks_interrupted _ hscript]

theorem fill_interrupted (h : host.Interrupted other) (path : String) {script again : WriteScript}
    (hscript : script.Interrupted again) (body : Bytes) (state : σ) :
    fill other path again body state = fill host path script body state := by
  have hwritten := Transfer.writeAll_interrupted hscript body
  have hflushed := Transfer.flush_interrupted hwritten.left
  simp only [fill, hwritten.accepted, hwritten.fault, hflushed.fault, h.append]

theorem store_interrupted (h : host.Interrupted other) (argument : String) (state : σ) :
    store other argument state = store host argument state := by
  rw [store, store]
  split
  next => rfl
  next path body _ =>
    have hcreated := h.createFile path state
    generalize host.createFile path state = created at hcreated ⊢
    generalize other.createFile path state = again at hcreated ⊢
    cases hcreated with
    | refused fault later => rfl
    | granted hscript later => simp only [fill_interrupted h path hscript]

theorem execute_interrupted (h : host.Interrupted other) (command : Command) (state : σ) :
    execute other command state = execute host command state := by
  rw [execute, execute]
  split
  next => rw [retrieve_interrupted h]
  next => rw [store_interrupted h]
  next => rw [run, run, h.run]
  next => rfl

end Dispatch

/-- Whatever a command does, it does the same on a machine with more interruptions. -/
theorem dispatch_interrupted {σ : Type} {host other : Capabilities σ} (h : host.Interrupted other)
    (command : Command) (state : σ) :
    dispatch other command state = dispatch host command state := by
  rw [dispatch, dispatch, Dispatch.execute_interrupted h]

/-! ## Connections -/

namespace Worker

/-- The same actions, the same state and the same number of records, with more interruptions in what
is left to read. -/
structure ServedAlike {σ : Type} (outcome other : Outcome σ Served) : Prop where
  trace : other.trace = outcome.trace
  state : other.state = outcome.state
  processed : other.value.processed = outcome.value.processed
  left : outcome.value.left.Interrupted other.value.left

variable {σ : Type} {host other : Capabilities σ}

theorem ServedAlike.before {later again : Outcome σ Served} (h : ServedAlike later again)
    (exchange : Exchange σ) : ServedAlike (exchange.before later) (exchange.before again) where
  trace := congrArg (exchange.actions ++ ·) h.trace
  state := h.state
  processed := congrArg (· + 1) h.processed
  left := h.left

/-- Interruptions do not show in an exchange. -/
theorem exchangeOf_interrupted (h : host.Interrupted other) (connection : ConnectionRecord)
    (record : Bytes) {writes again : WriteScript} (hwrites : writes.Interrupted again) (state : σ) :
    exchangeOf other connection record again state =
      exchangeOf host connection record writes state := by
  have hsent := Transfer.send_interrupted hwrites (acknowledgement connection.peerLabel record)
  rw [exchangeOf, exchangeOf, dispatch_interrupted h, hsent.accepted]

theorem servePieces_interrupted (h : host.Interrupted other) (connection : ConnectionRecord)
    {intake received : Transfer.Intake} (hintake : intake.Interrupted received)
    {pieces others : List Transfer.Piece}
    (hpieces : List.Forall₂ Transfer.Piece.Interrupted pieces others)
    {writes again : WriteScript} (hwrites : writes.Interrupted again) (state : σ) :
    ServedAlike (servePieces host connection intake pieces writes state)
      (servePieces other connection received others again state) := by
  -- The exchange of a piece is the same; what is left to read shows only if its reply fails.
  induction hpieces generalizing writes again state with
  | nil =>
      rw [servePieces, servePieces, hintake.ending]
      exact ⟨rfl, rfl, rfl, hintake.left⟩
  | @cons piece same pieces others hpiece _ ih =>
      have hsent := Transfer.send_interrupted hwrites
        (acknowledgement connection.peerLabel piece.bytes)
      have hexchange := exchangeOf_interrupted h connection piece.bytes hwrites state
      obtain ⟨bytes, left⟩ := same
      obtain rfl : bytes = piece.bytes := hpiece.bytes
      cases hfault : (Transfer.send writes
          (acknowledgement connection.peerLabel piece.bytes)).fault with
      | some fault =>
          rw [servePieces_of_fault host connection intake piece pieces state hfault,
            servePieces_of_fault other connection received ⟨piece.bytes, left⟩ others state
              (hsent.fault.trans hfault), hexchange, dispatch_interrupted h]
          exact ⟨rfl, rfl, rfl, hpiece.left⟩
      | none =>
          rw [servePieces_of_sent host connection intake piece pieces state hfault,
            servePieces_of_sent other connection received ⟨piece.bytes, left⟩ others state
              (hsent.fault.trans hfault), hexchange, dispatch_interrupted h]
          exact (ih hsent.left _).before _

/-- Serving a connection with more interruptions, on a machine with more interruptions. -/
theorem serve_interrupted (h : host.Interrupted other) (connection : ConnectionRecord)
    (bufferSize : Nat) {reads moreReads : ReadScript} (hreads : reads.Interrupted moreReads)
    {writes moreWrites : WriteScript} (hwrites : writes.Interrupted moreWrites) (state : σ) :
    ServedAlike (serve host connection bufferSize reads writes state)
      (serve other connection bufferSize moreReads moreWrites state) := by
  have hintake := Transfer.intake_interrupted bufferSize hreads
  exact servePieces_interrupted h connection hintake hintake.pieces hwrites state

end Worker

/-! ## Scripted machines -/

/-- The second script of a path is the first one with more interruptions. -/
structure FileScript.Interrupted (file other : FileScript) : Prop where
  openFault : other.openFault = file.openFault
  reads : file.reads.Interrupted other.reads
  createFault : other.createFault = file.createFault
  writes : file.writes.Interrupted other.writes

/-- The second script is the first one with more interruptions of reading and writing its files. -/
structure Script.Interrupted (script other : Script) : Prop where
  files : List.Forall₂ (fun entry again => again.1 = entry.1 ∧ entry.2.Interrupted again.2)
    script.files other.files
  runner : other.runner = script.runner

theorem lookup_interrupted {files others : List (String × FileScript)}
    (h : List.Forall₂ (fun entry again => again.1 = entry.1 ∧ entry.2.Interrupted again.2)
      files others) (path : String) :
    Option.Rel FileScript.Interrupted (files.lookup path) (others.lookup path) := by
  induction h with
  | nil => exact .none
  | @cons entry again files others hentry _ ih =>
      obtain ⟨name, file⟩ := entry
      obtain ⟨same, other⟩ := again
      obtain ⟨rfl, hfile⟩ : same = name ∧ file.Interrupted other := hentry
      rw [List.lookup_cons, List.lookup_cons]
      cases path == same with
      | true => exact .some hfile
      | false => exact ih

theorem Script.capabilities_interrupted {script other : Script} (h : script.Interrupted other)
    {σ : Type} : (script.capabilities : Capabilities σ).Interrupted other.capabilities where
  openFile path state := by
    have hlookup := lookup_interrupted h.files path
    simp only [capabilities, openFile]
    generalize script.files.lookup path = found at hlookup ⊢
    generalize other.files.lookup path = again at hlookup ⊢
    cases hlookup with
    | none => exact .refused _ _
    | some hfile =>
        simp only [hfile.openFault]
        split
        next => exact .refused _ _
        next => exact .granted hfile.reads _
  createFile path state := by
    have hlookup := lookup_interrupted h.files path
    simp only [capabilities, createFile]
    generalize script.files.lookup path = found at hlookup ⊢
    generalize other.files.lookup path = again at hlookup ⊢
    cases hlookup with
    | none => exact .granted ⟨.refl _, rfl⟩ _
    | some hfile =>
        simp only [hfile.createFault]
        split
        next => exact .refused _ _
        next => exact .granted hfile.writes _
  append := rfl
  run := by
    funext commandLine state
    simp only [capabilities, run, h.runner]

/-- Interruptions are invisible. However many of them are put into the scripts of the files, at any
places, every command does the same and comes to the same; and if more are put into what is read
from a connection and into how it answers writes, serving it does the same, processes as many
records, and differs in the interruptions that are left to read only. -/
theorem Script.interruptions_invisible {script other : Script} (h : script.Interrupted other)
    {σ : Type} (state : σ) :
    (∀ command,
      dispatch other.capabilities command state = dispatch script.capabilities command state) ∧
    ∀ connection bufferSize {reads moreReads : ReadScript} {writes moreWrites : WriteScript},
      reads.Interrupted moreReads → writes.Interrupted moreWrites →
      Worker.ServedAlike
        (Worker.serve script.capabilities connection bufferSize reads writes state)
        (Worker.serve other.capabilities connection bufferSize moreReads moreWrites state) := by
  have hmachine : (script.capabilities : Capabilities σ).Interrupted other.capabilities :=
    Script.capabilities_interrupted h
  exact ⟨fun command => dispatch_interrupted hmachine command state,
    fun connection bufferSize _ _ _ _ hreads hwrites =>
      Worker.serve_interrupted hmachine connection bufferSize hreads hwrites state⟩

/-- Interruptions in the middle of a line of a file, between the parts of a body and of an
acknowledgement, before and between records, and after the last call that is made. -/
theorem Script.interruptions_invisible_everywhere :
    let unread : ReadStep := .fault (.bare .interrupted)
    let unwritten : WriteStep := .fault (.bare .interrupted)
    let reset : ReadStep := .fault (.bare .connectionReset)
    let get : ReadStep := .data [0x47, 0x45, 0x54, 0x20, 0x66]
    let put : ReadStep := .data [0x50, 0x55, 0x54, 0x20, 0x67, 0x20, 0x78, 0x79]
    let script : Script :=
      ⟨[("f", { reads := [.data [0x61, 0x62], .data [0x63, 0x0A, 0x64]] }),
        ("g", { writes := { writes := [.atMost 1] } })], .echo⟩
    let other : Script :=
      ⟨[("f", { reads := [unread, .data [0x61, 0x62], unread, unread, .data [0x63, 0x0A, 0x64]] }),
        ("g", { writes := { writes := [unwritten, .atMost 1, unwritten, unwritten] } })], .echo⟩
    let reads := [get, put, reset, put]
    let moreReads := [unread, get, unread, unread, put, unread, reset, unread, put]
    let writes : WriteScript := { writes := [.atMost 3] }
    let moreWrites : WriteScript := { writes := [unwritten, .atMost 3, unwritten] }
    let connection := ConnectionRecord.new 0 none
    let command := Command.parse [0x47, 0x45, 0x54, 0x20, 0x66]
    let outcome := Worker.serve other.capabilities connection 64 moreReads moreWrites ()
    script.Interrupted other ∧ ReadScript.Interrupted reads moreReads ∧
      writes.Interrupted moreWrites ∧
      dispatch other.capabilities command () = dispatch script.capabilities command () ∧
      List.Sublist [.retrieved [0x61, 0x62, 0x63, 0x0A], .retrieved [0x64], .wrote [0x78],
        .wrote [0x79]] outcome.trace ∧
      outcome.trace.replies.length = 3 ∧ outcome.value.processed = 2 ∧
      outcome.value.left = [unread, put] := by
  intro unread unwritten reset get put script other reads moreReads writes moreWrites connection
    command outcome
  have hread : unread.isInterruption = true := by decide
  have hwrite : unwritten.isInterruption = true := by decide
  have hscript : script.Interrupted other := by
    refine ⟨.cons ⟨rfl, rfl, ?_, rfl, .refl _, rfl⟩
      (.cons ⟨rfl, rfl, .refl _, rfl, ?_, rfl⟩ .nil), rfl⟩
    · exact .inserted hread (.kept _ (.inserted hread (.inserted hread (.kept _ .nil))))
    · exact .inserted hwrite (.kept _ (.inserted hwrite (.inserted hwrite .nil)))
  have hreads : ReadScript.Interrupted reads moreReads :=
    .inserted hread (.kept _ (.inserted hread (.inserted hread (.kept _ (.inserted hread
      (.kept _ (.inserted hread (.kept _ .nil))))))))
  have hwrites : writes.Interrupted moreWrites :=
    ⟨.inserted hwrite (.kept _ (.inserted hwrite .nil)), rfl⟩
  obtain ⟨hdispatch, hserve⟩ := Script.interruptions_invisible hscript ()
  have halike := hserve connection 64 hreads hwrites
  refine ⟨hscript, hreads, hwrites, hdispatch command, ?_, ?_, ?_, ?_⟩
  · rw [halike.trace]
    decide +kernel
  · rw [halike.trace]
    decide +kernel
  · rw [halike.processed]
    decide +kernel
  · decide +kernel

end SlotServer
