import SlotServer.Capability.Scripted
import SlotServer.Command.Record
import SlotServer.Proofs.Dispatch.Confinement
import SlotServer.Proofs.Transfer.Losses

/-!
# Retrieving a file

A retrieve command hands its file to the sink in the one list of chunks that the content of the file
is cut into. How the reads hand the content out, and where the buffer is refilled between them, does
not show. If a read fails, the sink lacks the bytes of one chunk that was not complete, and nothing
else that was read.
-/

namespace SlotServer

namespace Dispatch

/-- The bytes that the buffer of a file being retrieved has room for. -/
def bufferBytes : Nat := 8192

end Dispatch

open Transfer

/-- A retrieve command announces itself, opens its path, hands the chunks to the sink and logs the
fault that ended the reading, if one did. -/
theorem dispatch_retrieve_opened {σ : Type} {host : Capabilities σ} {command : Command} {state : σ}
    {script : ReadScript} (hkind : command.kind = .retrieve)
    (hopen : (host.openFile command.argument state).1 = .ok script) :
    (dispatch host command state).trace =
      [.began command,
        .logged (.dispatching .retrieve (Utf8.encodeString command.argument).length),
        .opened command.argument] ++
        (chunks (some Dispatch.chunkBytes) script).chunks.map .retrieved ++
        ((chunks (some Dispatch.chunkBytes) script).fault.map fun fault =>
          Action.logged (.retrieveInterrupted command.argument fault)).toList := by
  simp [dispatch, Dispatch.execute, Dispatch.retrieve, hkind, hopen]

theorem dispatch_retrieve {σ : Type} {host : Capabilities σ} {command : Command} {state : σ}
    {script : ReadScript} (hkind : command.kind = .retrieve)
    (hopen : (host.openFile command.argument state).1 = .ok script)
    (hfault : (chunks (some Dispatch.chunkBytes) script).fault = none) :
    (dispatch host command state).trace =
      [.began command,
        .logged (.dispatching .retrieve (Utf8.encodeString command.argument).length),
        .opened command.argument] ++
        (chunks (some Dispatch.chunkBytes) script).chunks.map .retrieved := by
  simp [dispatch_retrieve_opened hkind hopen, hfault]

/-- If its path cannot be opened, a retrieve command says so and does nothing else. -/
theorem dispatch_retrieve_unopened {σ : Type} {host : Capabilities σ} {command : Command}
    {state : σ} {fault : Fault} (hkind : command.kind = .retrieve)
    (hopen : (host.openFile command.argument state).1 = .error fault) :
    (dispatch host command state).trace =
      [.began command,
        .logged (.dispatching .retrieve (Utf8.encodeString command.argument).length),
        .opened command.argument, .logged (.retrieveSkipped command.argument fault)] := by
  simp [dispatch, Dispatch.execute, Dispatch.retrieve, hkind, hopen]

/-- The content of a file decides the chunks that retrieving it hands to the sink. They are the
only chunks of at most 1023 bytes that the content is cut into, and those that reading through the
buffer gives, however the content is handed out. -/
theorem dispatch_retrieve_chunked (content : Bytes) :
    ∃ chunks, Chunked Dispatch.chunkBytes content chunks ∧
      (∀ others, Chunked Dispatch.chunkBytes content others → others = chunks) ∧
      ∀ {σ : Type} (host : Capabilities σ) (command : Command) (state : σ) (script : ReadScript),
        command.kind = .retrieve → (host.openFile command.argument state).1 = .ok script →
        HandsOut script content →
        Retrieves Dispatch.bufferBytes Dispatch.chunkBytes ⟨[], script⟩ ⟨chunks, none⟩ ∧
          (dispatch host command state).trace =
            [.began command,
              .logged (.dispatching .retrieve (Utf8.encodeString command.argument).length),
              .opened command.argument] ++ chunks.map .retrieved := by
  have hchunked : Chunked Dispatch.chunkBytes content
      (chunksFrom (some Dispatch.chunkBytes) [] (content.map .byte)).chunks :=
    chunked_chunksFrom [] content (by decide) (by simp)
  refine ⟨_, hchunked, fun others ho => ho.unique hchunked, ?_⟩
  intro σ host command state script hkind hopen h
  obtain ⟨hfault, hchunks⟩ := h.chunks_chunked (by decide : 0 < Dispatch.chunkBytes)
  rw [hchunked.unique hchunks]
  refine ⟨?_, dispatch_retrieve hkind hopen hfault⟩
  rw [retrieves_iff (by decide) (by decide), ← hfault]

/-- Two lines, the first of which comes in two parts with an interruption between them. -/
theorem dispatch_retrieve_chunked_interrupted :
    let script : ReadScript :=
      [.data [0x61], .fault (.bare .interrupted), .data [0x62, 0x0A, 0x63], .data []]
    let host : Capabilities Unit := Script.capabilities ⟨[("f", { reads := script })], .echo⟩
    let command := Command.parse [0x47, 0x45, 0x54, 0x20, 0x66]
    command.kind = .retrieve ∧ (host.openFile command.argument ()).1 = .ok script ∧
      HandsOut script [0x61, 0x62, 0x0A, 0x63] ∧
      Retrieves Dispatch.bufferBytes Dispatch.chunkBytes ⟨[], script⟩
        ⟨[[0x61, 0x62, 0x0A], [0x63]], none⟩ ∧
      (dispatch host command ()).trace =
        [.began command, .logged (.dispatching .retrieve 1), .opened "f",
          .retrieved [0x61, 0x62, 0x0A], .retrieved [0x63]] := by
  intro script host command
  have hkind : command.kind = .retrieve := by decide +kernel
  have hargument : command.argument = "f" := by decide +kernel
  have hopen : (host.openFile command.argument ()).1 = .ok script := by
    rw [hargument]
    rfl
  have hout : HandsOut script [0x61, 0x62, 0x0A, 0x63] :=
    .data (by simp) (.interrupted rfl (.data (by simp) (.ended .exhausted)))
  have hchunked : Chunked Dispatch.chunkBytes [0x61, 0x62, 0x0A, 0x63]
      [[0x61, 0x62, 0x0A], [0x63]] := by
    constructor <;> decide
  obtain ⟨chunks, -, hunique, hretrieve⟩ := dispatch_retrieve_chunked [0x61, 0x62, 0x0A, 0x63]
  obtain rfl := hunique _ hchunked
  obtain ⟨hretrieves, htrace⟩ := hretrieve host command () script hkind hopen hout
  refine ⟨hkind, hopen, hout, hretrieves, ?_⟩
  rw [htrace, hargument]
  rfl

/-! ## Reads that fail -/

/-- What an account of reading a file has to be that is retrieved: the chunks that were handed to
the sink are all that the read calls gave but for the bytes that are lost, and bytes are lost only
if a read call failed. -/
structure RetrievalSpec (script : ReadScript) (reading : Reading) : Prop where
  reads : Reads Dispatch.bufferBytes Dispatch.chunkBytes [] script reading
  only : ∀ other, Reads Dispatch.bufferBytes Dispatch.chunkBytes [] script other → other = reading
  retrieves : Retrieves Dispatch.bufferBytes Dispatch.chunkBytes ⟨[], script⟩
    ⟨reading.chunks, reading.fault⟩
  bounded : ∀ chunk ∈ reading.chunks, 0 < chunk.length ∧ chunk.length ≤ 1023
  newline_last : ∀ chunk ∈ reading.chunks, newline ∉ chunk.dropLast
  flatten_eq : reading.chunks.flatten ++ reading.lost = reading.calls.flatMap ReadStep.bytes
  lost_eq_nil : reading.fault = none → reading.lost = []
  lost_short : reading.lost.length < 1023
  lost_line : newline ∉ reading.lost
  /-- The first fault that is no interruption ends the reading. -/
  interrupted : ∀ fault, .fault fault ∈ reading.calls → fault.isInterrupted = true
  /-- A read call that gave nothing, and was not the last, ended the chunk that was pending and did
  nothing else. -/
  paused : ∀ before after, reading.calls = before ++ .data [] :: after →
    ∃ early chunk late, chunk ≠ [] ∧ Gathers Dispatch.chunkBytes [] before early chunk ∧
      Gathers Dispatch.chunkBytes [] after late reading.lost ∧
      reading.chunks = early ++ chunk :: late

theorem retrievalSpec_of_reads {script : ReadScript} {reading : Reading}
    (h : Reads Dispatch.bufferBytes Dispatch.chunkBytes [] script reading)
    (hcut : chunks (some Dispatch.chunkBytes) script = ⟨reading.chunks, reading.fault⟩) :
    RetrievalSpec script reading := by
  have hnil : Unfinished Dispatch.chunkBytes [] := unfinished_nil (by decide)
  have hbounded := h.gathered.bounded hnil
  have hlost := h.gathered.unfinished hnil
  refine ⟨h, fun other ho => h.unique ho, ?_, fun chunk hc => (hbounded chunk hc).1,
    fun chunk hc => (hbounded chunk hc).2, ?_, ?_, hlost.length_lt, hlost.newline_notMem,
    h.gathered.interrupted, ?_⟩
  · exact (retrieves_iff (by decide) (by decide) script _).mpr hcut
  · simpa using h.gathered.flatten_eq
  · intro hfault
    have hstopped := h.stopped
    rw [hfault] at hstopped
    exact hstopped.eq_nil
  · intro before after hcalls
    have hgathered := h.gathered
    rw [hcalls] at hgathered
    exact hgathered.paused

/-- Retrieving a file loses at most the bytes of one chunk that was not complete, and these only if
a read call failed; that is logged once, and so is a path that cannot be opened. -/
theorem dispatch_retrieve_accounted {σ : Type} (host : Capabilities σ) (command : Command)
    (state : σ) (hkind : command.kind = .retrieve) :
    (∀ fault, (host.openFile command.argument state).1 = .error fault →
      (dispatch host command state).trace =
        [.began command,
          .logged (.dispatching .retrieve (Utf8.encodeString command.argument).length),
          .opened command.argument, .logged (.retrieveSkipped command.argument fault)] ∧
      (dispatch host command state).trace.messages = ["dispatching command", "retrieve skipped"]) ∧
    ∀ script, (host.openFile command.argument state).1 = .ok script →
      ∃ reading, RetrievalSpec script reading ∧
        (dispatch host command state).trace =
          [.began command,
            .logged (.dispatching .retrieve (Utf8.encodeString command.argument).length),
            .opened command.argument] ++ reading.chunks.map .retrieved ++
          (reading.fault.map fun fault =>
            Action.logged (.retrieveInterrupted command.argument fault)).toList ∧
        (dispatch host command state).trace.messages =
          "dispatching command" :: (reading.fault.map fun _ => "retrieve interrupted").toList := by
  refine ⟨?_, ?_⟩
  · intro fault hopen
    rw [dispatch_retrieve_unopened hkind hopen]
    exact ⟨rfl, rfl⟩
  · intro script hopen
    obtain ⟨reading, hreads, hcut⟩ := exists_reads (by decide : 0 < Dispatch.bufferBytes)
      (unfinished_nil (by decide : 0 < Dispatch.chunkBytes)) script
    rw [List.reverse_nil] at hcut
    have htrace := dispatch_retrieve_opened hkind hopen
    rw [chunks, hcut] at htrace
    refine ⟨reading, retrievalSpec_of_reads hreads hcut, htrace, ?_⟩
    have hchunks : Trace.messages (reading.chunks.map Action.retrieved) = [] := by
      simp [Trace.messages, Trace.events, Action.event?]
    rw [htrace, Trace.messages_append, Trace.messages_append, hchunks]
    cases reading.fault <;> rfl

/-- An empty read ends a chunk, an interruption does not show, and a fault loses the two bytes that
are pending. -/
theorem dispatch_retrieve_accounted_broken :
    let script : ReadScript :=
      [.data [0x61, 0x0A, 0x62], .data [], .data [0x63], .fault (.bare .interrupted),
        .data [0x64], .fault (.bare .brokenPipe), .data [0x65]]
    let host : Capabilities Unit := Script.capabilities ⟨[("f", { reads := script })], .echo⟩
    let command := Command.parse [0x47, 0x45, 0x54, 0x20, 0x66]
    let reading : Reading :=
      { calls := script.take 5
        stop := .fault (.bare .brokenPipe)
        chunks := [[0x61, 0x0A], [0x62]]
        lost := [0x63, 0x64]
        fault := some (.bare .brokenPipe) }
    command.kind = .retrieve ∧ (host.openFile command.argument ()).1 = .ok script ∧
      RetrievalSpec script reading ∧
      (dispatch host command ()).trace =
        [.began command, .logged (.dispatching .retrieve 1), .opened "f",
          .retrieved [0x61, 0x0A], .retrieved [0x62],
          .logged (.retrieveInterrupted "f" (.bare .brokenPipe))] := by
  intro script host command reading
  have hkind : command.kind = .retrieve := by decide +kernel
  have hargument : command.argument = "f" := by decide +kernel
  have hopen : (host.openFile command.argument ()).1 = .ok script := by
    rw [hargument]
    rfl
  have hline : Filled Dispatch.chunkBytes ([] ++ [0x61, 0x0A, 0x62]) [[0x61, 0x0A]] [0x62] :=
    ⟨by decide, by decide, by decide, by decide, ⟨by decide, by decide⟩⟩
  have hmore : Filled Dispatch.chunkBytes ([] ++ [0x63]) [] [0x63] :=
    filled_nil ⟨by decide, by decide⟩
  have hrest : Filled Dispatch.chunkBytes ([0x63] ++ [0x64]) [] [0x63, 0x64] :=
    filled_nil ⟨by decide, by decide⟩
  have hreads : Reads Dispatch.bufferBytes Dispatch.chunkBytes [] script reading := by
    refine ⟨?_, ?_, .failed rfl⟩
    · exact ⟨_, .next rfl (.next rfl (.next rfl (.next rfl (.next rfl (.next rfl .none)))))⟩
    · exact .next (.data (by decide) hline) (.next (.paused (by decide))
        (.next (.data (by decide) hmore) (.next (.repeated rfl)
          (.next (.data (by decide) hrest) .none))))
  obtain ⟨found, hspec, htrace, -⟩ :=
    (dispatch_retrieve_accounted host command () hkind).2 script hopen
  obtain rfl := hspec.only reading hreads
  refine ⟨hkind, hopen, hspec, ?_⟩
  rw [htrace, hargument]
  rfl

end SlotServer
