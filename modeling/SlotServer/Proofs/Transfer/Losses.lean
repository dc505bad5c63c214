import SlotServer.Proofs.Transfer.Buffering

/-!
# What is lost of a file

A file is read call by call until a call fails, or gives nothing while no byte is pending. The rules
below say what one call makes of the bytes that are pending: which chunks it completes and which
bytes it leaves. What the calls gave is in the chunks but for the bytes that are pending at the end,
and of these there are none unless a call failed.
-/

namespace SlotServer.Transfer

/-! ## Rules -/

/-- Read calls one after another: what they give, and what is left to read after them. -/
inductive ReadCalls (size : Nat) : ReadScript → List ReadStep → ReadScript → Prop where
  | none {script} : ReadCalls size script [] script
  | next {script left last step steps} (h : readCall size script = (step, left))
      (later : ReadCalls size left steps last) : ReadCalls size script (step :: steps) last

/-- Bytes that a chunk may go on after. -/
structure Unfinished (limit : Nat) (bytes : Bytes) : Prop where
  length_lt : bytes.length < limit
  newline_notMem : newline ∉ bytes

/-- Some bytes cut into chunks that take no more, and what is pending after them. -/
structure Filled (limit : Nat) (bytes : Bytes) (chunks : List Bytes) (pending : Bytes) : Prop where
  flatten_eq : chunks.flatten ++ pending = bytes
  bounded : ∀ chunk ∈ chunks, 0 < chunk.length ∧ chunk.length ≤ limit
  newline_last : ∀ chunk ∈ chunks, newline ∉ chunk.dropLast
  complete : ∀ chunk ∈ chunks, chunk.getLast? = some newline ∨ chunk.length = limit
  unfinished : Unfinished limit pending

/-- What a read call makes of the bytes that are pending: the chunks that it completes, and what is
pending after it. -/
inductive Takes (limit : Nat) (pending : Bytes) : ReadStep → List Bytes → Bytes → Prop where
  /-- An interrupted call changes nothing. -/
  | repeated {fault} (hf : fault.isInterrupted = true) :
      Takes limit pending (.fault fault) [] pending
  /-- A call that gives nothing ends the chunk that is pending. -/
  | paused (hp : pending ≠ []) : Takes limit pending (.data []) [pending] []
  | data {bytes chunks next} (hb : bytes ≠ []) (h : Filled limit (pending ++ bytes) chunks next) :
      Takes limit pending (.data bytes) chunks next

/-- What successive read calls make of the bytes that are pending. -/
inductive Gathers (limit : Nat) : Bytes → List ReadStep → List Bytes → Bytes → Prop where
  | none {pending} : Gathers limit pending [] [] pending
  | next {pending next last step calls early late} (h : Takes limit pending step early next)
      (later : Gathers limit next calls late last) :
      Gathers limit pending (step :: calls) (early ++ late) last

/-- The read calls that reading stops at, and with which fault. -/
inductive Stops : Bytes → ReadStep → Option Fault → Prop where
  /-- A call that gives nothing while nothing is pending. -/
  | ended : Stops [] (.data []) none
  /-- A call that fails other than by an interruption, whatever is pending. -/
  | failed {pending fault} (hf : fault.isInterrupted = false) :
      Stops pending (.fault fault) (some fault)

/-- An account of reading a file. -/
structure Reading where
  /-- What the read calls gave before the last one. -/
  calls : List ReadStep
  /-- What the last read call gave. -/
  stop : ReadStep
  chunks : List Bytes
  /-- The bytes that were pending at the end. -/
  lost : Bytes
  fault : Option Fault

/-- Reading a script from a point on where some bytes are pending. -/
structure Reads (size limit : Nat) (pending : Bytes) (script : ReadScript) (reading : Reading) :
    Prop where
  made : ∃ left, ReadCalls size script (reading.calls ++ [reading.stop]) left
  gathered : Gathers limit pending reading.calls reading.chunks reading.lost
  stopped : Stops reading.lost reading.stop reading.fault

/-- The chunking with some chunks more in front. -/
def Chunking.behind (chunks : List Bytes) (chunking : Chunking) : Chunking :=
  { chunking with chunks := chunks ++ chunking.chunks }

/-! ## Cutting the bytes of one call -/

section Filled

variable {limit : Nat} {bytes pending : Bytes} {chunks : List Bytes} {chunk : Bytes}

theorem unfinished_nil (hlimit : 0 < limit) : Unfinished limit [] :=
  ⟨hlimit, List.not_mem_nil⟩

theorem filled_nil (h : Unfinished limit pending) : Filled limit pending [] pending where
  flatten_eq := rfl
  bounded := by simp
  newline_last := by simp
  complete := by simp
  unfinished := h

theorem Filled.cons (hb : 0 < chunk.length ∧ chunk.length ≤ limit)
    (hline : newline ∉ chunk.dropLast)
    (hc : chunk.getLast? = some newline ∨ chunk.length = limit)
    (h : Filled limit bytes chunks pending) :
    Filled limit (chunk ++ bytes) (chunk :: chunks) pending where
  flatten_eq := by rw [List.flatten_cons, List.append_assoc, h.flatten_eq]
  bounded := List.forall_mem_cons.mpr ⟨hb, h.bounded⟩
  newline_last := List.forall_mem_cons.mpr ⟨hline, h.newline_last⟩
  complete := List.forall_mem_cons.mpr ⟨hc, h.complete⟩
  unfinished := h.unfinished

/-- An unfinished chunk is no complete one. -/
theorem Unfinished.not_complete (h : Unfinished limit pending) :
    ¬(pending.getLast? = some newline ∨ pending.length = limit) := by
  rintro (hlast | hfull)
  · exact h.newline_notMem (List.mem_of_getLast? hlast)
  · exact Nat.ne_of_lt h.length_lt hfull

/-- If the bytes end here, what is pending is one chunk more. -/
theorem Filled.chunked (h : Filled limit bytes chunks pending) :
    Chunked limit bytes (chunks ++ if pending = [] then [] else [pending]) := by
  by_cases hp : pending = []
  · have hbytes := h.flatten_eq
    rw [hp, List.append_nil] at hbytes
    rw [if_pos hp, List.append_nil]
    exact ⟨hbytes, h.bounded, h.newline_last,
      fun chunk hc => h.complete chunk (List.dropLast_subset _ hc)⟩
  · have hlength := List.length_pos_iff.mpr hp
    have hline : newline ∉ pending.dropLast := fun hn =>
      h.unfinished.newline_notMem (List.dropLast_subset _ hn)
    rw [if_neg hp]
    refine ⟨by simpa using h.flatten_eq, ?_, ?_, ?_⟩
    · exact List.forall_mem_append.mpr ⟨h.bounded,
        List.forall_mem_singleton.mpr ⟨hlength, Nat.le_of_lt h.unfinished.length_lt⟩⟩
    · exact List.forall_mem_append.mpr ⟨h.newline_last, List.forall_mem_singleton.mpr hline⟩
    · rw [List.dropLast_concat]
      exact h.complete

/-- Bytes can be cut in one way only. -/
theorem Filled.unique {others : List Bytes} {rest : Bytes} (h : Filled limit bytes chunks pending)
    (ho : Filled limit bytes others rest) : others = chunks ∧ rest = pending := by
  have hsame := ho.chunked.unique h.chunked
  -- Bytes that are pending on one side only would be a complete chunk of the other side.
  by_cases hp : pending = [] <;> by_cases hr : rest = []
  · simp_all
  · have hmem : rest ∈ chunks := by
      rw [if_pos hp, if_neg hr, List.append_nil] at hsame
      rw [← hsame]
      exact List.mem_append_right _ List.mem_cons_self
    exact absurd (h.complete rest hmem) ho.unfinished.not_complete
  · have hmem : pending ∈ others := by
      rw [if_neg hp, if_pos hr, List.append_nil] at hsame
      rw [hsame]
      exact List.mem_append_right _ List.mem_cons_self
    exact absurd (ho.complete pending hmem) h.unfinished.not_complete
  · rw [if_neg hp, if_neg hr] at hsame
    obtain ⟨hchunks, hrest⟩ := List.append_inj' hsame rfl
    exact ⟨hchunks, List.singleton_inj.mp hrest⟩

/-- Bytes that arrive together are cut, and cutting goes on from what is pending after them. -/
theorem exists_filled (h : Unfinished limit pending) (bytes : Bytes) :
    ∃ chunks next, Filled limit (pending ++ bytes) chunks next ∧
      ∀ rest, chunksFrom (some limit) pending.reverse (bytes.map .byte ++ rest) =
        (chunksFrom (some limit) next.reverse rest).behind chunks := by
  induction bytes generalizing pending with
  | nil => exact ⟨[], pending, by simpa using filled_nil h, fun rest => rfl⟩
  | cons b bytes ih =>
      have hlength := h.length_lt
      by_cases hend : b = newline ∨ limit ≤ pending.length + 1
      -- The byte ends the chunk, and the next one starts with nothing pending.
      · obtain ⟨chunks, next, hfilled, hcut⟩ :=
          ih (unfinished_nil (Nat.zero_lt_of_lt h.length_lt))
        rw [List.reverse_nil] at hcut
        have hline : newline ∉ (pending ++ [b]).dropLast := by
          rw [List.dropLast_concat]
          exact h.newline_notMem
        have hc : (pending ++ [b]).getLast? = some newline ∨ (pending ++ [b]).length = limit := by
          rcases hend with rfl | hfull
          · exact .inl (by simp)
          · exact .inr (by simp; omega)
        refine ⟨(pending ++ [b]) :: chunks, next, ?_, ?_⟩
        · simpa using hfilled.cons (by simp; omega) hline hc
        · intro rest
          rw [List.map_cons, List.cons_append, chunksFrom, if_pos (by simpa using hend)]
          simp [Chunking.after, Chunking.behind, hcut rest]
      · have hnext : Unfinished limit (pending ++ [b]) := by
          refine ⟨by simp; omega, ?_⟩
          simp only [List.mem_append, List.mem_singleton, not_or]
          exact ⟨h.newline_notMem, fun hb => hend (.inl hb.symm)⟩
        obtain ⟨chunks, next, hfilled, hcut⟩ := ih hnext
        refine ⟨chunks, next, by simpa using hfilled, ?_⟩
        intro rest
        rw [List.map_cons, List.cons_append, chunksFrom, if_neg (by simpa using hend), ← hcut rest]
        simp

end Filled

/-! ## One call -/

section Call

variable {limit : Nat} {pending next : Bytes} {step : ReadStep} {chunks : List Bytes}

theorem Takes.flatten_eq (h : Takes limit pending step chunks next) :
    chunks.flatten ++ next = pending ++ step.bytes := by
  cases h with
  | repeated hf => simp [ReadStep.bytes]
  | paused hp => simp [ReadStep.bytes]
  | data hb hfilled => exact hfilled.flatten_eq

theorem Takes.unfinished (h : Takes limit pending step chunks next)
    (hpending : Unfinished limit pending) : Unfinished limit next := by
  cases h with
  | repeated hf => exact hpending
  | paused hp => exact unfinished_nil (Nat.zero_lt_of_lt hpending.length_lt)
  | data hb hfilled => exact hfilled.unfinished

theorem Takes.bounded (h : Takes limit pending step chunks next)
    (hpending : Unfinished limit pending) :
    ∀ chunk ∈ chunks, (0 < chunk.length ∧ chunk.length ≤ limit) ∧ newline ∉ chunk.dropLast := by
  cases h with
  | repeated hf => simp
  | paused hp =>
      have hline : newline ∉ pending.dropLast := fun hn =>
        hpending.newline_notMem (List.dropLast_subset _ hn)
      exact List.forall_mem_singleton.mpr
        ⟨⟨List.length_pos_iff.mpr hp, Nat.le_of_lt hpending.length_lt⟩, hline⟩
  | data hb hfilled =>
      exact fun chunk hc => ⟨hfilled.bounded chunk hc, hfilled.newline_last chunk hc⟩

theorem Takes.unique {others : List Bytes} {rest : Bytes} (h : Takes limit pending step chunks next)
    (ho : Takes limit pending step others rest) : others = chunks ∧ rest = next := by
  cases h with
  | repeated hf => cases ho with | repeated ho => exact ⟨rfl, rfl⟩
  | paused hp =>
      cases ho with
      | paused ho => exact ⟨rfl, rfl⟩
      | data ho _ => exact absurd rfl ho
  | data hb hfilled =>
      cases ho with
      | paused ho => exact absurd rfl hb
      | data ho hother => exact hfilled.unique hother

/-- Reading does not stop at a call that it goes on after. -/
theorem Takes.not_stops {fault : Option Fault} (h : Takes limit pending step chunks next) :
    ¬Stops pending step fault := by
  intro hs
  cases hs with
  | ended =>
      cases h with
      | paused hp => exact hp rfl
      | data hb hfilled => exact hb rfl
  | failed hf => cases h with | repeated ho => simp [hf] at ho

theorem Stops.unique {fault cause : Option Fault} (h : Stops pending step fault)
    (ho : Stops pending step cause) : cause = fault := by
  cases h <;> cases ho <;> rfl

/-- Bytes are pending at the end only if a call failed. -/
theorem Stops.eq_nil (h : Stops pending step none) : pending = [] := by
  cases h
  rfl

/-- Every call is taken or stopped at, and cutting what arrives follows it. -/
theorem takes_or_stops {size : Nat} {script left : ReadScript} (hsize : 0 < size)
    (hpending : Unfinished limit pending) (h : readCall size script = (step, left)) :
    (∃ chunks next, Takes limit pending step chunks next ∧
      chunksFrom (some limit) pending.reverse (arrivals script) =
        (chunksFrom (some limit) next.reverse (arrivals left)).behind chunks) ∨
    ∃ fault, Stops pending step fault ∧
      chunksFrom (some limit) pending.reverse (arrivals script) = ⟨[], fault⟩ := by
  match step with
  | .fault fault =>
      rw [arrivals_of_readCall_fault h, chunksFrom]
      cases hf : fault.isInterrupted with
      | true => exact .inl ⟨[], pending, .repeated hf, rfl⟩
      | false => exact .inr ⟨some fault, .failed hf, rfl⟩
  | .data [] =>
      rcases arrivals_of_readCall_nothing hsize h with ⟨hscript, hleft⟩ | hscript
      · by_cases hp : pending = []
        · exact .inr ⟨none, hp ▸ .ended, by simp [hscript, hp, chunksFrom]⟩
        · refine .inl ⟨[pending], [], .paused hp, ?_⟩
          simp [hscript, hleft, hp, chunksFrom, Chunking.behind]
      · by_cases hp : pending = []
        · exact .inr ⟨none, hp ▸ .ended, by simp [hscript, hp, chunksFrom]⟩
        · refine .inl ⟨[pending], [], .paused hp, ?_⟩
          simp [hscript, hp, chunksFrom, Chunking.behind, Chunking.after]
  | .data (b :: bytes) =>
      obtain ⟨chunks, next, hfilled, hcut⟩ := exists_filled hpending (b :: bytes)
      refine .inl ⟨chunks, next, .data (List.cons_ne_nil b bytes) hfilled, ?_⟩
      rw [arrivals_of_readCall_data h (List.cons_ne_nil b bytes), hcut]

end Call

/-! ## Successive calls -/

section Calls

variable {limit : Nat} {pending last : Bytes} {calls : List ReadStep} {chunks : List Bytes}

/-- What the calls gave is in the chunks, but for what is pending after them. -/
theorem Gathers.flatten_eq (h : Gathers limit pending calls chunks last) :
    chunks.flatten ++ last = pending ++ calls.flatMap ReadStep.bytes := by
  induction h with
  | none => simp
  | @next pending next last step calls early late h _ ih =>
      calc (early ++ late).flatten ++ last
          = early.flatten ++ next ++ calls.flatMap ReadStep.bytes := by
            rw [List.flatten_append, List.append_assoc, ih, List.append_assoc]
        _ = pending ++ (step :: calls).flatMap ReadStep.bytes := by
            rw [h.flatten_eq, List.flatMap_cons, List.append_assoc]

theorem Gathers.unfinished (h : Gathers limit pending calls chunks last)
    (hpending : Unfinished limit pending) : Unfinished limit last := by
  induction h with
  | none => exact hpending
  | next h _ ih => exact ih (h.unfinished hpending)

theorem Gathers.bounded (h : Gathers limit pending calls chunks last)
    (hpending : Unfinished limit pending) :
    ∀ chunk ∈ chunks, (0 < chunk.length ∧ chunk.length ≤ limit) ∧ newline ∉ chunk.dropLast := by
  induction h with
  | none => simp
  | next h _ ih =>
      exact List.forall_mem_append.mpr ⟨h.bounded hpending, ih (h.unfinished hpending)⟩

/-- Calls that reading went on after failed by interruptions only. -/
theorem Gathers.interrupted (h : Gathers limit pending calls chunks last) :
    ∀ fault, .fault fault ∈ calls → fault.isInterrupted = true := by
  induction h with
  | none => simp
  | next h _ ih =>
      intro fault hmem
      rcases List.mem_cons.mp hmem with heq | hmem
      · subst heq
        cases h with
        | repeated hf => exact hf
      · exact ih fault hmem

/-- The chunks of all calls are those of the first ones and then those of the rest. -/
theorem Gathers.split {first rest : List ReadStep}
    (h : Gathers limit pending (first ++ rest) chunks last) :
    ∃ early middle late, Gathers limit pending first early middle ∧
      Gathers limit middle rest late last ∧ chunks = early ++ late := by
  induction first generalizing pending chunks with
  | nil => exact ⟨[], pending, chunks, .none, h, rfl⟩
  | cons step first ih =>
      cases h with
      | @next _ next _ _ _ start chunks h later =>
          obtain ⟨early, middle, late, hfirst, hrest, rfl⟩ := ih later
          exact ⟨start ++ early, middle, late, .next h hfirst, hrest,
            (List.append_assoc start early late).symm⟩

/-- A call that gave nothing, and that reading went on after, ended the chunk that was pending and
did nothing else. -/
theorem Gathers.paused {before after : List ReadStep}
    (h : Gathers limit pending (before ++ .data [] :: after) chunks last) :
    ∃ early chunk late, chunk ≠ [] ∧ Gathers limit pending before early chunk ∧
      Gathers limit [] after late last ∧ chunks = early ++ chunk :: late := by
  obtain ⟨early, chunk, rest, hbefore, hrest, rfl⟩ := h.split
  cases hrest with
  | @next _ next _ _ _ _ late ht later =>
      cases ht with
      | paused hp => exact ⟨early, chunk, late, hp, hbefore, later, rfl⟩
      | data hb _ => exact absurd rfl hb

end Calls

/-! ## Whole files -/

section Files

variable {size limit : Nat} {pending next : Bytes} {script left : ReadScript} {step : ReadStep}
  {early : List Bytes} {reading : Reading}

theorem reads_of_stops {fault : Option Fault} (h : readCall size script = (step, left))
    (hs : Stops pending step fault) :
    Reads size limit pending script ⟨[], step, [], pending, fault⟩ :=
  ⟨⟨left, .next h .none⟩, .none, hs⟩

theorem Reads.cons (h : readCall size script = (step, left))
    (ht : Takes limit pending step early next) (hlater : Reads size limit next left reading) :
    Reads size limit pending script
      { reading with calls := step :: reading.calls, chunks := early ++ reading.chunks } := by
  obtain ⟨⟨last, hmade⟩, hgathered, hstopped⟩ := hlater
  exact ⟨⟨last, .next h hmade⟩, .next ht hgathered, hstopped⟩

/-- Reading starts with the call that is made next. -/
theorem Reads.cases_call (h : Reads size limit pending script reading)
    (hcall : readCall size script = (step, left)) :
    (∃ fault, Stops pending step fault ∧ reading = ⟨[], step, [], pending, fault⟩) ∨
      ∃ early next later, Takes limit pending step early next ∧ Reads size limit next left later ∧
        reading =
          { later with calls := step :: later.calls, chunks := early ++ later.chunks } := by
  obtain ⟨calls, stop, chunks, lost, fault⟩ := reading
  obtain ⟨⟨last, hmade⟩, hgathered, hstopped⟩ := h
  cases hgathered with
  | none =>
      cases hmade with
      | next h _ =>
          obtain ⟨rfl, -⟩ := Prod.mk.inj (hcall.symm.trans h)
          exact .inl ⟨fault, hstopped, rfl⟩
  | @next _ next _ _ calls early late ht hlater =>
      cases hmade with
      | next h hmade =>
          obtain ⟨rfl, rfl⟩ := Prod.mk.inj (hcall.symm.trans h)
          exact .inr ⟨early, next, ⟨calls, stop, late, lost, fault⟩, ht,
            ⟨⟨last, hmade⟩, hlater, hstopped⟩, rfl⟩

/-- A script can be read in one way only. -/
theorem Reads.unique {other : Reading} (h : Reads size limit pending script reading)
    (ho : Reads size limit pending script other) : other = reading := by
  -- Each call is the same on both sides, so it is taken or stopped at on both.
  induction hcalls : reading.calls generalizing pending script reading other with
  | nil =>
      rcases hcall : readCall size script with ⟨step, left⟩
      rcases h.cases_call hcall with ⟨fault, hs, rfl⟩ | ⟨early, next, later, _, _, rfl⟩
      · rcases ho.cases_call hcall with ⟨cause, hs', rfl⟩ | ⟨_, _, _, ht, _, _⟩
        · rw [hs.unique hs']
        · exact absurd hs ht.not_stops
      · cases hcalls
  | cons call calls ih =>
      rcases hcall : readCall size script with ⟨step, left⟩
      rcases h.cases_call hcall with ⟨fault, hs, rfl⟩ | ⟨early, next, later, ht, hlater, rfl⟩
      · cases hcalls
      · rcases ho.cases_call hcall with ⟨cause, hs, _⟩ | ⟨first, after, rest, ht', hrest, rfl⟩
        · exact absurd hs ht.not_stops
        · obtain ⟨rfl, rfl⟩ := ht.unique ht'
          rw [ih hlater hrest (List.cons.inj hcalls).2]

/-- Every call but those after the end of the script makes what arrives shorter. -/
theorem length_arrivals_lt (hsize : 0 < size) (hscript : script ≠ [])
    (h : readCall size script = (step, left)) :
    (arrivals left).length < (arrivals script).length := by
  match step with
  | .fault fault => simp [arrivals_of_readCall_fault h]
  | .data (b :: bytes) =>
      rw [arrivals_of_readCall_data h (List.cons_ne_nil b bytes), List.length_append,
        List.map_cons, List.length_cons]
      omega
  | .data [] =>
      rcases arrivals_of_readCall_nothing hsize h with ⟨hnone, -⟩ | hpause
      · obtain ⟨first, rest, rfl⟩ := List.exists_cons_of_ne_nil hscript
        have hfirst := (List.flatMap_eq_nil_iff.mp hnone) first List.mem_cons_self
        match first with
        | .fault fault => cases hfirst
        | .data bytes => cases bytes <;> cases hfirst
      · simp [hpause]

/-- After the end of a script, what is pending is one chunk more. -/
theorem exists_reads_nil (size : Nat) (hpending : Unfinished limit pending) :
    ∃ reading, Reads size limit pending [] reading ∧
      chunksFrom (some limit) pending.reverse [] = ⟨reading.chunks, reading.fault⟩ := by
  have hcall : readCall size [] = (.data [], []) := rfl
  by_cases hp : pending = []
  · subst hp
    exact ⟨_, reads_of_stops hcall .ended, rfl⟩
  · exact ⟨_, (reads_of_stops hcall .ended).cons hcall (.paused hp), by simp [chunksFrom, hp]⟩

/-- Reading ends, and gives the chunks that are cut from what arrives. -/
theorem exists_reads (hsize : 0 < size) (hpending : Unfinished limit pending)
    (script : ReadScript) : ∃ reading, Reads size limit pending script reading ∧
      chunksFrom (some limit) pending.reverse (arrivals script) =
        ⟨reading.chunks, reading.fault⟩ := by
  -- A call that is taken shortens what arrives, even if it hands out a part of some data only.
  induction hn : (arrivals script).length using Nat.strongRecOn generalizing pending script with
  | ind n ih =>
      by_cases hscript : script = []
      · subst hscript
        exact exists_reads_nil size hpending
      rcases hcall : readCall size script with ⟨step, left⟩
      rcases takes_or_stops hsize hpending hcall with ⟨early, next, ht, hcut⟩ | ⟨fault, hs, hcut⟩
      · obtain ⟨reading, hreads, hlater⟩ := ih (arrivals left).length
          (hn ▸ length_arrivals_lt hsize hscript hcall) (ht.unfinished hpending) left rfl
        exact ⟨_, hreads.cons hcall ht, by rw [hcut, hlater]; rfl⟩
      · exact ⟨_, reads_of_stops hcall hs, hcut⟩

end Files

end SlotServer.Transfer
