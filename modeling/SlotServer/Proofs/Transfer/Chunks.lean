import SlotServer.Transfer.Reading

/-!
# Chunks

Cutting what is read into chunks loses no byte and adds none, whatever the limit of the chunks is.
With a limit, there is only one list of chunks that some bytes can be cut into, and it does not
depend on how the bytes were handed out.
-/

namespace SlotServer.Transfer

/-! ## What the chunks hold -/

theorem chunksFrom_bytes (limit : Option Nat) (pending bytes : Bytes) :
    (chunksFrom limit pending (bytes.map .byte)).fault = none ∧
      (chunksFrom limit pending (bytes.map .byte)).chunks.flatten = pending.reverse ++ bytes := by
  induction bytes generalizing pending with
  | nil => cases pending <;> simp [chunksFrom]
  | cons b bytes ih =>
      rw [List.map_cons, chunksFrom]
      split
      next =>
        obtain ⟨hfault, hflatten⟩ := ih []
        exact ⟨hfault, by simp [Chunking.after, hflatten]⟩
      next => simpa using ih (b :: pending)

/-- The chunks of data that one call reads are this data, and nothing goes wrong. -/
theorem chunks_data (limit : Option Nat) (bytes : Bytes) :
    (chunks limit [.data bytes]).fault = none ∧
      (chunks limit [.data bytes]).chunks.flatten = bytes := by
  cases bytes with
  | nil => exact ⟨rfl, rfl⟩
  | cons b bytes =>
      have harrivals : arrivals [.data (b :: bytes)] = (b :: bytes).map .byte := by
        simp [arrivals, ReadStep.arrivals]
      rw [chunks, harrivals]
      exact chunksFrom_bytes limit [] (b :: bytes)

/-! ## The one way to cut -/

/-- Chunks of at most `limit` bytes that some bytes are cut into, at every newline and otherwise as
late as possible. -/
structure Chunked (limit : Nat) (bytes : Bytes) (chunks : List Bytes) : Prop where
  flatten_eq : chunks.flatten = bytes
  bounded : ∀ chunk ∈ chunks, 0 < chunk.length ∧ chunk.length ≤ limit
  newline_last : ∀ chunk ∈ chunks, newline ∉ chunk.dropLast
  complete : ∀ chunk ∈ chunks.dropLast, chunk.getLast? = some newline ∨ chunk.length = limit

section Chunked

variable {limit : Nat} {bytes : Bytes} {chunks : List Bytes} {chunk : Bytes}

theorem chunked_nil (limit : Nat) : Chunked limit [] [] := by
  constructor <;> simp

/-- The last chunk ends wherever the bytes do. -/
theorem chunked_singleton (hb : 0 < chunk.length ∧ chunk.length ≤ limit)
    (hline : newline ∉ chunk.dropLast) : Chunked limit chunk [chunk] := by
  constructor <;> simp [hb, hline]

theorem Chunked.cons (hb : 0 < chunk.length ∧ chunk.length ≤ limit)
    (hline : newline ∉ chunk.dropLast)
    (hc : chunk.getLast? = some newline ∨ chunk.length = limit) (h : Chunked limit bytes chunks) :
    Chunked limit (chunk ++ bytes) (chunk :: chunks) where
  flatten_eq := by rw [List.flatten_cons, h.flatten_eq]
  bounded := List.forall_mem_cons.mpr ⟨hb, h.bounded⟩
  newline_last := List.forall_mem_cons.mpr ⟨hline, h.newline_last⟩
  complete := by
    cases chunks with
    | nil => simp
    | cons first rest =>
        rw [List.dropLast_cons_of_ne_nil (List.cons_ne_nil first rest)]
        exact List.forall_mem_cons.mpr ⟨hc, h.complete⟩

theorem chunked_chunksFrom (pending bytes : Bytes) (hlength : pending.length < limit)
    (hline : newline ∉ pending) :
    Chunked limit (pending.reverse ++ bytes)
      (chunksFrom (some limit) pending (bytes.map .byte)).chunks := by
  induction bytes generalizing pending with
  | nil =>
      cases pending with
      | nil => exact chunked_nil limit
      | cons b pending =>
          have hnone : newline ∉ (b :: pending).reverse.dropLast := fun hn =>
            hline (List.mem_reverse.mp (List.dropLast_subset _ hn))
          simpa [chunksFrom] using chunked_singleton (by simp at hlength ⊢; omega) hnone
  | cons b bytes ih =>
      rw [List.map_cons, chunksFrom]
      split
      next hend =>
        have hnone : newline ∉ (b :: pending).reverse.dropLast := by simpa using hline
        have hc : (b :: pending).reverse.getLast? = some newline ∨
            (b :: pending).reverse.length = limit := by
          rcases hend with rfl | hfull
          · exact .inl (by simp)
          · simp at hfull
            exact .inr (by simp; omega)
        have hrest := ih [] (Nat.zero_lt_of_lt hlength) (by simp)
        have hcons := hrest.cons (by simp; omega) hnone hc
        simpa [Chunking.after] using hcons
      next hgoes =>
        simp only [Option.any_some, List.length_cons, decide_eq_true_eq, not_or] at hgoes
        have hpending : newline ∉ b :: pending := by
          simpa [hline] using Ne.symm hgoes.1
        simpa using ih (b :: pending) (by simp; omega) hpending

theorem Chunked.tail (h : Chunked limit bytes (chunk :: chunks)) :
    Chunked limit chunks.flatten chunks where
  flatten_eq := rfl
  bounded := (List.forall_mem_cons.mp h.bounded).2
  newline_last := (List.forall_mem_cons.mp h.newline_last).2
  complete := by
    cases chunks with
    | nil => simp
    | cons first rest =>
        have hc := h.complete
        rw [List.dropLast_cons_of_ne_nil (List.cons_ne_nil first rest)] at hc
        exact (List.forall_mem_cons.mp hc).2

theorem Chunked.eq_nil (h : Chunked limit [] chunks) : chunks = [] := by
  refine List.eq_nil_iff_forall_not_mem.mpr fun chunk hc => ?_
  have hchunk := List.flatten_eq_nil_iff.mp h.flatten_eq chunk hc
  simpa [hchunk] using (h.bounded chunk hc).1

/-- A chunk that others follow cannot be continued. -/
theorem Chunked.not_continued {more : Bytes} {others : List Bytes}
    (h : Chunked limit bytes (chunk :: chunks))
    (ho : Chunked limit bytes ((chunk ++ more) :: others)) : more = [] := by
  refine Classical.byContradiction fun hmore => ?_
  have hflatten : chunks.flatten = more ++ others.flatten := by
    have := h.flatten_eq.trans ho.flatten_eq.symm
    simpa using this
  have hchunks : chunks ≠ [] := by
    rintro rfl
    simp [hmore] at hflatten
  have hmem : chunk ∈ (chunk :: chunks).dropLast := by
    rw [List.dropLast_cons_of_ne_nil hchunks]
    exact List.mem_cons_self
  rcases h.complete chunk hmem with hlast | hfull
  · have hline := ho.newline_last _ List.mem_cons_self
    rw [List.dropLast_append_of_ne_nil hmore] at hline
    exact hline (List.mem_append_left _ (List.mem_of_getLast? hlast))
  · have hlength := (ho.bounded _ List.mem_cons_self).2
    rw [List.length_append, hfull] at hlength
    have := List.length_pos_iff.mpr hmore
    omega

theorem Chunked.unique {others : List Bytes} (h : Chunked limit bytes chunks)
    (ho : Chunked limit bytes others) : chunks = others := by
  induction chunks generalizing bytes others with
  | nil =>
      obtain rfl : [] = bytes := h.flatten_eq
      exact ho.eq_nil.symm
  | cons chunk chunks ih =>
      cases others with
      | nil =>
          obtain rfl : [] = bytes := ho.flatten_eq
          exact h.eq_nil
      | cons other others =>
          have hflatten : chunk ++ chunks.flatten = other ++ others.flatten := by
            simpa using h.flatten_eq.trans ho.flatten_eq.symm
          have hsame : chunk = other := by
            rcases List.append_eq_append_iff.mp hflatten with ⟨more, rfl, -⟩ | ⟨more, rfl, -⟩
            · simp [h.not_continued ho]
            · simp [ho.not_continued h]
          subst hsame
          rw [ih h.tail (List.append_cancel_left hflatten ▸ ho.tail)]

end Chunked

/-! ## Ways to hand out -/

/-- A script that hands out some bytes and then nothing more, interrupted any number of times. -/
inductive HandsOut : ReadScript → Bytes → Prop where
  | exhausted : HandsOut [] []
  | ended {rest} (later : HandsOut rest []) : HandsOut (.data [] :: rest) []
  | data {first rest bytes} (hfirst : first ≠ []) (later : HandsOut rest bytes) :
      HandsOut (.data first :: rest) (first ++ bytes)
  | interrupted {fault rest bytes} (hf : fault.isInterrupted = true) (later : HandsOut rest bytes) :
      HandsOut (.fault fault :: rest) bytes

theorem arrivals_data {bytes : Bytes} (hb : bytes ≠ []) (rest : ReadScript) :
    arrivals (.data bytes :: rest) = bytes.map .byte ++ arrivals rest := by
  simp [arrivals, ReadStep.arrivals, hb]

/-- What arrives first, whatever it is, does not tell later arrivals apart that give the same. -/
theorem chunksFrom_append_congr {limit : Option Nat} {rest others : List Arrival}
    (h : ∀ pending, chunksFrom limit pending rest = chunksFrom limit pending others)
    (pending : Bytes) (front : List Arrival) :
    chunksFrom limit pending (front ++ rest) = chunksFrom limit pending (front ++ others) := by
  induction front generalizing pending with
  | nil => exact h pending
  | cons arrival front ih =>
      cases arrival <;> simp only [List.cons_append, chunksFrom, ih]

/-- The chunks depend on what was handed out only. -/
theorem HandsOut.chunksFrom_eq {limit : Option Nat} {script : ReadScript} {bytes : Bytes}
    (h : HandsOut script bytes) (pending : Bytes) :
    chunksFrom limit pending (arrivals script) = chunksFrom limit pending (bytes.map .byte) := by
  induction h generalizing pending with
  | exhausted => rfl
  | ended _ ih =>
      have harrivals : ∀ rest, arrivals (.data [] :: rest) = .pause :: arrivals rest := fun _ => rfl
      rw [harrivals, chunksFrom, ih []]
      cases pending <;> simp [chunksFrom, Chunking.after]
  | @data first rest bytes hfirst _ ih =>
      rw [arrivals_data hfirst rest, List.map_append]
      exact chunksFrom_append_congr ih pending (first.map .byte)
  | @interrupted fault rest bytes hf _ ih =>
      have harrivals : arrivals (.fault fault :: rest) = .fault fault :: arrivals rest := rfl
      rw [harrivals, chunksFrom, if_pos hf, ih]

theorem HandsOut.chunks_chunked {limit : Nat} {script : ReadScript} {bytes : Bytes}
    (hlimit : 0 < limit) (h : HandsOut script bytes) :
    (chunks (some limit) script).fault = none ∧
      Chunked limit bytes (chunks (some limit) script).chunks := by
  rw [chunks, h.chunksFrom_eq]
  exact ⟨(chunksFrom_bytes (some limit) [] bytes).1,
    chunked_chunksFrom [] bytes hlimit (by simp)⟩

end SlotServer.Transfer
