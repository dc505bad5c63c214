import SlotServer.Proofs.Transfer.Chunks
import SlotServer.Proofs.Transfer.Receiving

/-!
# Buffered reading

A file is read through a buffer, which is refilled by one read call whenever it is empty, and a
chunk is put together from as many looks into the buffer as it takes. The rules below follow these
looks, and derive exactly the chunks that are cut from what arrives byte by byte; so it does not
matter where the refills fall.
-/

namespace SlotServer

/-- The bytes that a read call gave. -/
def ReadStep.bytes : ReadStep → Bytes
  | .data bytes => bytes
  | .fault _ => []

namespace Transfer

/-- A reader with a buffer: the bytes that it holds, and what is left to read after them. -/
structure Buffered where
  held : Bytes
  left : ReadScript
  deriving DecidableEq, Repr

namespace Buffered

/-- Looks into the buffer. If it is empty, one read call of at most `size` bytes refills it. -/
def look (size : Nat) (reader : Buffered) : ReadStep × Buffered :=
  if reader.held.isEmpty then
    let (step, left) := readCall size reader.left
    (step, ⟨step.bytes, left⟩)
  else
    (.data reader.held, reader)

/-- The reader without the first bytes that it holds. -/
def consume (reader : Buffered) (count : Nat) : Buffered :=
  { reader with held := reader.held.drop count }

/-- What arrives from a reader. -/
def arrivals (reader : Buffered) : List Arrival :=
  reader.held.map .byte ++ Transfer.arrivals reader.left

end Buffered

/-- How putting one chunk together ends. -/
inductive Fetched where
  | chunk (bytes : Bytes)
  | fault (fault : Fault)
  deriving DecidableEq, Repr

/-- Putting one chunk of at most `limit` bytes together, look after look; `chunk` is what there is
of it so far. -/
inductive Fetches (size limit : Nat) : Buffered → Bytes → Fetched → Buffered → Prop where
  /-- A chunk that has reached its limit is not looked after any more. -/
  | full {reader chunk} (h : limit ≤ chunk.length) :
      Fetches size limit reader chunk (.chunk chunk) reader
  /-- A look that shows nothing ends the chunk. -/
  | ended {reader next chunk} (hroom : chunk.length < limit)
      (h : reader.look size = (.data [], next)) :
      Fetches size limit reader chunk (.chunk chunk) next
  | failed {reader next chunk fault} (hroom : chunk.length < limit)
      (h : reader.look size = (.fault fault, next)) (hf : fault.isInterrupted = false) :
      Fetches size limit reader chunk (.fault fault) next
  | repeated {reader next last chunk fault fetched} (hroom : chunk.length < limit)
      (h : reader.look size = (.fault fault, next)) (hf : fault.isInterrupted = true)
      (later : Fetches size limit next chunk fetched last) :
      Fetches size limit reader chunk fetched last
  /-- A newline among the bytes that may still be taken ends the chunk. -/
  | line {reader next chunk bytes front back} (hroom : chunk.length < limit)
      (h : reader.look size = (.data bytes, next))
      (hsplit : bytes.take (limit - chunk.length) = front ++ newline :: back)
      (hfront : newline ∉ front) :
      Fetches size limit reader chunk (.chunk (chunk ++ (front ++ [newline])))
        (next.consume (front.length + 1))
  /-- Without a newline all of these bytes are taken. -/
  | more {reader next last chunk bytes fetched} (hroom : chunk.length < limit)
      (h : reader.look size = (.data bytes, next)) (hb : bytes ≠ [])
      (hnone : newline ∉ bytes.take (limit - chunk.length))
      (later : Fetches size limit (next.consume (limit - chunk.length))
        (chunk ++ bytes.take (limit - chunk.length)) fetched last) :
      Fetches size limit reader chunk fetched last

/-- Reading a file chunk by chunk. A chunk without bytes ends it, and so does a fault. -/
inductive Retrieves (size limit : Nat) : Buffered → Chunking → Prop where
  | ended {reader next} (h : Fetches size limit reader [] (.chunk []) next) :
      Retrieves size limit reader ⟨[], none⟩
  | failed {reader next fault} (h : Fetches size limit reader [] (.fault fault) next) :
      Retrieves size limit reader ⟨[], some fault⟩
  | next {reader next chunk chunking} (h : Fetches size limit reader [] (.chunk chunk) next)
      (hc : chunk ≠ []) (later : Retrieves size limit next chunking) :
      Retrieves size limit reader (chunking.after chunk)

/-! ## What a look tells of what arrives -/

section Look

variable {size : Nat} {reader next : Buffered} {bytes : Bytes} {fault : Fault}

/-- A read call that gives data takes it from the front of what arrives. -/
theorem arrivals_of_readCall_data {script left : ReadScript}
    (h : readCall size script = (.data bytes, left)) (hb : bytes ≠ []) :
    arrivals script = bytes.map .byte ++ arrivals left := by
  match script with
  | [] =>
      obtain ⟨⟨⟩, -⟩ := h
      exact absurd rfl hb
  | .data first :: rest =>
      simp only [readCall, Prod.mk.injEq, ReadStep.data.injEq] at h
      obtain ⟨rfl, rfl⟩ := h
      have hfirst : first ≠ [] := by
        rintro rfl
        simp at hb
      rw [arrivals_data hfirst rest]
      by_cases hlater : first.drop size = []
      · have htake : first.take size = first :=
          List.take_of_length_le (List.drop_eq_nil_iff.mp hlater)
        simp [hlater, htake]
      · rw [if_neg (by simpa using hlater), arrivals_data hlater rest, ← List.append_assoc,
          ← List.map_append, List.take_append_drop]

theorem arrivals_of_readCall_fault {script left : ReadScript}
    (h : readCall size script = (.fault fault, left)) :
    arrivals script = .fault fault :: arrivals left := by
  match script with
  | [] | .data _ :: _ => simp [readCall] at h
  | .fault _ :: rest =>
      obtain ⟨rfl, rfl⟩ : _ = _ ∧ _ = _ := by simpa [readCall] using h
      simp [arrivals, ReadStep.arrivals]

/-- A read call without data is seen as such, except after the end of the script. -/
theorem arrivals_of_readCall_nothing {script left : ReadScript} (hsize : 0 < size)
    (h : readCall size script = (.data [], left)) :
    arrivals script = [] ∧ arrivals left = [] ∨ arrivals script = .pause :: arrivals left := by
  match script with
  | [] =>
      obtain rfl : left = [] := by simpa [readCall] using h
      exact .inl ⟨rfl, rfl⟩
  | .fault _ :: rest => simp [readCall] at h
  | .data first :: rest =>
      simp only [readCall, Prod.mk.injEq, ReadStep.data.injEq] at h
      obtain ⟨htake, rfl⟩ := h
      have hfirst : first = [] := by
        rcases List.take_eq_nil_iff.mp htake with hzero | hnil
        · omega
        · exact hnil
      exact .inr (by simp [hfirst, arrivals, ReadStep.arrivals])

/-- A look is a read call if nothing is held, and otherwise it shows what is held. -/
theorem look_cases {step : ReadStep} (h : reader.look size = (step, next)) :
    (reader.held = [] ∧ readCall size reader.left = (step, next.left) ∧ next.held = step.bytes) ∨
      (reader.held ≠ [] ∧ step = .data reader.held ∧ next = reader) := by
  unfold Buffered.look at h
  split at h
  next hempty =>
    obtain ⟨rfl, rfl⟩ := Prod.mk.inj h
    exact .inl ⟨List.isEmpty_iff.mp hempty, rfl, rfl⟩
  next hheld =>
    obtain ⟨rfl, rfl⟩ := Prod.mk.inj h
    exact .inr ⟨by simpa using hheld, rfl, rfl⟩

/-- The bytes that a look shows are in front of what arrives, also if only some are consumed. -/
theorem look_data (h : reader.look size = (.data bytes, next)) (hb : bytes ≠ []) (count : Nat) :
    reader.arrivals = (bytes.take count).map .byte ++ (next.consume count).arrivals := by
  have hnext : next.held = bytes ∧ reader.arrivals = next.arrivals := by
    rcases look_cases h with ⟨hempty, hcall, hheld⟩ | ⟨-, hstep, rfl⟩
    · rw [ReadStep.bytes] at hheld
      simp [Buffered.arrivals, hempty, hheld, arrivals_of_readCall_data hcall hb]
    · exact ⟨(ReadStep.data.inj hstep).symm, rfl⟩
  obtain ⟨rfl, harrivals⟩ := hnext
  rw [harrivals]
  simp only [Buffered.arrivals, Buffered.consume]
  rw [← List.append_assoc, ← List.map_append, List.take_append_drop]

theorem look_fault (h : reader.look size = (.fault fault, next)) :
    reader.arrivals = .fault fault :: next.arrivals := by
  rcases look_cases h with ⟨hempty, hcall, hheld⟩ | ⟨-, hstep, -⟩
  · rw [ReadStep.bytes] at hheld
    simp [Buffered.arrivals, hempty, hheld, arrivals_of_readCall_fault hcall]
  · cases hstep

/-- A look that shows nothing was a read call without data, or there was nothing left to read. -/
theorem look_nothing (hsize : 0 < size) (h : reader.look size = (.data [], next)) :
    reader.arrivals = [] ∧ next.arrivals = [] ∨ reader.arrivals = .pause :: next.arrivals := by
  rcases look_cases h with ⟨hempty, hcall, hheld⟩ | ⟨hheld, hstep, -⟩
  · rw [ReadStep.bytes] at hheld
    simpa [Buffered.arrivals, hempty, hheld] using arrivals_of_readCall_nothing hsize hcall
  · exact absurd (ReadStep.data.inj hstep).symm hheld

/-- A newline among the first bytes stands behind those in front of it. -/
theorem take_line {front back : Bytes} {count : Nat}
    (h : bytes.take count = front ++ newline :: back) :
    front.length < count ∧ bytes.take (front.length + 1) = front ++ [newline] := by
  have hlength : front.length < count := by
    have := congrArg List.length h
    simp at this
    omega
  refine ⟨hlength, ?_⟩
  have := congrArg (List.take (front.length + 1)) h
  rwa [List.take_take, Nat.min_eq_left hlength, List.take_length_add_append] at this

end Look

/-! ## Cutting what arrives -/

/-- What cutting comes to from a chunk on that may have reached its limit. -/
def resumed (limit : Nat) (chunk : Bytes) (rest : List Arrival) : Chunking :=
  if limit ≤ chunk.length then (chunksFrom (some limit) [] rest).after chunk
  else chunksFrom (some limit) chunk.reverse rest

/-- What reading comes to after one chunk was put together; `later` is what it comes to from there
on. -/
def Fetched.before (later : Chunking) : Fetched → Chunking
  | .chunk bytes => if bytes.isEmpty then ⟨[], none⟩ else later.after bytes
  | .fault cause => ⟨[], some cause⟩

section Cutting

variable {limit : Nat} {chunk : Bytes}

theorem resumed_of_lt (hroom : chunk.length < limit) (rest : List Arrival) :
    resumed limit chunk rest = chunksFrom (some limit) chunk.reverse rest :=
  if_neg (Nat.not_le.mpr hroom)

/-- Bytes without a newline that the chunk has room for become part of it. -/
theorem resumed_append {bytes : Bytes} (hnone : newline ∉ bytes)
    (hlength : chunk.length + bytes.length ≤ limit) (hroom : chunk.length < limit)
    (rest : List Arrival) :
    resumed limit chunk (bytes.map .byte ++ rest) = resumed limit (chunk ++ bytes) rest := by
  induction bytes generalizing chunk with
  | nil => simp
  | cons b bytes ih =>
      rw [List.mem_cons, not_or] at hnone
      rw [List.length_cons] at hlength
      rw [resumed_of_lt hroom, List.map_cons, List.cons_append, chunksFrom]
      by_cases hfull : limit ≤ chunk.length + 1
      · have hbytes : bytes = [] := List.eq_nil_of_length_eq_zero (by omega)
        simp [hbytes, hfull, resumed]
      · have hnext : (chunk ++ [b]).length < limit := by simp; omega
        have hlater := ih hnone.2 (by simp; omega) hnext
        rw [resumed_of_lt hnext] at hlater
        simpa [Ne.symm hnone.1, hfull] using hlater

/-- A newline for which there is room ends the chunk. -/
theorem resumed_newline {front : Bytes} (hfront : newline ∉ front)
    (hlength : chunk.length + front.length < limit) (rest : List Arrival) :
    resumed limit chunk (front.map .byte ++ .byte newline :: rest) =
      (chunksFrom (some limit) [] rest).after (chunk ++ (front ++ [newline])) := by
  have hnext : (chunk ++ front).length < limit := by simpa using hlength
  rw [resumed_append hfront (by omega) (by omega), resumed_of_lt hnext, chunksFrom]
  simp

end Cutting

/-! ## Chunks of a buffered reader -/

section Fetching

variable {size limit : Nat} {reader next : Buffered} {chunk : Bytes} {fetched : Fetched}

/-- What a chunk that is put together takes from the front of what arrives. -/
theorem Fetches.execution (hsize : 0 < size) (hlimit : 0 < limit)
    (h : Fetches size limit reader chunk fetched next) :
    resumed limit chunk reader.arrivals =
      fetched.before (chunksFrom (some limit) [] next.arrivals) := by
  induction h with
  | @full reader chunk h =>
      have hchunk : chunk ≠ [] := List.ne_nil_of_length_pos (by omega)
      simp [resumed, h, Fetched.before, hchunk]
  | @ended reader next chunk hroom h =>
      rw [resumed_of_lt hroom]
      rcases look_nothing hsize h with ⟨hreader, hnext⟩ | hreader
      · rw [hreader, hnext]
        cases chunk <;> simp [chunksFrom, Fetched.before, Chunking.after]
      · rw [hreader]
        cases chunk <;> simp [chunksFrom, Fetched.before]
  | failed hroom h hf =>
      rw [resumed_of_lt hroom, look_fault h, chunksFrom]
      simp [hf, Fetched.before]
  | repeated hroom h hf _ ih =>
      rw [resumed_of_lt hroom] at ih ⊢
      rw [look_fault h, chunksFrom, if_pos hf, ih]
  | @line reader next chunk bytes front back hroom h hsplit hfront =>
      have hb : bytes ≠ [] := by
        rintro rfl
        simp at hsplit
      obtain ⟨hfits, htake⟩ := take_line hsplit
      rw [look_data h hb (front.length + 1), htake]
      simpa [Fetched.before] using resumed_newline hfront (by omega) _
  | @more reader next last chunk bytes fetched hroom h hb hnone later ih =>
      rw [← ih, look_data h hb (limit - chunk.length)]
      exact resumed_append hnone (by simp; omega) hroom _

/-- No byte of a chunk arrives again. -/
theorem Fetches.length_le {bytes : Bytes} (hsize : 0 < size)
    (h : Fetches size limit reader chunk (.chunk bytes) next) :
    bytes.length + next.arrivals.length ≤ chunk.length + reader.arrivals.length := by
  generalize hfetched : Fetched.chunk bytes = fetched at h
  induction h with
  | full h =>
      obtain rfl := Fetched.chunk.inj hfetched
      exact Nat.le_refl _
  | ended hroom h =>
      obtain rfl := Fetched.chunk.inj hfetched
      rcases look_nothing hsize h with ⟨hreader, hnext⟩ | hreader
      · simp [hreader, hnext]
      · simp [hreader]
  | failed hroom h hf => cases hfetched
  | repeated hroom h hf _ ih =>
      have hlater := ih hfetched
      rw [look_fault h, List.length_cons]
      omega
  | @line reader next chunk shown front back hroom h hsplit hfront =>
      obtain rfl := Fetched.chunk.inj hfetched
      have hb : shown ≠ [] := by
        rintro rfl
        simp at hsplit
      rw [look_data h hb (front.length + 1), (take_line hsplit).2]
      simp
      omega
  | @more reader next last chunk shown fetched hroom h hb hnone later ih =>
      have hlater := ih hfetched
      rw [look_data h hb (limit - chunk.length)]
      simp at hlater ⊢
      omega

theorem exists_fetches (size limit : Nat) (reader : Buffered) (chunk : Bytes) :
    ∃ fetched next, Fetches size limit reader chunk fetched next := by
  induction hn : reader.arrivals.length using Nat.strongRecOn generalizing reader chunk with
  | ind n ih =>
      by_cases hroom : chunk.length < limit
      · match h : reader.look size with
        | (.fault fault, next) =>
            cases hf : fault.isInterrupted with
            | false => exact ⟨_, _, .failed hroom h hf⟩
            | true =>
                obtain ⟨fetched, last, later⟩ :=
                  ih next.arrivals.length (by simp [← hn, look_fault h]) next chunk rfl
                exact ⟨fetched, last, .repeated hroom h hf later⟩
        | (.data bytes, next) =>
            by_cases hb : bytes = []
            · subst hb
              exact ⟨_, _, .ended hroom h⟩
            · by_cases hline : newline ∈ bytes.take (limit - chunk.length)
              · obtain ⟨front, back, hsplit, hfront⟩ := List.eq_append_cons_of_mem hline
                exact ⟨_, _, .line hroom h hsplit hfront⟩
              · have hshorter : (next.consume (limit - chunk.length)).arrivals.length < n := by
                  rw [← hn, look_data h hb (limit - chunk.length)]
                  have := List.length_pos_iff.mpr hb
                  simp
                  omega
                obtain ⟨fetched, last, later⟩ := ih _ hshorter _ _ rfl
                exact ⟨fetched, last, .more hroom h hb hline later⟩
      · exact ⟨_, _, .full (by omega)⟩

end Fetching

/-! ## Whole files -/

section Files

variable {size limit : Nat} {reader : Buffered} {chunking : Chunking}

theorem Retrieves.execution (hsize : 0 < size) (hlimit : 0 < limit)
    (h : Retrieves size limit reader chunking) :
    chunksFrom (some limit) [] reader.arrivals = chunking := by
  have hcut : ∀ rest, resumed limit [] rest = chunksFrom (some limit) [] rest :=
    resumed_of_lt hlimit
  induction h with
  | ended h | failed h => rw [← hcut, h.execution hsize hlimit]; rfl
  | next h hc _ ih =>
      rw [← hcut, h.execution hsize hlimit, ih]
      simp [Fetched.before, hc]

theorem exists_retrieves (limit : Nat) (hsize : 0 < size) (reader : Buffered) :
    ∃ chunking, Retrieves size limit reader chunking := by
  induction hn : reader.arrivals.length using Nat.strongRecOn generalizing reader with
  | ind n ih =>
      obtain ⟨fetched, next, h⟩ := exists_fetches size limit reader []
      match fetched with
      | .fault fault => exact ⟨_, .failed h⟩
      | .chunk bytes =>
          by_cases hb : bytes = []
          · subst hb
            exact ⟨_, .ended h⟩
          · have hshorter : next.arrivals.length < n := by
              have hle := h.length_le hsize
              have := List.length_pos_iff.mpr hb
              simp at hle
              omega
            obtain ⟨chunking, later⟩ := ih _ hshorter next rfl
            exact ⟨_, .next h hb later⟩

/-- Reading through a buffer gives the chunks that are cut from what arrives, and nothing else. -/
theorem retrieves_iff (hsize : 0 < size) (hlimit : 0 < limit) (script : ReadScript)
    (chunking : Chunking) :
    Retrieves size limit ⟨[], script⟩ chunking ↔ chunks (some limit) script = chunking := by
  constructor
  · intro h
    simpa [Buffered.arrivals, chunks] using h.execution hsize hlimit
  · rintro rfl
    obtain ⟨found, h⟩ := exists_retrieves limit hsize ⟨[], script⟩
    have hfound := h.execution hsize hlimit
    simp only [Buffered.arrivals, List.map_nil, List.nil_append] at hfound
    rwa [chunks, hfound]

end Files

end Transfer

end SlotServer
