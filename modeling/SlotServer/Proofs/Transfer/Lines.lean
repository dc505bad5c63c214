import Mathlib.Data.List.Basic
import SlotServer.Capability.OnDisk
import SlotServer.Proofs.Transfer.Buffering

/-!
# Lines of a pipe

A pipe is read line by line through a buffer, one line for each time that the next one is asked for,
until there is none or a read call fails. Asked again and again, it gives exactly the lines that the
bytes of the pipe are cut into, wherever the reads end, and after these nothing ever again.
-/

namespace SlotServer.Transfer

/-! ## Lines -/

/-- The lines of some bytes: each ends with its newline, but for a last one that has none. -/
structure Lined (bytes : Bytes) (lines : List Bytes) : Prop where
  flatten_eq : lines.flatten = bytes
  nonempty : ∀ line ∈ lines, line ≠ []
  newline_last : ∀ line ∈ lines, newline ∉ line.dropLast
  complete : ∀ line ∈ lines.dropLast, line.getLast? = some newline

/-- Lines are chunks under a limit that the bytes cannot reach. -/
theorem Chunked.lined {limit : Nat} {bytes : Bytes} {chunks : List Bytes}
    (h : Chunked limit bytes chunks) (hlimit : bytes.length < limit) : Lined bytes chunks where
  flatten_eq := h.flatten_eq
  nonempty := fun chunk hc => List.ne_nil_of_length_pos (h.bounded chunk hc).1
  newline_last := h.newline_last
  complete := by
    intro chunk hc
    refine (h.complete chunk hc).resolve_right fun hfull => ?_
    have hsub : chunk.Sublist bytes :=
      h.flatten_eq ▸ List.sublist_flatten_of_mem (List.dropLast_subset _ hc)
    have := hsub.length_le
    omega

/-- Without a limit bytes are cut as with one that they do not reach. -/
theorem chunksFrom_none_eq {limit : Nat} (pending bytes : Bytes)
    (h : pending.length + bytes.length < limit) :
    chunksFrom none pending (bytes.map .byte) =
      chunksFrom (some limit) pending (bytes.map .byte) := by
  induction bytes generalizing pending with
  | nil => rfl
  | cons b bytes ih =>
      rw [List.length_cons] at h
      have hroom : ¬limit ≤ pending.length + 1 := by omega
      rw [List.map_cons, chunksFrom, chunksFrom, ih [] (by simp; omega),
        ih (b :: pending) (by simp; omega)]
      simp [hroom]

/-- Whatever a pipe hands out is cut into its lines. -/
theorem HandsOut.lined {script : ReadScript} {bytes : Bytes} (h : HandsOut script bytes) :
    Lined bytes (chunks none script).chunks := by
  have hlimit : ([] : Bytes).length + bytes.length < bytes.length + 1 := by simp
  rw [chunks, h.chunksFrom_eq, chunksFrom_none_eq [] bytes hlimit]
  exact (chunked_chunksFrom [] bytes (by simp) (by simp)).lined (Nat.lt_succ_self _)

/-! ## One line -/

/-- After a look that shows a fault there is less to arrive. -/
theorem length_lt_of_look_fault {size : Nat} {reader next : Buffered} {fault : Fault}
    (h : reader.look size = (.fault fault, next)) :
    next.arrivals.length < reader.arrivals.length := by
  simp [look_fault h]

/-- After a look that shows bytes there is less to arrive, once they are consumed. -/
theorem length_lt_of_look_data {size : Nat} {reader next : Buffered} {bytes : Bytes}
    (h : reader.look size = (.data bytes, next)) (hb : bytes ≠ []) :
    (next.consume bytes.length).arrivals.length < reader.arrivals.length := by
  have := List.length_pos_iff.mpr hb
  rw [look_data h hb bytes.length]
  simp
  omega

/-- Reads on to the end of a line, look after look; `line` is what there is of it so far. A line
ends with a newline, or where a look shows nothing. -/
def Buffered.readLine (size : Nat) (reader : Buffered) (line : Bytes) : Fetched × Buffered :=
  match _ : reader.look size with
  | (.fault fault, next) =>
    if fault.isInterrupted then next.readLine size line else (.fault fault, next)
  | (.data bytes, next) =>
    if _ : bytes = [] then (.chunk line, next)
    else if newline ∈ bytes then
      let count := bytes.idxOf newline + 1
      (.chunk (line ++ bytes.take count), next.consume count)
    else (next.consume bytes.length).readLine size (line ++ bytes)
termination_by reader.arrivals.length
decreasing_by
  · exact length_lt_of_look_fault (by assumption)
  · exact length_lt_of_look_data (by assumption) (by assumption)

section Cutting

variable {bytes : Bytes}

/-- Bytes without a newline become part of the line that is pending. -/
theorem chunksFrom_append (hnone : newline ∉ bytes) (pending : Bytes) (rest : List Arrival) :
    chunksFrom none pending (bytes.map .byte ++ rest) =
      chunksFrom none (bytes.reverse ++ pending) rest := by
  induction bytes generalizing pending with
  | nil => rfl
  | cons b bytes ih =>
      rw [List.mem_cons, not_or] at hnone
      rw [List.map_cons, List.cons_append, chunksFrom, if_neg (by simp [Ne.symm hnone.1]),
        ih hnone.2]
      simp

/-- A newline ends the line. -/
theorem chunksFrom_line (h : newline ∈ bytes) (pending : Bytes) (rest : List Arrival) :
    chunksFrom none pending ((bytes.take (bytes.idxOf newline + 1)).map .byte ++ rest) =
      (chunksFrom none [] rest).after
        (pending.reverse ++ bytes.take (bytes.idxOf newline + 1)) := by
  obtain ⟨front, back, rfl, hfront⟩ := List.eq_append_cons_of_mem h
  have hcount : (front ++ newline :: back).take
      ((front ++ newline :: back).idxOf newline + 1) = front ++ [newline] := by
    rw [List.idxOf_append_of_notMem hfront, List.idxOf_cons_self, Nat.add_zero,
      List.take_length_add_append]
    simp
  rw [hcount, List.map_append, List.append_assoc, chunksFrom_append hfront]
  simp [chunksFrom]

end Cutting

/-- What cutting gives from a line on is this line and what cutting gives after it. -/
theorem Buffered.chunksFrom_readLine {size : Nat} (hsize : 0 < size) (reader : Buffered)
    (line : Bytes) :
    chunksFrom none line.reverse reader.arrivals =
      (reader.readLine size line).1.before
        (chunksFrom none [] (reader.readLine size line).2.arrivals) := by
  fun_induction reader.readLine size line with
  | case1 reader line fault next h hf ih => rw [look_fault h, chunksFrom, if_pos hf, ih]
  | case2 reader line fault next h hf =>
      rw [look_fault h, chunksFrom, if_neg hf]
      rfl
  | case3 reader line next h =>
      rcases look_nothing hsize h with ⟨hreader, hnext⟩ | hreader
      · rw [hreader, hnext]
        cases line <;> simp [chunksFrom, Fetched.before, Chunking.after]
      · rw [hreader]
        cases line <;> simp [chunksFrom, Fetched.before]
  | case4 reader line bytes next h hb hline count =>
      rw [look_data h hb count, chunksFrom_line hline, List.reverse_reverse]
      simp [Fetched.before, count, hb]
  | case5 reader line bytes next h hb hline ih =>
      rw [look_data h hb bytes.length, List.take_length, chunksFrom_append hline,
        ← List.reverse_append, ih]

/-! ## One line after another -/

/-- A pipe whose lines are asked for one by one. Once there was none, there is none any more. -/
structure LineReader where
  reader : Buffered
  finished : Bool

namespace LineReader

/-- A pipe from which nothing was read so far. -/
def ofPipe (pipe : ReadScript) : LineReader :=
  ⟨⟨[], pipe⟩, false⟩

/-- The text of the next line, if there is one. A read call that fails ends the lines too. -/
def next (size : Nat) (lines : LineReader) : Option String × LineReader :=
  if lines.finished then (none, lines)
  else
    match lines.reader.readLine size [] with
    | (.chunk (b :: line), reader) => (some (Utf8.decodeString (b :: line)), ⟨reader, false⟩)
    | (_, reader) => (none, ⟨reader, true⟩)

/-- What is given when the next line is asked for after so many times before. -/
def item? (size : Nat) (lines : LineReader) : Nat → Option String
  | 0 => (lines.next size).1
  | times + 1 => (lines.next size).2.item? size times

/-- The lines that are still to come. -/
def remaining (lines : LineReader) : List String :=
  if lines.finished then []
  else (chunksFrom none [] lines.reader.arrivals).chunks.map Utf8.decodeString

theorem remaining_ofPipe (pipe : ReadScript) : (ofPipe pipe).remaining = outputLines pipe := by
  simp [remaining, ofPipe, Buffered.arrivals, outputLines, chunks]

variable {size : Nat}

/-- Asking for the next line takes it from those that are still to come. -/
theorem next_remaining (hsize : 0 < size) (lines : LineReader) :
    (lines.next size).1 = lines.remaining.head? ∧
      (lines.next size).2.remaining = lines.remaining.tail := by
  obtain ⟨reader, finished⟩ := lines
  cases finished with
  | true => exact ⟨rfl, rfl⟩
  | false =>
      have hcut := reader.chunksFrom_readLine hsize []
      rw [List.reverse_nil] at hcut
      simp only [next, remaining, hcut]
      match reader.readLine size [] with
      | (.chunk [], after) | (.fault _, after) => simp [Fetched.before]
      | (.chunk (b :: line), after) => simp [Fetched.before, Chunking.after]

theorem item?_eq (hsize : 0 < size) (lines : LineReader) (times : Nat) :
    lines.item? size times = lines.remaining[times]? := by
  induction times generalizing lines with
  | zero => rw [item?, (lines.next_remaining hsize).1, List.head?_eq_getElem?]
  | succ times ih =>
      rw [item?, ih, (lines.next_remaining hsize).2]
      simp

end LineReader

end SlotServer.Transfer
