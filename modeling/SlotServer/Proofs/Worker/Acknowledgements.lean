import SlotServer.Worker

/-!
# Acknowledgements

Pieces that are appended one after another under a cap leave what is left if all of them are put
together and cut once, whichever piece the cap falls into. So an acknowledgement is the start of one
text, and shows as much of the record as the label of the peer leaves room for.
-/

namespace SlotServer

/-! ## Appending under a cap -/

section Capped

variable {capacity : Nat} {buffer : Bytes}

theorem appendCapped_of_full (h : capacity ≤ buffer.length) (bytes : Bytes) :
    appendCapped capacity buffer bytes = buffer := by
  rw [appendCapped, Nat.sub_eq_zero_of_le h, List.take_zero, List.append_nil]

theorem appendCapped_of_room (h : buffer.length ≤ capacity) (bytes : Bytes) :
    appendCapped capacity buffer bytes = (buffer ++ bytes).take capacity := by
  rw [appendCapped, List.take_append, List.take_of_length_le h]

theorem foldl_appendCapped_of_full (h : capacity ≤ buffer.length) (pieces : List Bytes) :
    pieces.foldl (appendCapped capacity) buffer = buffer := by
  induction pieces with
  | nil => rfl
  | cons piece pieces ih => rw [List.foldl_cons, appendCapped_of_full h, ih]

/-- What is cut off in front of more bytes makes no difference to a cut at the same place. -/
theorem take_take_append (capacity : Nat) (bytes rest : Bytes) :
    (bytes.take capacity ++ rest).take capacity = (bytes ++ rest).take capacity := by
  have hroom : capacity - (bytes.take capacity).length = capacity - bytes.length := by
    rw [List.length_take]
    omega
  rw [List.take_append, List.take_append, List.take_take, Nat.min_self, hroom]

/-- Two texts with the same start are cut to the same exactly if this holds of what is left of
them. -/
theorem take_append_inj_iff (capacity : Nat) (start bytes other : Bytes) :
    (start ++ bytes).take capacity = (start ++ other).take capacity ↔
      bytes.take (capacity - start.length) = other.take (capacity - start.length) := by
  rw [List.take_append, List.take_append, List.append_cancel_left_eq]

/-- A buffer that has not gone beyond the cap never does, so every step is a cut at the cap. -/
theorem foldl_appendCapped_of_room (h : buffer.length ≤ capacity) (pieces : List Bytes) :
    pieces.foldl (appendCapped capacity) buffer = (buffer ++ pieces.flatten).take capacity := by
  induction pieces generalizing buffer with
  | nil => rw [List.foldl_nil, List.flatten_nil, List.append_nil, List.take_of_length_le h]
  | cons piece pieces ih =>
      have hnext : (appendCapped capacity buffer piece).length ≤ capacity := by
        rw [appendCapped_of_room h]
        exact List.length_take_le ..
      calc
        (piece :: pieces).foldl (appendCapped capacity) buffer
          = (appendCapped capacity buffer piece ++ pieces.flatten).take capacity := ih hnext
        _ = ((buffer ++ piece).take capacity ++ pieces.flatten).take capacity := by
          rw [appendCapped_of_room h]
        _ = (buffer ++ (piece :: pieces).flatten).take capacity := by
          rw [take_take_append, List.append_assoc, List.flatten_cons]

end Capped

/-! ## The text of an acknowledgement -/

namespace Worker

/-- What stands before the record in an acknowledgement that is not cut. -/
def announcement (peerLabel : String) : Bytes :=
  Utf8.encodeString "Processed command from " ++ Utf8.encodeString peerLabel ++
    Utf8.encodeString ": "

theorem acknowledgement_eq_take (peerLabel : String) (record : Bytes) :
    acknowledgement peerLabel record = (announcement peerLabel ++ record).take 255 := by
  have hempty : ([] : Bytes).length ≤ maxAckBytes := Nat.zero_le _
  rw [acknowledgement, foldl_appendCapped_of_room hempty]
  simp [announcement, ackStart, maxAckBytes]

/-- Pieces appended under a cap are cut once, and this is how an acknowledgement is cut: to the
first 255 bytes of its text. Records are acknowledged alike exactly if they do not differ there,
that is in as many bytes as the label of the peer leaves room for. -/
theorem acknowledgement_cut_once :
    (∀ (capacity : Nat) (buffer : Bytes) (pieces : List Bytes),
      pieces.foldl (appendCapped capacity) buffer =
        if capacity ≤ buffer.length then buffer
        else (buffer ++ pieces.flatten).take capacity) ∧
    ∀ peerLabel : String,
      (∀ record, acknowledgement peerLabel record =
        (Utf8.encodeString "Processed command from " ++ Utf8.encodeString peerLabel ++
          Utf8.encodeString ": " ++ record).take 255) ∧
      ∀ record other,
        (acknowledgement peerLabel record = acknowledgement peerLabel other ↔
          (announcement peerLabel ++ record).take 255 =
            (announcement peerLabel ++ other).take 255) ∧
        (acknowledgement peerLabel record = acknowledgement peerLabel other ↔
          record.take (255 - (announcement peerLabel).length) =
            other.take (255 - (announcement peerLabel).length)) := by
  refine ⟨?_, fun peerLabel => ⟨acknowledgement_eq_take peerLabel, ?_⟩⟩
  · intro capacity buffer pieces
    split
    next hfull => exact foldl_appendCapped_of_full hfull pieces
    next hroom => exact foldl_appendCapped_of_room (Nat.le_of_not_le hroom) pieces
  · intro record other
    have htexts : acknowledgement peerLabel record = acknowledgement peerLabel other ↔
        (announcement peerLabel ++ record).take 255 =
          (announcement peerLabel ++ other).take 255 := by
      rw [acknowledgement_eq_take, acknowledgement_eq_take]
    exact ⟨htexts, htexts.trans (take_append_inj_iff 255 _ record other)⟩

end Worker

end SlotServer
