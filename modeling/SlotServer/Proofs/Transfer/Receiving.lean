import SlotServer.Transfer.Reading

/-!
# Receiving

Receiving makes one read call after another. The rules below follow the calls, and derive exactly
the pieces and the ending that the intake of a script lists at once.
-/

namespace SlotServer.Transfer

/-- What one read call into a buffer of `size` bytes gives, and what is left to read after it. Data
that does not fit into the buffer waits for the next call. -/
def readCall (size : Nat) : ReadScript → ReadStep × ReadScript
  | [] => (.data [], [])
  | .fault fault :: rest => (.fault fault, rest)
  | .data bytes :: rest =>
    let later := bytes.drop size
    (.data (bytes.take size), if later.isEmpty then rest else .data later :: rest)

/-- Receiving call by call: an interrupted call is repeated, data that came makes a piece, and a
call without data or with another fault is the last one. -/
inductive Receives (size : Nat) : ReadScript → Intake → Prop where
  | closed {script left} (h : readCall size script = (.data [], left)) :
      Receives size script ⟨[], .closed, left⟩
  | failed {script left fault} (h : readCall size script = (.fault fault, left))
      (hf : fault.isInterrupted = false) : Receives size script ⟨[], .failed fault, left⟩
  | repeated {script left fault intake} (h : readCall size script = (.fault fault, left))
      (hf : fault.isInterrupted = true) (later : Receives size left intake) :
      Receives size script intake
  | received {script left bytes intake} (h : readCall size script = (.data bytes, left))
      (hb : bytes ≠ []) (later : Receives size left intake) :
      Receives size script { intake with pieces := ⟨bytes, left⟩ :: intake.pieces }

/-! ## Bounds -/

theorem length_le_of_readCall {size : Nat} {script left : ReadScript} {bytes : Bytes}
    (h : readCall size script = (.data bytes, left)) : bytes.length ≤ size := by
  match script with
  | [] =>
      obtain ⟨⟨⟩, -⟩ := h
      simp
  | .data first :: rest =>
      simp only [readCall, Prod.mk.injEq, ReadStep.data.injEq] at h
      rw [← h.1]
      exact List.length_take_le size first

/-- Every piece has at least one byte and fits into the buffer. -/
theorem Receives.pieces_bounded {size : Nat} {script : ReadScript} {intake : Intake}
    (h : Receives size script intake) :
    ∀ piece ∈ intake.pieces, 0 < piece.bytes.length ∧ piece.bytes.length ≤ size := by
  induction h with
  | closed h | failed h hf => simp
  | repeated h hf later ih => exact ih
  | received h hb later ih =>
      intro piece hp
      rcases List.mem_cons.mp hp with rfl | hp
      · exact ⟨List.length_pos_iff.mpr hb, length_le_of_readCall h⟩
      · exact ih piece hp

/-! ## Cutting data into pieces -/

/-- Cutting loses nothing. -/
theorem flatten_cut (size : Nat) (bytes : Bytes) (rest : ReadScript) :
    ((cut size bytes rest).map Piece.bytes).flatten = bytes := by
  fun_induction cut size bytes rest with
  | case1 => rfl
  | case2 b more later left ih => simp [ih, later]

/-! ## The intake of a script -/

theorem readCall_cons (size : Nat) (b : UInt8) (more : Bytes) (rest : ReadScript) :
    readCall (max size 1) (.data (b :: more) :: rest) =
      (.data (b :: more.take (size - 1)),
        if (more.drop (size - 1)).isEmpty then rest else .data (more.drop (size - 1)) :: rest) := by
  obtain ⟨n, hn, hp⟩ : ∃ n, max size 1 = n + 1 ∧ size - 1 = n := ⟨size - 1, by omega, rfl⟩
  simp [readCall, hn, hp]

/-- The cut of some data lists the read calls that hand the data out. -/
theorem Receives.cut {size : Nat} {rest : ReadScript} {intake : Intake} (bytes : Bytes)
    (hb : bytes ≠ []) (h : Receives (max size 1) rest intake) :
    Receives (max size 1) (.data bytes :: rest)
      { intake with pieces := cut size bytes rest ++ intake.pieces } := by
  fun_induction Transfer.cut size bytes rest with
  | case1 => exact absurd rfl hb
  | case2 b more later left ih =>
      have hcall : readCall (max size 1) (.data (b :: more) :: rest) =
          (.data (b :: more.take (size - 1)), left) := readCall_cons size b more rest
      have hlater : Receives (max size 1) left
          { intake with pieces := Transfer.cut size later rest ++ intake.pieces } := by
        by_cases hl : later = []
        · have hleft : left = rest := by simp [left, hl]
          have hcut : Transfer.cut size later rest = [] := by rw [hl, Transfer.cut]
          rwa [hleft, hcut]
        · have hleft : left = .data later :: rest := by simp [left, hl]
          rw [hleft]
          exact ih hl
      exact .received hcall (by simp) hlater

theorem receives_intake (size : Nat) (script : ReadScript) :
    Receives (max size 1) script (intake size script) := by
  fun_induction intake size script with
  | case1 => exact .closed rfl
  | case2 fault rest hf ih => exact .repeated rfl hf ih
  | case3 fault rest hf => exact .failed rfl (by simpa using hf)
  | case4 bytes rest hb =>
      obtain rfl := List.isEmpty_iff.mp hb
      exact .closed (by simp [readCall])
  | case5 bytes rest hb later ih => exact ih.cut bytes (by simpa using hb)

/-- The pieces of a script have at least one byte and fit into the buffer. -/
theorem intake_bounded (size : Nat) (script : ReadScript) :
    ∀ piece ∈ (intake size script).pieces,
      0 < piece.bytes.length ∧ piece.bytes.length ≤ max size 1 :=
  (receives_intake size script).pieces_bounded

/-- However some bytes are handed out in parts, all of them are received. -/
theorem flatten_intake_parts (size : Nat) (sizes : List Nat) (bytes : Bytes) :
    ((intake size (parts sizes bytes)).pieces.map Piece.bytes).flatten = bytes := by
  fun_induction parts sizes bytes with
  | case1 bytes hb | case3 _ _ bytes hb => simpa [intake] using hb
  | case2 bytes hb => simp [intake, hb, flatten_cut]
  | case4 count _ bytes hb ih =>
      have hpart : (bytes.take (max count 1)).isEmpty = false := by
        have hne : bytes ≠ [] := by simpa using hb
        simp [hne]
      simp [intake, hpart, flatten_cut, ih]

/-- A script can be received in one way only. -/
theorem Receives.unique {size : Nat} {script : ReadScript} {intake other : Intake}
    (h : Receives size script intake) (ho : Receives size script other) : intake = other := by
  induction h generalizing other with
  | closed h =>
      cases ho with
      | closed ho | failed ho hf | repeated ho hf later | received ho hb later => simp_all
  | failed h hf =>
      cases ho with
      | closed ho | failed ho hf | repeated ho hf later | received ho hb later => simp_all
  | repeated h hf later ih =>
      cases ho with
      | closed ho | failed ho hf => simp_all
      | repeated ho hf later => exact ih (by simp_all)
      | received ho hb later => simp_all
  | received h hb later ih =>
      cases ho with
      | closed ho | failed ho hf | repeated ho hf later => simp_all
      | received ho hb later =>
          rw [h] at ho
          obtain ⟨rfl, rfl⟩ : _ = _ ∧ _ = _ := by simpa using ho
          rw [ih later]

theorem receives_iff (size : Nat) (script : ReadScript) (received : Intake) :
    Receives (max size 1) script received ↔ intake size script = received := by
  refine ⟨(receives_intake size script).unique, ?_⟩
  rintro rfl
  exact receives_intake size script

end SlotServer.Transfer
