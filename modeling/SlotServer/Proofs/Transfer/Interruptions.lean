import Mathlib.Data.List.Forall2
import SlotServer.Proofs.Transfer.Chunks
import SlotServer.Proofs.Transfer.Receiving
import SlotServer.Proofs.Transfer.Sending

/-!
# Interruptions

An interrupted call is repeated, so interruptions that are put into a script change nothing about
what is read or what is accepted, wherever they stand: in the middle of a chunk, between two calls
that accept parts of one message, or after the last call that is made. Only what is left of the
script shows them.
-/

namespace SlotServer

/-- Whether a read call is merely interrupted. -/
def ReadStep.isInterruption : ReadStep → Bool
  | .data _ => false
  | .fault reason => reason.isInterrupted

/-- Whether a write call is merely interrupted. -/
def WriteStep.isInterruption : WriteStep → Bool
  | .all | .atMost _ => false
  | .fault reason => reason.isInterrupted

/-- The second list is the first one with any number of extra items put in at any places. -/
inductive Interspersed {α : Type} (isExtra : α → Bool) : List α → List α → Prop where
  | nil : Interspersed isExtra [] []
  | kept (item : α) {items others} (later : Interspersed isExtra items others) :
      Interspersed isExtra (item :: items) (item :: others)
  | inserted {item : α} {items others} (h : isExtra item = true)
      (later : Interspersed isExtra items others) : Interspersed isExtra items (item :: others)

theorem Interspersed.refl {α : Type} {isExtra : α → Bool} (items : List α) :
    Interspersed isExtra items items := by
  induction items with
  | nil => exact .nil
  | cons item items ih => exact .kept item ih

/-- The second script is the first one with more interruptions. -/
abbrev ReadScript.Interrupted (script other : ReadScript) : Prop :=
  Interspersed ReadStep.isInterruption script other

/-- The second script is the first one with more interruptions of write calls. Flushes are not
repeated, so they are answered alike. -/
structure WriteScript.Interrupted (script other : WriteScript) : Prop where
  writes : Interspersed WriteStep.isInterruption script.writes other.writes
  flushes : other.flushes = script.flushes

theorem ReadStep.exists_of_isInterruption {step : ReadStep} (h : step.isInterruption = true) :
    ∃ fault, step = .fault fault ∧ fault.isInterrupted = true := by
  cases step with
  | data bytes => cases h
  | fault reason => exact ⟨reason, rfl, h⟩

theorem WriteStep.exists_of_isInterruption {step : WriteStep} (h : step.isInterruption = true) :
    ∃ fault, step = .fault fault ∧ fault.isInterrupted = true := by
  cases step with
  | all | atMost count => cases h
  | fault reason => exact ⟨reason, rfl, h⟩

namespace Transfer

/-! ## Chunks -/

theorem chunksFrom_interrupted {script other : ReadScript} (limit : Option Nat)
    (h : script.Interrupted other) (pending : Bytes) :
    chunksFrom limit pending (arrivals other) = chunksFrom limit pending (arrivals script) := by
  induction h generalizing pending with
  | nil => rfl
  | kept step _ ih => exact chunksFrom_append_congr ih pending (ReadStep.arrivals step)
  | @inserted step script other hstep _ ih =>
      obtain ⟨fault, rfl, hf⟩ := ReadStep.exists_of_isInterruption hstep
      have harrivals : arrivals (.fault fault :: other) = .fault fault :: arrivals other := rfl
      rw [harrivals, chunksFrom, if_pos hf]
      -- What is pending stays pending, which is why it is arbitrary here.
      exact ih pending

/-- A chunk that is being put together goes on behind an interruption. -/
theorem chunks_interrupted {script other : ReadScript} (limit : Option Nat)
    (h : script.Interrupted other) : chunks limit other = chunks limit script :=
  chunksFrom_interrupted limit h []

/-! ## Pieces -/

/-- The same bytes, with more interruptions in what is left to read after them. -/
structure Piece.Interrupted (piece other : Piece) : Prop where
  bytes : other.bytes = piece.bytes
  left : piece.left.Interrupted other.left

/-- The same pieces and the same ending, with more interruptions in what is left to read. -/
structure Intake.Interrupted (intake other : Intake) : Prop where
  pieces : List.Forall₂ Piece.Interrupted intake.pieces other.pieces
  ending : other.ending = intake.ending
  left : intake.left.Interrupted other.left

theorem cut_interrupted {script other : ReadScript} (size : Nat) (bytes : Bytes)
    (h : script.Interrupted other) :
    List.Forall₂ Piece.Interrupted (cut size bytes script) (cut size bytes other) := by
  fun_induction cut size bytes script with
  | case1 =>
      rw [cut]
      exact .nil
  | case2 b more later left ih =>
      rw [cut]
      refine .cons ⟨rfl, ?_⟩ ih
      by_cases hlater : later.isEmpty
      · simpa [left, later, hlater] using h
      · simpa [left, later, hlater] using .kept (.data later) h

theorem intake_interrupted {script other : ReadScript} (size : Nat) (h : script.Interrupted other) :
    (intake size script).Interrupted (intake size other) := by
  induction h with
  | nil => exact ⟨.nil, rfl, .nil⟩
  | @kept step script other hlater ih =>
      cases step with
      | fault fault =>
          rw [intake, intake]
          split
          next => exact ih
          next => exact ⟨.nil, rfl, hlater⟩
      | data bytes =>
          rw [intake, intake]
          split
          next => exact ⟨.nil, rfl, hlater⟩
          next =>
            have hcut := cut_interrupted size bytes hlater
            exact ⟨List.rel_append hcut ih.pieces, ih.ending, ih.left⟩
  | inserted hstep _ ih =>
      obtain ⟨fault, rfl, hf⟩ := ReadStep.exists_of_isInterruption hstep
      rw [intake, if_pos hf]
      exact ih

/-! ## Writing -/

/-- The same is accepted with the same outcome, with more interruptions of later calls. -/
structure Written.Interrupted (written other : Written) : Prop where
  accepted : other.accepted = written.accepted
  fault : other.fault = written.fault
  left : written.left.Interrupted other.left

theorem writeSteps_nil (flushes : List (Option Fault)) (steps : List WriteStep) :
    writeSteps flushes steps [] = ⟨[], none, ⟨steps, flushes⟩⟩ := by
  rw [writeSteps]

theorem writeSteps_interrupted {steps others : List WriteStep} (flushes : List (Option Fault))
    (h : Interspersed WriteStep.isInterruption steps others) (bytes : Bytes) :
    (writeSteps flushes steps bytes).Interrupted (writeSteps flushes others bytes) := by
  induction h generalizing bytes with
  | nil => exact ⟨rfl, rfl, .refl _, rfl⟩
  | kept step hlater ih =>
      -- No call is made when no byte is left, so the interruptions that follow are kept for later.
      by_cases hb : bytes = []
      · rw [hb, writeSteps_nil, writeSteps_nil]
        exact ⟨rfl, rfl, .kept step hlater, rfl⟩
      cases step with
      | all =>
          simp only [writeSteps]
          exact ⟨rfl, rfl, hlater, rfl⟩
      | atMost count =>
          simp only [writeSteps]
          split
          next => exact ⟨rfl, rfl, hlater, rfl⟩
          next =>
            have hrest := ih (bytes.drop count)
            exact ⟨congrArg (bytes.take count :: ·) hrest.accepted, hrest.fault, hrest.left⟩
      | fault reason =>
          simp only [writeSteps]
          split
          next => exact ih bytes
          next => exact ⟨rfl, rfl, hlater, rfl⟩
  | inserted hstep hlater ih =>
      by_cases hb : bytes = []
      · rw [hb, writeSteps_nil, writeSteps_nil]
        exact ⟨rfl, rfl, .inserted hstep hlater, rfl⟩
      obtain ⟨fault, rfl, hf⟩ := WriteStep.exists_of_isInterruption hstep
      simp only [writeSteps, hf, if_true]
      exact ih bytes

theorem writeAll_interrupted {script other : WriteScript} (h : script.Interrupted other)
    (bytes : Bytes) : (writeAll script bytes).Interrupted (writeAll other bytes) := by
  rw [writeAll, writeAll, h.flushes]
  exact writeSteps_interrupted script.flushes h.writes bytes

theorem flush_interrupted {script other : WriteScript} (h : script.Interrupted other) :
    (flush script).Interrupted (flush other) := by
  rw [flush, flush, h.flushes]
  split
  next hflushes => exact ⟨rfl, rfl, h⟩
  next answer flushes hflushes => exact ⟨rfl, rfl, h.writes, rfl⟩

/-- An interruption sends nothing twice that was accepted already. -/
theorem send_interrupted {script other : WriteScript} (h : script.Interrupted other)
    (bytes : Bytes) : (send script bytes).Interrupted (send other bytes) := by
  have hwritten := writeAll_interrupted h bytes
  rw [send, send]
  simp only [hwritten.fault]
  split
  next => exact hwritten
  next =>
    have hflushed := flush_interrupted hwritten.left
    exact ⟨hwritten.accepted, hflushed.fault, hflushed.left⟩

end Transfer

end SlotServer
