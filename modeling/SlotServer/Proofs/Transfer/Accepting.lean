import SlotServer.Transfer.Writing

/-!
# Write calls

Writing all of some bytes makes one write call after another, each offering what is left. The rules
below follow the calls; they say which answer is the last one, and tell from the answers alone
whether all was written.
-/

namespace SlotServer.Transfer

/-! ## Rules -/

/-- What a write call answers. -/
inductive WriteAnswer where
  | accepted (bytes : Bytes)
  | failed (fault : Fault)
  deriving DecidableEq, Repr

/-- The bytes that a write call accepted, if it did not fail. -/
def WriteAnswer.bytes? : WriteAnswer → Option Bytes
  | .accepted bytes => some bytes
  | .failed _ => none

/-- Whether a write call failed other than by an interruption, or accepted nothing. -/
def WriteAnswer.isFailure : WriteAnswer → Bool
  | .accepted bytes => bytes.isEmpty
  | .failed fault => !fault.isInterrupted

/-- What the write calls that did not fail accepted. -/
def accepted (answers : List WriteAnswer) : List Bytes :=
  answers.filterMap WriteAnswer.bytes?

@[simp] theorem accepted_nil : accepted [] = [] := rfl

@[simp] theorem accepted_cons_accepted (bytes : Bytes) (answers : List WriteAnswer) :
    accepted (.accepted bytes :: answers) = bytes :: accepted answers := rfl

@[simp] theorem accepted_cons_failed (fault : Fault) (answers : List WriteAnswer) :
    accepted (.failed fault :: answers) = accepted answers := rfl

/-- What one write call answers that offers some bytes, and how later calls are answered. -/
def writeCall (bytes : Bytes) : List WriteStep → WriteAnswer × List WriteStep
  | [] => (.accepted bytes, [])
  | .all :: steps => (.accepted bytes, steps)
  | .atMost count :: steps => (.accepted (bytes.take count), steps)
  | .fault fault :: steps => (.failed fault, steps)

/-- Writing call by call: what the calls answer, why the writing failed, if it did, and how later
calls are answered. An interrupted call is repeated, and after any other call that did not fail what
is left is offered. -/
inductive Writes : List WriteStep → Bytes → List WriteAnswer → Option Fault → List WriteStep → Prop
    where
  /-- Nothing is offered when nothing is left. -/
  | done {steps} : Writes steps [] [] none steps
  | failed {steps left bytes fault} (hb : bytes ≠ [])
      (h : writeCall bytes steps = (.failed fault, left)) (hf : fault.isInterrupted = false) :
      Writes steps bytes [.failed fault] (some fault) left
  | stalled {steps left bytes} (hb : bytes ≠ [])
      (h : writeCall bytes steps = (.accepted [], left)) :
      Writes steps bytes [.accepted []] (some .writeStalled) left
  | repeated {steps left last bytes answers fault outcome} (hb : bytes ≠ [])
      (h : writeCall bytes steps = (.failed fault, left)) (hf : fault.isInterrupted = true)
      (later : Writes left bytes answers outcome last) :
      Writes steps bytes (.failed fault :: answers) outcome last
  | accepted {steps left last bytes part answers outcome} (hb : bytes ≠ [])
      (h : writeCall bytes steps = (.accepted part, left)) (hp : part ≠ [])
      (later : Writes left (bytes.drop part.length) answers outcome last) :
      Writes steps bytes (.accepted part :: answers) outcome last

/-! ## What the answers tell -/

section Writes

variable {steps left : List WriteStep} {bytes : Bytes} {answers : List WriteAnswer}
  {outcome : Option Fault}

/-- A call accepts a prefix of what it is offered. -/
theorem prefix_of_writeCall {part : Bytes} (h : writeCall bytes steps = (.accepted part, left)) :
    part <+: bytes := by
  match steps with
  | [] | .all :: _ =>
      obtain ⟨⟨rfl⟩, -⟩ : _ ∧ _ := by simpa [writeCall] using h
      exact List.prefix_refl _
  | .atMost count :: _ =>
      obtain ⟨rfl, -⟩ : _ ∧ _ := by simpa [writeCall] using h
      exact List.take_prefix count bytes
  | .fault _ :: _ => simp [writeCall] at h

theorem append_drop_of_writeCall {part : Bytes}
    (h : writeCall bytes steps = (.accepted part, left)) :
    part ++ bytes.drop part.length = bytes := by
  obtain ⟨rest, rfl⟩ := prefix_of_writeCall h
  rw [List.drop_left]

/-- What is accepted is a prefix of the bytes. -/
theorem Writes.flatten_prefix (h : Writes steps bytes answers outcome left) :
    (Transfer.accepted answers).flatten <+: bytes := by
  induction h with
  | done | failed | stalled => simp
  | repeated _ _ _ _ ih => exact ih
  | @accepted steps left last bytes part answers outcome _ h _ _ ih =>
      obtain ⟨rest, hrest⟩ := ih
      refine ⟨rest, ?_⟩
      calc part ++ (Transfer.accepted answers).flatten ++ rest
          = part ++ bytes.drop part.length := by rw [List.append_assoc, hrest]
        _ = bytes := append_drop_of_writeCall h

/-- All bytes are accepted exactly if the writing does not fail. -/
theorem Writes.flatten_eq_iff (h : Writes steps bytes answers outcome left) :
    (Transfer.accepted answers).flatten = bytes ↔ outcome = none := by
  induction h with
  | done => simp
  | failed hb _ _ | stalled hb _ => simpa using Ne.symm hb
  | repeated _ _ _ _ ih => exact ih
  | @accepted steps left last bytes part answers outcome _ h _ _ ih =>
      have hwhole := append_drop_of_writeCall h
      rw [← ih]
      constructor
      · intro hall
        exact List.append_cancel_left (hall.trans hwhole.symm)
      · intro hrest
        exact (congrArg (part ++ ·) hrest).trans hwhole

/-- Writing fails exactly if one of the calls does, or accepts nothing. -/
theorem Writes.isSome_iff (h : Writes steps bytes answers outcome left) :
    outcome.isSome ↔ answers.any WriteAnswer.isFailure := by
  induction h with
  | done => simp
  | failed _ _ hf => simp [WriteAnswer.isFailure, hf]
  | stalled _ _ => simp [WriteAnswer.isFailure]
  | repeated _ _ hf _ ih => simp [ih, WriteAnswer.isFailure, hf]
  | accepted _ _ hp _ ih => simp [ih, WriteAnswer.isFailure, hp]

/-- No call follows one that failed. -/
theorem Writes.eq_nil_of_isFailure {before after : List WriteAnswer} {answer : WriteAnswer}
    (h : Writes steps bytes (before ++ answer :: after) outcome left)
    (hf : answer.isFailure = true) : after = [] := by
  induction before generalizing steps bytes with
  | nil =>
      cases h with
      | failed | stalled => rfl
      | repeated _ _ hi _ => simp [WriteAnswer.isFailure, hi] at hf
      | accepted _ _ hp _ => simp [WriteAnswer.isFailure, hp] at hf
  | cons first before ih =>
      rw [List.cons_append] at h
      generalize hrest : before ++ answer :: after = rest at h
      have hne : rest ≠ [] := by
        rw [← hrest]
        simp
      cases h with
      | failed | stalled => exact absurd rfl hne
      | repeated _ _ _ later => exact ih (hrest ▸ later)
      | accepted _ _ _ later => exact ih (hrest ▸ later)

/-- Bytes can be written in one way only. -/
theorem Writes.unique {others : List WriteAnswer} {result : Option Fault} {rest : List WriteStep}
    (h : Writes steps bytes answers outcome left) (ho : Writes steps bytes others result rest) :
    others = answers ∧ result = outcome ∧ rest = left := by
  induction h generalizing others result rest with
  | done =>
      cases ho with
      | done => exact ⟨rfl, rfl, rfl⟩
      | failed hb | stalled hb | repeated hb | accepted hb => exact absurd rfl hb
  | failed hb h hf =>
      cases ho with
      | done => exact absurd rfl hb
      | failed _ ho _ | stalled _ ho | repeated _ ho _ _ | accepted _ ho _ _ => simp_all
  | stalled hb h =>
      cases ho with
      | done => exact absurd rfl hb
      | failed _ ho _ | stalled _ ho | repeated _ ho _ _ | accepted _ ho _ _ => simp_all
  | repeated hb h hf _ ih =>
      cases ho with
      | done => exact absurd rfl hb
      | failed _ ho _ | stalled _ ho | accepted _ ho _ _ => simp_all
      | repeated _ ho _ later =>
          obtain ⟨rfl, rfl⟩ : _ ∧ _ := by simpa [h] using ho
          obtain ⟨rfl, rfl, rfl⟩ := ih later
          exact ⟨rfl, rfl, rfl⟩
  | accepted hb h hp _ ih =>
      cases ho with
      | done => exact absurd rfl hb
      | failed _ ho _ | stalled _ ho | repeated _ ho _ _ => simp_all
      | accepted _ ho _ later =>
          obtain ⟨rfl, rfl⟩ : _ ∧ _ := by simpa [h] using ho
          obtain ⟨rfl, rfl, rfl⟩ := ih later
          exact ⟨rfl, rfl, rfl⟩

end Writes

/-! ## Writing follows the rules -/

theorem writes_rest (steps : List WriteStep) (bytes : Bytes) :
    Writes steps (bytes.drop bytes.length) [] none steps := by
  rw [List.drop_length]
  exact .done

/-- What the write calls accept, and what the flushes are left with, when all of some bytes is
written. -/
theorem exists_writes (flushes : List (Option Fault)) (steps : List WriteStep) (bytes : Bytes) :
    ∃ answers, Writes steps bytes answers (writeSteps flushes steps bytes).fault
        (writeSteps flushes steps bytes).left.writes ∧
      (writeSteps flushes steps bytes).accepted = accepted answers ∧
      (writeSteps flushes steps bytes).left.flushes = flushes := by
  fun_induction writeSteps flushes steps bytes with
  | case1 steps => exact ⟨[], .done, rfl, rfl⟩
  | case2 bytes hb =>
      exact ⟨[.accepted bytes], .accepted hb rfl hb (writes_rest [] bytes), rfl, rfl⟩
  | case3 steps bytes hb =>
      exact ⟨[.accepted bytes], .accepted hb rfl hb (writes_rest steps bytes), rfl, rfl⟩
  | case4 steps bytes hb => exact ⟨[.accepted []], .stalled hb rfl, rfl, rfl⟩
  | case5 count steps bytes hb hc later ih =>
      obtain ⟨answers, hwrites, haccepted, hflushes⟩ := ih
      have hpart : bytes.take count ≠ [] := by
        simp [List.take_eq_nil_iff, hc, show bytes ≠ [] from hb]
      have hdrop : bytes.drop (bytes.take count).length = bytes.drop count := by
        rw [List.length_take, List.drop_eq_drop_iff]
        omega
      refine ⟨.accepted (bytes.take count) :: answers, .accepted hb rfl hpart ?_, ?_, hflushes⟩
      · rwa [hdrop]
      · exact congrArg (bytes.take count :: ·) haccepted
  | case6 fault steps bytes hb hf ih =>
      obtain ⟨answers, hwrites, haccepted, hflushes⟩ := ih
      exact ⟨.failed fault :: answers, .repeated hb rfl hf hwrites, haccepted, hflushes⟩
  | case7 fault steps bytes hb hf =>
      exact ⟨[.failed fault], .failed hb rfl (by simpa using hf), rfl, rfl⟩

end SlotServer.Transfer
