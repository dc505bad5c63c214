import Mathlib.Algebra.Group.Nat.Defs
import Mathlib.Tactic.SplitIfs
import SlotServer.Proofs.Text.Utf8

/-!
# Decoding in parts

An ASCII byte belongs to no character but its own, so whatever is malformed in front of it ends
there, and what stands behind it is decoded as if nothing stood in front. Bytes that are cut behind
ASCII bytes can therefore be decoded part by part, with the same replacement characters.
-/

namespace SlotServer.Utf8

/-! ## One character -/

/-- No ASCII byte is among those that can follow a lead. -/
theorem Lead.low_ofByte? {b : UInt8} {lead : Lead} (h : Lead.ofByte? b = some lead) :
    0x80 ≤ lead.low := by
  unfold ofByte? at h
  extract_lets n at h
  split_ifs at h <;> obtain rfl := Option.some.inj h <;>
    simp

/-- No byte below the continuation bytes is used up, so those in front of it are read as if they
were all. -/
theorem continuation_append {low high b : UInt8} (hlow : 0x80 ≤ low) (hb : b < 0x80)
    (count bits : Nat) (front rest : Bytes) :
    continuation count low high bits (front ++ b :: rest) =
      ((continuation count low high bits front).1,
        (continuation count low high bits front).2 ++ b :: rest) := by
  induction front generalizing count low high bits with
  | nil =>
      cases count with
      | zero => simp [continuation]
      | succ count =>
          have hout : ¬(low ≤ b ∧ b ≤ high) := by
            rintro ⟨hle, -⟩
            exact absurd (UInt8.le_trans hlow hle) (UInt8.not_le.mpr hb)
          rw [List.nil_append, continuation.eq_3, if_neg hout]
          rfl
  | cons first front ih =>
      cases count with
      | zero => simp [continuation]
      | succ count =>
          rw [List.cons_append, continuation, continuation]
          split
          · exact ih (by decide) ..
          · rfl

theorem decodeOne_append {b : UInt8} (hb : b < 0x80) (first : UInt8) (front rest : Bytes) :
    decodeOne first (front ++ b :: rest) =
      ((decodeOne first front).1, (decodeOne first front).2 ++ b :: rest) := by
  unfold decodeOne
  split
  · rfl
  · cases hlead : Lead.ofByte? first with
    | none => rfl
    | some lead => simp only [continuation_append (Lead.low_ofByte? hlead) hb]

/-! ## Cutting at ASCII bytes -/

/-- What stands on either side of an ASCII byte is decoded on its own. -/
theorem decode_append_ascii {b : UInt8} (hb : b < 0x80) (front rest : Bytes) :
    decode (front ++ b :: rest) = decode front ++ Char.ofNat b.toNat :: decode rest := by
  induction front using decode.induct with
  | case1 => rw [List.nil_append, decode_cons, decodeOne, if_pos hb, decode, List.nil_append]
  | case2 first front step ih =>
      rw [List.cons_append, decode_cons, decode_cons, decodeOne_append hb]
      exact congrArg _ ih

theorem decode_append_of_getLast? {front : Bytes} {b : UInt8} (hlast : front.getLast? = some b)
    (hb : b < 0x80) (rest : Bytes) : decode (front ++ rest) = decode front ++ decode rest := by
  obtain ⟨line, rfl⟩ := List.getLast?_eq_some_iff.mp hlast
  rw [List.append_assoc, List.singleton_append, decode_append_ascii hb, decode_append_ascii hb,
    decode, List.append_assoc, List.singleton_append]

/-- Parts that all but the last end in an ASCII byte are decoded each on its own. -/
theorem decode_flatten {parts : List Bytes}
    (h : ∀ part ∈ parts.dropLast, ∃ b, part.getLast? = some b ∧ b < 0x80) :
    decode parts.flatten = parts.flatMap decode := by
  induction parts with
  | nil => simp [decode]
  | cons part parts ih =>
      cases parts with
      | nil => simp
      | cons next parts =>
          rw [List.dropLast_cons_of_ne_nil (List.cons_ne_nil next parts)] at h
          obtain ⟨⟨b, hlast, hb⟩, hrest⟩ := List.forall_mem_cons.mp h
          rw [List.flatten_cons, decode_append_of_getLast? hlast hb, ih hrest, ← List.flatMap_cons]

/-! ## Newlines -/

/-- What a lead of several bytes begins lies beyond the ASCII range. -/
theorem Lead.least_ofByte? {b : UInt8} {lead : Lead} (h : Lead.ofByte? b = some lead) :
    ∃ more, lead.count = more + 1 ∧
      0x80 ≤ (lead.bits * 64 + (lead.low.toNat - 0x80)) * 64 ^ more := by
  unfold ofByte? at h
  extract_lets n at h
  split_ifs at h <;> obtain rfl := Option.some.inj h <;> refine ⟨_, rfl, ?_⟩ <;> simp <;> omega

/-- Continuation bytes only add to the bits that stand in front of theirs. -/
theorem le_of_continuation {count bits value : Nat} {low high : UInt8} {bytes : Bytes}
    (h : (continuation count low high bits bytes).1 = some value) : bits * 64 ^ count ≤ value := by
  induction count generalizing low high bits bytes with
  | zero => simp_all [continuation]
  | succ count ih =>
      cases bytes with
      | nil => cases h
      | cons b bytes =>
          rw [continuation] at h
          split at h
          · calc
              bits * 64 ^ (count + 1) = bits * 64 * 64 ^ count := by
                rw [Nat.pow_succ', Nat.mul_assoc]
              _ ≤ (bits * 64 + (b.toNat - 0x80)) * 64 ^ count :=
                Nat.mul_le_mul_right _ (Nat.le_add_right ..)
              _ ≤ value := ih h
          · cases h

/-- The first continuation byte adds at least what the least one would. -/
theorem le_of_continuation_succ {count bits value : Nat} {low high : UInt8} {bytes : Bytes}
    (h : (continuation (count + 1) low high bits bytes).1 = some value) :
    (bits * 64 + (low.toNat - 0x80)) * 64 ^ count ≤ value := by
  cases bytes with
  | nil => cases h
  | cons b bytes =>
      rw [continuation] at h
      split at h
      next hbounds =>
        have hlow : low.toNat ≤ b.toNat := hbounds.1
        calc
          (bits * 64 + (low.toNat - 0x80)) * 64 ^ count ≤
              (bits * 64 + (b.toNat - 0x80)) * 64 ^ count := Nat.mul_le_mul_right _ (by omega)
          _ ≤ value := le_of_continuation h
      next => cases h

theorem Lead.le_of_continuation {b : UInt8} {lead : Lead} {bytes : Bytes} {value : Nat}
    (hlead : Lead.ofByte? b = some lead)
    (h : (continuation lead.count lead.low lead.high lead.bits bytes).1 = some value) :
    0x80 ≤ value := by
  obtain ⟨more, hcount, hleast⟩ := least_ofByte? hlead
  rw [hcount] at h
  exact Nat.le_trans hleast (le_of_continuation_succ h)

/-- A value is the value of its character, unless it is no character's. -/
theorem toNat_ofNat_or (value : Nat) :
    (Char.ofNat value).toNat = value ∨ (Char.ofNat value).toNat = 0 := by
  by_cases hvalid : value.isValidChar
  · exact .inl (congrArg Char.toNat (dif_pos hvalid))
  · exact .inr (congrArg Char.toNat (dif_neg hvalid))

theorem eq_of_ofNat_newline {value : Nat} (h : Char.ofNat value = '\n') : value = 0x0A := by
  have hvalue : (Char.ofNat value).toNat = 0x0A := congrArg Char.toNat h
  rcases toNat_ofNat_or value with hsame | hzero <;> omega

/-- Only the byte of a newline is read as a newline. -/
theorem eq_of_decodeOne_newline {b : UInt8} {rest : Bytes} (h : (decodeOne b rest).1 = '\n') :
    b = 0x0A := by
  unfold decodeOne at h
  split at h
  next => exact UInt8.toNat_inj.mp (eq_of_ofNat_newline h)
  next =>
    cases hlead : Lead.ofByte? b with
    | none => simp [hlead, replacement] at h
    | some lead =>
        simp only [hlead] at h
        cases hvalue : (continuation lead.count lead.low lead.high lead.bits rest).1 with
        | none => simp [hvalue, replacement] at h
        | some value =>
            rw [hvalue] at h
            have hle := Lead.le_of_continuation hlead hvalue
            have heq := eq_of_ofNat_newline h
            omega

theorem continuation_suffix (count : Nat) (low high : UInt8) (bits : Nat) (bytes : Bytes) :
    (continuation count low high bits bytes).2 <:+ bytes := by
  induction bytes generalizing count low high bits with
  | nil => cases count <;> simp [continuation]
  | cons b bytes ih =>
      cases count with
      | zero => simp [continuation]
      | succ count =>
          rw [continuation]
          split
          · exact (ih ..).trans (List.suffix_cons b bytes)
          · exact List.suffix_rfl

theorem decodeOne_suffix (b : UInt8) (rest : Bytes) : (decodeOne b rest).2 <:+ rest := by
  unfold decodeOne
  split
  · exact List.suffix_rfl
  · cases Lead.ofByte? b with
    | none => exact List.suffix_rfl
    | some lead => exact continuation_suffix ..

/-- Bytes without a newline are read without one, whatever is malformed among them. -/
theorem newline_notMem_decode {bytes : Bytes} (h : 0x0A ∉ bytes) : '\n' ∉ decode bytes := by
  induction bytes using decode.induct with
  | case1 => simp [decode]
  | case2 b rest step ih =>
      rw [List.mem_cons, not_or] at h
      rw [decode_cons, List.mem_cons, not_or]
      refine ⟨fun heq => h.1 (eq_of_decodeOne_newline heq.symm).symm, ih ?_⟩
      exact fun hmem => h.2 ((decodeOne_suffix b rest).subset hmem)

end SlotServer.Utf8
