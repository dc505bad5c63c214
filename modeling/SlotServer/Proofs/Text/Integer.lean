import SlotServer.Text.Integer

/-!
# Numerals

Numerals are defined here by their digits and the number that these stand for. Reading an integer
accepts exactly the numerals, with the signs that it allows and any number of leading zeros, of the
numbers within its bounds.
-/

namespace SlotServer.Text

/-- A numeral of a number: decimal digits, at least one. -/
structure Numeral (text : List Char) (n : Nat) : Prop where
  ne_nil : text ≠ []
  isDigit : ∀ c ∈ text, c.isDigit = true
  value_eq : Nat.ofDigitChars 10 text 0 = n

/-- A numeral that may have a plus sign. -/
inductive UnsignedNumeral : List Char → Nat → Prop
  | bare {text n} (numeral : Numeral text n) : UnsignedNumeral text n
  | plus {text n} (numeral : Numeral text n) : UnsignedNumeral ('+' :: text) n

/-- A numeral that may have a sign. -/
inductive SignedNumeral : List Char → Int → Prop
  | bare {text n} (numeral : Numeral text n) : SignedNumeral text n
  | plus {text n} (numeral : Numeral text n) : SignedNumeral ('+' :: text) n
  | minus {text n} (numeral : Numeral text n) : SignedNumeral ('-' :: text) (-n)

/-! ## Digits -/

theorem isDigit_iff (c : Char) : c.isDigit = true ↔ 0x30 ≤ c.toNat ∧ c.toNat ≤ 0x39 := by
  simp [Char.isDigit, UInt32.le_iff_toNat_le]

theorem digit?_ten (c : Char) :
    digit? 10 c = if c.isDigit then some (c.toNat - '0'.toNat) else none := by
  have hdigit := isDigit_iff c
  unfold digit?
  by_cases h : c.isDigit = true
  · obtain ⟨hlow, hhigh⟩ := hdigit.mp h
    simp [h, hlow, hhigh, Option.filter]
    omega
  · have hout : ¬ (0x30 ≤ c.toNat ∧ c.toNat ≤ 0x39) := mt hdigit.mpr h
    simp only [h, hout, if_false]
    split
    · simp [Option.filter]
    · split <;> simp [Option.filter]

theorem le_ofDigitChars (text : List Char) (value : Nat) :
    value ≤ Nat.ofDigitChars 10 text value := by
  induction text generalizing value with
  | nil => exact Nat.le_refl value
  | cons c text ih =>
      have hrest := ih (10 * value + (c.toNat - '0'.toNat))
      simp only [Nat.ofDigitChars, List.foldl_cons] at *
      omega

theorem readDigits_eq_ok_iff {bound value : Nat} (h : value ≤ bound) (excess : IntegerError)
    (text : List Char) (n : Nat) :
    readDigits bound excess value text = .ok n ↔
      (∀ c ∈ text, c.isDigit = true) ∧ Nat.ofDigitChars 10 text value = n ∧ n ≤ bound := by
  induction text generalizing value with
  | nil =>
      simp only [readDigits, Nat.ofDigitChars, List.foldl_nil, Except.ok.injEq]
      constructor
      · rintro rfl
        exact ⟨by simp, rfl, h⟩
      · exact fun h => h.2.1
  | cons c text ih =>
      rw [readDigits, digit?_ten]
      by_cases hdigit : c.isDigit = true
      · have hvalue : value * 10 + (c.toNat - '0'.toNat) = 10 * value + (c.toNat - '0'.toNat) := by
          rw [Nat.mul_comm]
        have hcons : Nat.ofDigitChars 10 (c :: text) value =
            Nat.ofDigitChars 10 text (10 * value + (c.toNat - '0'.toNat)) := rfl
        simp only [hdigit, if_true, hvalue, hcons, List.forall_mem_cons, true_and]
        by_cases hbound : bound < 10 * value + (c.toNat - '0'.toNat)
        · have hle := le_ofDigitChars text (10 * value + (c.toNat - '0'.toNat))
          simp only [hbound, if_true, reduceCtorEq, false_iff]
          rintro ⟨-, rfl, hn⟩
          omega
        · rw [if_neg hbound]
          exact ih (Nat.le_of_not_lt hbound)
      · simp [hdigit]

theorem readNumber_eq_ok_iff (bound : Nat) (excess : IntegerError) (text : List Char) (n : Nat) :
    readNumber bound excess text = .ok n ↔ Numeral text n ∧ n ≤ bound := by
  unfold readNumber
  cases text with
  | nil => simpa using fun h : Numeral [] n => absurd rfl h.ne_nil
  | cons c text =>
      rw [if_neg (by simp), readDigits_eq_ok_iff (Nat.zero_le bound)]
      constructor
      · rintro ⟨hdigits, hvalue, hn⟩
        exact ⟨⟨by simp, hdigits, hvalue⟩, hn⟩
      · rintro ⟨hnumeral, hn⟩
        exact ⟨hnumeral.isDigit, hnumeral.value_eq, hn⟩

/-! ## Signs -/

theorem not_numeral_cons {c : Char} (hc : c.isDigit = false) (text : List Char) (n : Nat) :
    ¬ Numeral (c :: text) n := by
  intro h
  have hdigit := h.isDigit c List.mem_cons_self
  rw [hc] at hdigit
  exact Bool.false_ne_true hdigit

theorem unsignedNumeral_plus_iff (text : List Char) (n : Nat) :
    UnsignedNumeral ('+' :: text) n ↔ Numeral text n := by
  constructor
  · rintro (h | h)
    · exact absurd h (not_numeral_cons rfl text n)
    · exact h
  · exact .plus

theorem signedNumeral_plus_iff (text : List Char) (n : Int) :
    SignedNumeral ('+' :: text) n ↔ ∃ m : Nat, Numeral text m ∧ (m : Int) = n := by
  constructor
  · rintro (h | h)
    · exact absurd h (not_numeral_cons rfl text _)
    · exact ⟨_, h, rfl⟩
  · rintro ⟨m, h, rfl⟩
    exact .plus h

theorem signedNumeral_minus_iff (text : List Char) (n : Int) :
    SignedNumeral ('-' :: text) n ↔ ∃ m : Nat, Numeral text m ∧ -(m : Int) = n := by
  constructor
  · rintro (h | _ | h)
    · exact absurd h (not_numeral_cons rfl text _)
    · exact ⟨_, h, rfl⟩
  · rintro ⟨m, h, rfl⟩
    exact .minus h

theorem readUnsigned_eq_ok_iff (bound : Nat) (text : List Char) (n : Nat) :
    readUnsigned bound text = .ok n ↔ UnsignedNumeral text n ∧ n ≤ bound := by
  unfold readUnsigned
  split
  · simp only [reduceCtorEq, false_iff]
    rintro ⟨h | _, -⟩
    exact h.ne_nil rfl
  · rw [readNumber_eq_ok_iff, unsignedNumeral_plus_iff]
  · rename_i hne _ hplus
    have hbare : UnsignedNumeral text n ↔ Numeral text n := by
      constructor
      · rintro (h | h)
        · exact h
        · exact absurd rfl (hplus _)
      · exact .bare
    rw [readNumber_eq_ok_iff, hbare]

theorem map_readNumber_eq_ok_iff (f : Nat → Int) (bound : Nat) (excess : IntegerError)
    (text : List Char) (n : Int) :
    (readNumber bound excess text).map f = .ok n ↔ ∃ m, Numeral text m ∧ m ≤ bound ∧ f m = n := by
  have hread := readNumber_eq_ok_iff bound excess text
  cases hresult : readNumber bound excess text with
  | error error =>
      have hnone : ∀ m, ¬ (Numeral text m ∧ m ≤ bound) := fun m h => by
        simpa [hresult] using (hread m).mpr h
      simp only [Except.map, reduceCtorEq, false_iff]
      rintro ⟨m, hnumeral, hm, -⟩
      exact hnone m ⟨hnumeral, hm⟩
  | ok value =>
      have hvalue : ∀ m, Numeral text m ∧ m ≤ bound ↔ value = m := fun m => by
        rw [← hread m, hresult, Except.ok.injEq]
      simp only [Except.map, Except.ok.injEq, ← and_assoc, hvalue, exists_eq_left']

theorem readSigned_eq_ok_iff (bound : Nat) (text : List Char) (n : Int) :
    readSigned bound text = .ok n ↔
      SignedNumeral text n ∧ -(bound + 1 : Int) ≤ n ∧ n ≤ bound := by
  unfold readSigned
  split
  · simp only [reduceCtorEq, false_iff]
    rintro ⟨h | _ | _, -⟩
    exact h.ne_nil rfl
  · simp only [map_readNumber_eq_ok_iff, signedNumeral_plus_iff, Int.ofNat_eq_natCast]
    constructor
    · rintro ⟨m, hnumeral, hm, rfl⟩
      exact ⟨⟨m, hnumeral, rfl⟩, by omega, by omega⟩
    · rintro ⟨⟨m, hnumeral, rfl⟩, -, hm⟩
      exact ⟨m, hnumeral, by omega, rfl⟩
  · simp only [map_readNumber_eq_ok_iff, signedNumeral_minus_iff, Int.ofNat_eq_natCast]
    constructor
    · rintro ⟨m, hnumeral, hm, rfl⟩
      exact ⟨⟨m, hnumeral, rfl⟩, by omega, by omega⟩
    · rintro ⟨⟨m, hnumeral, rfl⟩, hm, -⟩
      exact ⟨m, hnumeral, by omega, rfl⟩
  · rename_i hne _ hplus hminus
    simp only [map_readNumber_eq_ok_iff, Int.ofNat_eq_natCast]
    constructor
    · rintro ⟨m, hnumeral, hm, rfl⟩
      exact ⟨.bare hnumeral, by omega, by omega⟩
    · rintro ⟨h | h | h, -, hm⟩
      · exact ⟨_, h, by omega, rfl⟩
      · exact absurd rfl (hplus _)
      · exact absurd rfl (hminus _)

end SlotServer.Text
