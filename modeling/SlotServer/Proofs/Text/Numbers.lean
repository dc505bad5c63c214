import Mathlib.Algebra.Group.Nat.Defs
import SlotServer.Proofs.Json.Scalars

/-!
# Numbers at the start of a text

A number is read as far as its digits go. Which digits are taken depends on nothing but the text
itself, so a number is read from its digits exactly where no other digit follows them. Without
superfluous zeros a number has only one decimal numeral.
-/

namespace SlotServer.Text

variable {radix : Nat} {maxDigits : Option Nat} {leadingZero : Bool} {bound : Nat}

/-! ## Digits -/

/-- What may stand behind the digits of a number: nothing that could be one of them. -/
def Ends (radix : Nat) (rest : List Char) : Prop :=
  ∀ c, rest.head? = some c → digit? radix c = none

/-- The values of the digits in a text. -/
def figures (radix : Nat) (text : List Char) : List Nat :=
  text.filterMap (digit? radix)

theorem ends_nil (radix : Nat) : Ends radix [] :=
  nofun

theorem ends_cons {c : Char} (h : digit? radix c = none) (rest : List Char) :
    Ends radix (c :: rest) := by
  intro d hd
  rwa [← Option.some.inj hd]

theorem isSome_digit?_mono {more : Nat} (hle : radix ≤ more) {c : Char}
    (h : (digit? radix c).isSome) : (digit? more c).isSome := by
  obtain ⟨d, hd⟩ := Option.isSome_iff_exists.mp h
  obtain ⟨hvalue, hlt⟩ := Option.filter_eq_some_iff.mp hd
  refine Option.isSome_iff_exists.mpr ⟨d, Option.filter_eq_some_iff.mpr ⟨hvalue, ?_⟩⟩
  exact decide_eq_true (Nat.lt_of_lt_of_le (of_decide_eq_true hlt) hle)

theorem Ends.mono {more : Nat} {rest : List Char} (h : Ends more rest) (hle : radix ≤ more) :
    Ends radix rest := by
  intro c hc
  have hmore := mt (isSome_digit?_mono hle) (by rw [h c hc]; decide)
  exact Option.not_isSome_iff_eq_none.mp hmore

theorem digits_append_rest {text rest : List Char} (h : ∀ c ∈ text, (digit? radix c).isSome)
    (hrest : Ends radix rest) : digits radix (text ++ rest) = (figures radix text, rest) := by
  induction text with
  | nil =>
      cases rest with
      | nil => rfl
      | cons c rest =>
          rw [List.nil_append, digits, hrest c rfl]
          rfl
  | cons c text ih =>
      obtain ⟨hc, htext⟩ := List.forall_mem_cons.mp h
      obtain ⟨d, hd⟩ := Option.isSome_iff_exists.mp hc
      rw [List.cons_append, digits, hd, figures, List.filterMap_cons_some hd, ← figures]
      simp only [ih htext]

/-- Every text can be cut where its first digits end. -/
theorem exists_digits (radix : Nat) (text : List Char) :
    ∃ read rest, read ++ rest = text ∧ (∀ c ∈ read, (digit? radix c).isSome) ∧
      Ends radix rest := by
  induction text with
  | nil => exact ⟨[], [], rfl, by simp, ends_nil radix⟩
  | cons c text ih =>
      obtain ⟨read, rest, rfl, hread, hrest⟩ := ih
      cases hc : digit? radix c with
      | none => exact ⟨[], c :: (read ++ rest), rfl, by simp, ends_cons hc _⟩
      | some d =>
          refine ⟨c :: read, rest, rfl, ?_, hrest⟩
          exact List.forall_mem_cons.mpr ⟨by simp [hc], hread⟩

theorem length_figures {text : List Char} (h : ∀ c ∈ text, (digit? radix c).isSome) :
    (figures radix text).length = text.length := by
  induction text with
  | nil => rfl
  | cons c text ih =>
      obtain ⟨hc, htext⟩ := List.forall_mem_cons.mp h
      obtain ⟨d, hd⟩ := Option.isSome_iff_exists.mp hc
      rw [figures, List.filterMap_cons_some hd, ← figures, List.length_cons, ih htext,
        List.length_cons]

/-! ## Numbers -/

/-- The texts of a number in a base: digits, no more than may be, and a zero in front of others only
where that is an option. -/
structure NumberText (radix : Nat) (maxDigits : Option Nat) (leadingZero : Bool)
    (text : List Char) (n : Nat) : Prop where
  ne_nil : text ≠ []
  isDigit : ∀ c ∈ text, (digit? radix c).isSome
  length_le : ∀ most, maxDigits = some most → text.length ≤ most
  zero : leadingZero = false → (figures radix text).head? = some 0 → text.length ≤ 1
  value_eq : ofDigits radix (figures radix text) = n

theorem NumberText.number {text : List Char} {n : Nat}
    (h : NumberText radix maxDigits leadingZero text n) (hn : n < bound) {rest : List Char}
    (hrest : Ends radix rest) :
    Reader.number radix maxDigits leadingZero bound (text ++ rest) = some (n, rest) := by
  have hlength := length_figures h.isDigit
  have hempty : (figures radix text).isEmpty = false := by
    rw [List.isEmpty_eq_false_iff, ← List.length_pos_iff, hlength]
    exact List.length_pos_iff.mpr h.ne_nil
  have hmost : (maxDigits.any fun most => most < (figures radix text).length) = false := by
    cases hmax : maxDigits with
    | none => rfl
    | some most => simpa [hlength] using h.length_le most hmax
  have hzero : (!leadingZero && (figures radix text).head? == some 0 &&
      decide (1 < (figures radix text).length)) = false := by
    by_cases hleading : leadingZero = false
    · by_cases hhead : (figures radix text).head? = some 0
      · simpa [hleading, hhead, hlength] using h.zero hleading hhead
      · simp [hhead]
    · simp [hleading]
  simp only [Reader.number, digits_append_rest h.isDigit hrest, hempty, hmost, hzero, h.value_eq,
    Bool.false_eq_true, if_false]
  exact if_pos hn

theorem number_of_ends {text : List Char} (h : Ends radix text) :
    Reader.number radix maxDigits leadingZero bound text = none := by
  have hdigits : digits radix ([] ++ text) = ([], text) := digits_append_rest nofun h
  rw [List.nil_append] at hdigits
  simp only [Reader.number, hdigits, List.isEmpty_nil, if_true]

theorem number_eq_some_iff {text rest : List Char} {n : Nat} :
    Reader.number radix maxDigits leadingZero bound text = some (n, rest) ↔
      ∃ read, read ++ rest = text ∧ NumberText radix maxDigits leadingZero read n ∧ n < bound ∧
        Ends radix rest := by
  constructor
  · intro h
    obtain ⟨read, left, rfl, hdigit, hends⟩ := exists_digits radix text
    have hlength := length_figures hdigit
    simp only [Reader.number, digits_append_rest hdigit hends] at h
    split at h
    · cases h
    rename_i hempty
    split at h
    · cases h
    rename_i hmost
    split at h
    · cases h
    rename_i hzero
    split at h
    · rename_i hbound
      obtain ⟨rfl, rfl⟩ := Prod.mk.inj (Option.some.inj h)
      refine ⟨read, rfl, ⟨?_, hdigit, ?_, ?_, rfl⟩, hbound, hends⟩
      · rintro rfl
        exact hempty rfl
      · rintro most rfl
        simpa [hlength] using hmost
      · intro hleading hhead
        simpa [hleading, hhead, hlength] using hzero
    · cases h
  · rintro ⟨read, rfl, hnumber, hn, hrest⟩
    exact hnumber.number hn hrest

/-! ## Decimal numbers -/

theorem isSome_digit?_ten (c : Char) : (digit? 10 c).isSome = c.isDigit := by
  rw [digit?_ten]
  cases c.isDigit <;> rfl

theorem ofDigits_figures_ten {text : List Char} (h : ∀ c ∈ text, c.isDigit = true) :
    ofDigits 10 (figures 10 text) = Nat.ofDigitChars 10 text 0 := by
  have hfrom : ∀ value, (figures 10 text).foldl (fun n d => n * 10 + d) value =
      Nat.ofDigitChars 10 text value := by
    induction text with
    | nil => exact fun value => rfl
    | cons c text ih =>
        intro value
        obtain ⟨hc, htext⟩ := List.forall_mem_cons.mp h
        have hd : digit? 10 c = some (c.toNat - '0'.toNat) := by rw [digit?_ten, if_pos hc]
        rw [figures, List.filterMap_cons_some hd, ← figures, List.foldl_cons, ih htext,
          Nat.ofDigitChars_cons, Nat.mul_comm]
  exact hfrom 0

theorem toDigits_value {c : Char} (h : c.isDigit = true) :
    Nat.toDigits 10 (c.toNat - '0'.toNat) = [c] := by
  obtain ⟨hlow, hhigh⟩ := (isDigit_iff c).mp h
  have hzero : ('0' : Char).toNat = 48 := rfl
  have hlt : c.toNat - '0'.toNat < 10 := by omega
  rw [Nat.toDigits_of_lt_base hlt, List.singleton_inj, ← Char.toNat_inj,
    Nat.toNat_digitChar_of_lt_ten hlt]
  omega

/-- Digits after a number that is not zero are the last digits of its continuation. -/
theorem toDigits_append_digits {text : List Char} (h : ∀ c ∈ text, c.isDigit = true) {n : Nat}
    (hn : 0 < n) :
    Nat.toDigits 10 (Nat.ofDigitChars 10 text n) = Nat.toDigits 10 n ++ text := by
  induction text generalizing n with
  | nil => simp
  | cons c text ih =>
      obtain ⟨hc, htext⟩ := List.forall_mem_cons.mp h
      have hd : c.toNat - '0'.toNat < 10 := by
        have hzero : ('0' : Char).toNat = 48 := rfl
        obtain ⟨hlow, hhigh⟩ := (isDigit_iff c).mp hc
        omega
      rw [Nat.ofDigitChars_cons, ih htext (by omega),
        ← Nat.toDigits_append_toDigits (by decide) hn hd, toDigits_value hc, List.append_assoc]
      rfl

/-- Without a superfluous zero, a number has no other text than its decimal digits. -/
theorem NumberText.eq_toDigits {text : List Char} {n : Nat}
    (h : NumberText 10 maxDigits false text n) : text = Nat.toDigits 10 n := by
  have hdigit : ∀ c ∈ text, c.isDigit = true := fun c hc =>
    (isSome_digit?_ten c).symm.trans (h.isDigit c hc)
  have hvalue := (ofDigits_figures_ten hdigit).symm.trans h.value_eq
  cases text with
  | nil => exact absurd rfl h.ne_nil
  | cons c text =>
      obtain ⟨hc, htext⟩ := List.forall_mem_cons.mp hdigit
      have hd : digit? 10 c = some (c.toNat - '0'.toNat) := by rw [digit?_ten, if_pos hc]
      rw [Nat.ofDigitChars_cons, Nat.mul_zero, Nat.zero_add] at hvalue
      rcases Nat.eq_zero_or_pos (c.toNat - '0'.toNat) with hfirst | hfirst
      · -- a zero in front stands alone
        have hlength := h.zero rfl (by rw [figures, List.filterMap_cons_some hd, hfirst]; rfl)
        obtain rfl : text = [] := List.length_eq_zero_iff.mp (by simpa using hlength)
        rw [← hvalue, Nat.ofDigitChars_nil, toDigits_value hc]
      · rw [← hvalue, toDigits_append_digits htext hfirst, toDigits_value hc]
        rfl

theorem head?_figures_toDigits {n : Nat} (h : 0 < n) :
    (figures 10 (Nat.toDigits 10 n)).head? ≠ some 0 := by
  have hdigit : ∀ c ∈ Nat.toDigits 10 n, c.isDigit = true := fun c =>
    Nat.isDigit_of_mem_toDigits (by decide) (by decide)
  have hhead := JsonText.head?_toDigits h
  cases htext : Nat.toDigits 10 n with
  | nil => nofun
  | cons c text =>
      rw [htext] at hdigit hhead
      have hc := hdigit c List.mem_cons_self
      have hd : digit? 10 c = some (c.toNat - '0'.toNat) := by rw [digit?_ten, if_pos hc]
      rw [figures, List.filterMap_cons_some hd]
      intro hzero
      have hchar := toDigits_value hc
      rw [Option.some.inj hzero] at hchar
      exact hhead (congrArg List.head? hchar.symm)

theorem numberText_toDigits {n : Nat}
    (h : ∀ most, maxDigits = some most → 0 < most ∧ n < 10 ^ most) :
    NumberText 10 maxDigits leadingZero (Nat.toDigits 10 n) n := by
  have hdigit : ∀ c ∈ Nat.toDigits 10 n, c.isDigit = true := fun c =>
    Nat.isDigit_of_mem_toDigits (by decide) (by decide)
  refine ⟨Nat.toDigits_ne_nil, fun c hc => ?_, fun most hmost => ?_, fun _ hhead => ?_, ?_⟩
  · rw [isSome_digit?_ten, hdigit c hc]
  · obtain ⟨hpos, hlt⟩ := h most hmost
    exact (Nat.length_toDigits_le_iff (by decide) hpos).mpr hlt
  · rcases Nat.eq_zero_or_pos n with rfl | hpos
    · exact Nat.le_refl 1
    · exact absurd hhead (head?_figures_toDigits hpos)
  · rw [ofDigits_figures_ten hdigit, Nat.ofDigitChars_ten_toDigits]

end SlotServer.Text
