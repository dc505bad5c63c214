import SlotServer.Json.Scalar
import SlotServer.Proofs.Json.Strings
import SlotServer.Proofs.Text.Integer
import Mathlib.Data.List.Basic

/-!
# Texts of plain values

The texts of integers, strings and names in JSON, and what may stand around them. Readers of these
values are shown to give the value whatever follows, as long as that cannot belong to the value.
-/

namespace SlotServer.JsonText

/-! ## Around values -/

/-- The characters of white space. -/
def spaceChars : List Char :=
  [' ', '\n', '\t', '\r']

/-- White space between the pieces of a text. -/
def Spaces (text : List Char) : Prop :=
  ∀ c ∈ text, c ∈ spaceChars

/-- What may stand after a value: white space, a comma, the end of an object or of the text. -/
def Boundary (rest : List Char) : Prop :=
  ∀ c, rest.head? = some c → c ∈ spaceChars ∨ c = ',' ∨ c = '\x7d'

/-- A reader gives a result for a text, white space before it and whatever may stand after it. -/
def Reads {α : Type} (reader : Reader α) (text : List Char) (result : Except Error α) : Prop :=
  ∀ space rest, Spaces space → Boundary rest →
    reader (space ++ (text ++ rest)) = result.map (·, rest)

theorem isSpace_iff (c : Char) : isSpace c = true ↔ c ∈ spaceChars := by
  simp [isSpace, spaceChars, or_assoc]

theorem dropSpace_append {space rest : List Char} (hspace : Spaces space) :
    dropSpace (space ++ rest) = dropSpace rest :=
  List.dropWhile_append_of_pos fun c hc => (isSpace_iff c).mpr (hspace c hc)

theorem dropSpace_cons {c : Char} (h : isSpace c = false) (rest : List Char) :
    dropSpace (c :: rest) = c :: rest := by
  simp [dropSpace, h]

theorem isSpace_of_isDigit {c : Char} (h : c.isDigit = true) : isSpace c = false := by
  refine Bool.eq_false_iff.mpr fun hspace => ?_
  have hspaces : spaceChars.any Char.isDigit = false := rfl
  exact List.any_eq_false.mp hspaces c ((isSpace_iff c).mp hspace) h

theorem Spaces.boundary {space : List Char} (h : Spaces space) : Boundary space :=
  fun c hc => .inl (h c (List.mem_of_mem_head? hc))

/-- What holds of white space, commas and closing braces holds of what may stand after a value. -/
theorem Boundary.head {rest : List Char} (h : Boundary rest) (test : Char → Bool)
    (hspace : spaceChars.any test = false) (hcomma : test ',' = false)
    (hbrace : test '\x7d' = false) {c : Char} (hc : rest.head? = some c) : test c = false := by
  rcases h c hc with hmem | rfl | rfl
  · exact Bool.eq_false_iff.mpr (List.any_eq_false.mp hspace c hmem)
  · exact hcomma
  · exact hbrace

/-! ## Integers -/

/-- The text of a natural number: the numeral that has no superfluous zeros. -/
structure NaturalText (n : Nat) (text : List Char) : Prop where
  numeral : Text.Numeral text n
  zero_eq : text.head? = some '0' → text = ['0']

theorem NaturalText.exists_cons {n : Nat} {text : List Char} (h : NaturalText n text) :
    ∃ c tail, text = c :: tail ∧ c.isDigit = true := by
  cases text with
  | nil => exact absurd rfl h.numeral.ne_nil
  | cons c tail => exact ⟨c, tail, rfl, h.numeral.isDigit c List.mem_cons_self⟩

/-- The values of digits. -/
def digitValues (text : List Char) : List Nat :=
  text.map fun c => c.toNat - '0'.toNat

theorem digits_append {text rest : List Char} (hdigits : ∀ c ∈ text, c.isDigit = true)
    (hrest : Boundary rest) :
    Text.digits 10 (text ++ rest) = (digitValues text, rest) := by
  induction text with
  | nil =>
      cases rest with
      | nil => rfl
      | cons c rest =>
          have hc : c.isDigit = false :=
            hrest.head Char.isDigit rfl rfl rfl rfl
          simp [Text.digits, Text.digit?_ten, hc, digitValues]
  | cons c text ih =>
      rw [List.forall_mem_cons] at hdigits
      simp [Text.digits, Text.digit?_ten, hdigits.1, ih hdigits.2, digitValues]

theorem absorb_of_lt (text : List Char) (value : Nat)
    (h : Nat.ofDigitChars 10 text value < UInt64.size) :
    Numeral.absorb value (digitValues text) =
      (Nat.ofDigitChars 10 text value, text.length) := by
  induction text generalizing value with
  | nil => rfl
  | cons c text ih =>
      have hvalue : value * 10 + (c.toNat - '0'.toNat) = 10 * value + (c.toNat - '0'.toNat) := by
        rw [Nat.mul_comm]
      have hrest := ih (10 * value + (c.toNat - '0'.toNat)) h
      have hlonger : 10 * value + (c.toNat - '0'.toNat) < UInt64.size :=
        Nat.lt_of_le_of_lt (Text.le_ofDigitChars text _) h
      rw [digitValues, List.map_cons, ← digitValues, Numeral.absorb, hvalue, if_pos hlonger, hrest]
      rfl

theorem wholeReader_natural {n : Nat} {text rest : List Char} (h : NaturalText n text)
    (hrest : Boundary rest) (ending : Error) :
    Numeral.wholeReader ending (text ++ rest) = .ok (digitValues text, rest) := by
  have hdigits := digits_append h.numeral.isDigit hrest
  have hzero : ¬ ((digitValues text).head? = some 0 ∧ 1 < (digitValues text).length) := by
    rintro ⟨hhead, hlength⟩
    obtain ⟨c, tail, rfl, hdigit⟩ := h.exists_cons
    have hc : c = '0' := by
      obtain ⟨hlow, -⟩ := (Text.isDigit_iff c).mp hdigit
      have hvalue : c.toNat - 0x30 = 0 := Option.some.inj hhead
      have hzero : ('0' : Char).toNat = 0x30 := rfl
      exact Char.toNat_inj.mp (by omega)
    rw [h.zero_eq (by simp [hc])] at hlength
    exact Nat.lt_irrefl 1 hlength
  have hsome : Numeral.someDigits ending (text ++ rest) = .ok (digitValues text, rest) := by
    rw [Numeral.someDigits, hdigits]
    obtain ⟨c, tail, rfl, -⟩ := h.exists_cons
    rfl
  rw [Numeral.wholeReader, hsome]
  exact if_neg hzero

/-- The parts of the numeral of an integer. -/
theorem reader_natural {n : Nat} {text rest : List Char} (h : NaturalText n text)
    (hrest : Boundary rest) (negative : Bool) (ending : Error) :
    Numeral.reader ending ((if negative then ['-'] else []) ++ (text ++ rest)) =
      .ok (⟨negative, digitValues text, [], none⟩, rest) := by
  have hwhole := wholeReader_natural h hrest ending
  have hfraction : Numeral.fractionReader ending rest = .ok ([], rest) := by
    cases rest with
    | nil => rfl
    | cons c rest =>
        have hc : (c == '.') = false :=
          hrest.head (· == '.') rfl rfl rfl rfl
        unfold Numeral.fractionReader
        split
        · rename_i heq
          cases heq
          cases hc
        · rfl
  have hpower : Numeral.powerReader ending rest = .ok (none, rest) := by
    cases rest with
    | nil => rfl
    | cons c rest =>
        have hc : (c == 'e' || c == 'E') = false :=
          hrest.head (fun c => c == 'e' || c == 'E') rfl rfl rfl rfl
        rw [Bool.or_eq_false_iff, beq_eq_false_iff_ne, beq_eq_false_iff_ne] at hc
        exact if_neg (not_or.mpr hc)
  cases negative with
  | true =>
      simp [Numeral.reader, hwhole, hfraction, hpower, bind, Except.bind, pure, Except.pure]
  | false =>
      obtain ⟨c, tail, rfl, hdigit⟩ := h.exists_cons
      have hc : c ≠ '-' := by
        rintro rfl
        cases hdigit
      rw [List.cons_append] at hwhole ⊢
      simp [Numeral.reader, hc, hwhole, hfraction, hpower, bind, Except.bind, pure, Except.pure]

/-- An integer of 64 bits is read as an integer. -/
theorem number_natural {n : Nat} {text rest : List Char} (h : NaturalText n text)
    (hn : n < UInt64.size) (hrest : Boundary rest) :
    number (text ++ rest) = .ok (.integer n, rest) := by
  have hread := reader_natural h hrest false .endOfValue
  have habsorb : Numeral.absorb 0 (digitValues text) = (n, text.length) := by
    have hvalue := h.numeral.value_eq
    rw [absorb_of_lt text 0 (by rwa [hvalue]), hvalue]
  have hlength : (digitValues text).length = text.length := List.length_map _
  simp only [Bool.false_eq_true, if_false, List.nil_append] at hread
  simp [number, hread, Numeral.value, habsorb, hlength, bind, Except.bind, pure, Except.pure]

theorem naturalReader_reads {n bound : Nat} {text : List Char} (h : NaturalText n text)
    (hn : n < bound) (hbound : bound ≤ UInt64.size) (expected : String) :
    Reads (naturalReader bound expected) text (.ok n) := by
  intro space rest hspace hrest
  have hnumber := number_natural h (Nat.lt_of_lt_of_le hn hbound) hrest
  obtain ⟨c, tail, rfl, hdigit⟩ := h.exists_cons
  have hrange : (0 : Int) ≤ n ∧ (n : Int) < bound := by omega
  rw [List.cons_append] at hnumber ⊢
  simp only [naturalReader, dropSpace_append hspace, dropSpace_cons (isSpace_of_isDigit hdigit),
    hdigit, Bool.or_true, if_true, hnumber, bind, Except.bind]
  rw [if_pos hrange]
  rfl

theorem head?_toDigits {n : Nat} (h : 0 < n) : (Nat.toDigits 10 n).head? ≠ some '0' := by
  induction n using Nat.strongRecOn with
  | ind n ih =>
      rw [Nat.toDigits_eq_if (by decide)]
      by_cases hlt : n < 10
      · rw [if_pos hlt]
        intro hhead
        have hvalue := congrArg Char.toNat (Option.some.inj hhead)
        rw [Nat.toNat_digitChar_of_lt_ten hlt] at hvalue
        have hzero : ('0' : Char).toNat = 48 := rfl
        omega
      · rw [if_neg hlt, List.head?_append_of_ne_nil _ Nat.toDigits_ne_nil]
        exact ih (n / 10) (by omega) (by omega)

theorem naturalText_toString (n : Nat) : NaturalText n (toString n).toList := by
  have htext : (toString n).toList = Nat.toDigits 10 n := by
    rw [Nat.toString_eq_ofList_toDigits, String.toList_ofList]
  rw [htext]
  refine ⟨⟨Nat.toDigits_ne_nil, fun c hc => Nat.isDigit_of_mem_toDigits (by decide) (by decide) hc,
    Nat.ofDigitChars_ten_toDigits⟩, fun hhead => ?_⟩
  cases n with
  | zero => rfl
  | succ n => exact absurd hhead (head?_toDigits (Nat.succ_pos n))

/-! ## Strings and names -/

theorem dropSpace_quote (rest : List Char) : dropSpace ('"' :: rest) = '"' :: rest :=
  dropSpace_cons rfl rest

theorem stringReader_reads {s : String} {text : List Char} (h : StringText s text)
    (expected : String) : Reads (stringReader expected) text (.ok s) := by
  intro space rest hspace hrest
  cases h with
  | quoted hbody =>
      rw [stringReader, dropSpace_append hspace, List.cons_append, dropSpace_quote]
      simp only [hbody.read, Except.map, String.ofList_toList]

theorem nameReader_reads {α : Type} {parse? : String → Option α} {s : String} {value : α}
    (hvalue : parse? s = some value) {text : List Char} (h : StringText s text)
    (allowed : String) : Reads (nameReader parse? allowed) text (.ok value) := by
  intro space rest hspace hrest
  have hread := stringReader_reads h "variant identifier" [] rest nofun hrest
  cases h with
  | quoted hbody =>
      rw [List.nil_append, List.cons_append] at hread
      simp only [nameReader, dropSpace_append hspace, List.cons_append, dropSpace_quote, if_true]
      rw [hread]
      simp only [Except.map, bind, Except.bind, hvalue]
      rfl

/-! ## Values that are skipped -/

/-- The texts of values that are neither lists nor objects nor fractions. -/
inductive Scalar : List Char → Prop
  | null : Scalar ['n', 'u', 'l', 'l']
  | true : Scalar ['t', 'r', 'u', 'e']
  | false : Scalar ['f', 'a', 'l', 's', 'e']
  | integer {n : Nat} {text : List Char} (negative : Bool) (h : NaturalText n text) :
      Scalar ((if negative then ['-'] else []) ++ text)
  | string {s : String} {text : List Char} (h : StringText s text) : Scalar text

theorem skipPiece_scalar {text : List Char} (h : Scalar text) {space rest : List Char}
    (hspace : Spaces space) (hrest : Boundary rest) :
    skipPiece [] (space ++ (text ++ rest)) = .ok ([], rest) := by
  rw [skipPiece, dropSpace_append hspace]
  cases h with
  | null | true | false => rfl
  | @integer n digits negative h =>
      have hskip :
          skipNumber ((if negative then ['-'] else []) ++ (digits ++ rest)) = .ok rest := by
        rw [skipNumber, reader_natural h hrest negative]
        rfl
      cases negative with
      | true =>
          simp only [if_true, List.cons_append, List.nil_append] at hskip ⊢
          rw [dropSpace_cons rfl]
          simp only [Char.reduceEq, if_false, hskip]
          rfl
      | false =>
          obtain ⟨c, tail, rfl, hdigit⟩ := h.exists_cons
          have hne : ∀ d : Char, d.isDigit = false → c ≠ d := by
            rintro d hd rfl
            rw [hd] at hdigit
            cases hdigit
          simp only [Bool.false_eq_true, if_false, List.nil_append, List.cons_append] at hskip ⊢
          rw [dropSpace_cons (isSpace_of_isDigit hdigit)]
          simp only [hne '[' rfl, hne '\x7b' rfl, hne '"' rfl, hne 'n' rfl, hne 't' rfl,
            hne 'f' rfl, if_false, hdigit, Bool.or_true, if_true, hskip]
          rfl
  | string h =>
      cases h with
      | quoted hbody =>
          rw [List.cons_append, dropSpace_quote]
          simp only [Char.reduceEq, if_false, if_true, hbody.skip]
          rfl

theorem skipValue_scalar {text : List Char} (h : Scalar text) {space rest : List Char}
    (hspace : Spaces space) (hrest : Boundary rest) :
    skipValue (space ++ (text ++ rest)) = .ok rest := by
  rw [skipValue, skipPieces, skipPiece_scalar h hspace hrest]
  rfl

end SlotServer.JsonText
