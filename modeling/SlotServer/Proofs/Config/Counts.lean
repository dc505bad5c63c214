import Mathlib.Algebra.Group.Nat.Defs
import SlotServer.Proofs.Config.Assignments
import SlotServer.Proofs.Json.Scalars

/-!
# Counts

A count is read exactly: from the numerals of the numbers that 64 bits hold, with an optional plus
sign, and no other text. Zero is told apart from what is no number; a number that is too large is
never taken for a smaller one. So whatever gives a configuration its counts, they are at least one.
-/

namespace SlotServer

namespace Text

/-! ## Numbers that are too large -/

/-- Digits at the start of a text make a number too large that already has a value. -/
def Exceeds (bound value : Nat) (text : List Char) : Prop :=
  ∃ digits rest, digits ++ rest = text ∧ (∀ c ∈ digits, c.isDigit = true) ∧
    bound < Nat.ofDigitChars 10 digits value

theorem exceeds_of_lt {bound value : Nat} (h : bound < value) (text : List Char) :
    Exceeds bound value text :=
  ⟨[], text, rfl, nofun, h⟩

theorem not_exceeds_nil {bound value : Nat} (h : value ≤ bound) : ¬ Exceeds bound value [] := by
  rintro ⟨digits, rest, htext, -, hvalue⟩
  rw [(List.append_eq_nil_iff.mp htext).1] at hvalue
  exact Nat.not_lt_of_le h hvalue

theorem exceeds_cons_iff {bound value : Nat} (h : value ≤ bound) (c : Char) (text : List Char) :
    Exceeds bound value (c :: text) ↔
      c.isDigit = true ∧ Exceeds bound (10 * value + (c.toNat - '0'.toNat)) text := by
  constructor
  · rintro ⟨digits, rest, htext, hdigits, hvalue⟩
    cases digits with
    | nil => exact absurd hvalue (Nat.not_lt_of_le h)
    | cons d digits =>
        obtain ⟨rfl, rfl⟩ := List.cons.inj htext
        obtain ⟨hdigit, hdigits⟩ := List.forall_mem_cons.mp hdigits
        exact ⟨hdigit, digits, rest, rfl, hdigits, hvalue⟩
  · rintro ⟨hdigit, digits, rest, rfl, hdigits, hvalue⟩
    exact ⟨c :: digits, rest, rfl, List.forall_mem_cons.mpr ⟨hdigit, hdigits⟩, hvalue⟩

/-- Reading stops at the first digit that makes the number too large, whatever stands behind it. -/
theorem readDigits_eq_excess_iff {bound value : Nat} (h : value ≤ bound) {excess : IntegerError}
    (hexcess : excess ≠ .invalidDigit) (text : List Char) :
    readDigits bound excess value text = .error excess ↔ Exceeds bound value text := by
  induction text generalizing value with
  | nil => simp [readDigits, not_exceeds_nil h]
  | cons c text ih =>
      have hnext : value * 10 + (c.toNat - '0'.toNat) = 10 * value + (c.toNat - '0'.toNat) := by
        rw [Nat.mul_comm]
      rw [readDigits, digit?_ten, exceeds_cons_iff h]
      by_cases hdigit : c.isDigit = true
      · simp only [hdigit, if_true, true_and, hnext]
        by_cases hbound : bound < 10 * value + (c.toNat - '0'.toNat)
        · rw [if_pos hbound]
          exact iff_of_true rfl (exceeds_of_lt hbound text)
        · rw [if_neg hbound]
          exact ih (Nat.le_of_not_lt hbound)
      · simp [hdigit, Ne.symm hexcess]

theorem readNumber_eq_excess_iff (bound : Nat) {excess : IntegerError}
    (hexcess : excess ≠ .invalidDigit) (text : List Char) :
    readNumber bound excess text = .error excess ↔
      ∃ start rest n, start ++ rest = text ∧ Numeral start n ∧ bound < n := by
  have hread : readNumber bound excess text = .error excess ↔
      readDigits bound excess 0 text = .error excess := by
    cases text with
    | nil => simp [readNumber, readDigits, Ne.symm hexcess]
    | cons c text => rw [readNumber, if_neg (by simp)]
  rw [hread, readDigits_eq_excess_iff (Nat.zero_le bound) hexcess]
  constructor
  · rintro ⟨digits, rest, htext, hdigits, hvalue⟩
    refine ⟨digits, rest, _, htext, ⟨?_, hdigits, rfl⟩, hvalue⟩
    rintro rfl
    exact Nat.not_lt_zero bound hvalue
  · rintro ⟨start, rest, n, htext, hnumeral, hn⟩
    exact ⟨start, rest, htext, hnumeral.isDigit, hnumeral.value_eq.symm ▸ hn⟩

/-- A text counts as too large exactly if it starts with the numeral of a number that is. -/
theorem readUnsigned_eq_tooLarge_iff (bound : Nat) (text : List Char) :
    readUnsigned bound text = .error .tooLarge ↔
      ∃ start rest n, start ++ rest = text ∧ UnsignedNumeral start n ∧ bound < n := by
  have hne : IntegerError.tooLarge ≠ .invalidDigit := nofun
  unfold readUnsigned
  split
  · simp only [Except.error.injEq, reduceCtorEq, false_iff]
    rintro ⟨start, rest, n, htext, hnumeral, -⟩
    rw [(List.append_eq_nil_iff.mp htext).1] at hnumeral
    rcases hnumeral with hnumeral | _
    exact hnumeral.ne_nil rfl
  · rename_i text
    rw [readNumber_eq_excess_iff bound hne]
    constructor
    · rintro ⟨start, rest, n, rfl, hnumeral, hn⟩
      exact ⟨'+' :: start, rest, n, rfl, .plus hnumeral, hn⟩
    · rintro ⟨start, rest, n, htext, hnumeral, hn⟩
      rcases hnumeral with hnumeral | hnumeral
      · -- A plus sign is no digit, so the numeral cannot start with it.
        cases start with
        | nil => exact absurd rfl hnumeral.ne_nil
        | cons c start =>
            obtain ⟨rfl, -⟩ := List.cons.inj htext
            exact absurd hnumeral (not_numeral_cons rfl start n)
      · exact ⟨_, rest, n, (List.cons.inj htext).2, hnumeral, hn⟩
  · rename_i hplus
    rw [readNumber_eq_excess_iff bound hne]
    constructor
    · rintro ⟨start, rest, n, htext, hnumeral, hn⟩
      exact ⟨start, rest, n, htext, .bare hnumeral, hn⟩
    · rintro ⟨start, rest, n, htext, hnumeral | hnumeral, hn⟩
      · exact ⟨start, rest, n, htext, hnumeral, hn⟩
      · exact absurd htext.symm (hplus _)

end Text

/-! ## Reading a count -/

/-- What reading a count makes of a text: the number that it is a numeral of, unless this is zero or
too large. -/
structure CountReading (text : String) : Prop where
  ok_iff : ∀ n, (readCount text).map UInt64.toNat = .ok n ↔
    Text.UnsignedNumeral text.toList n ∧ 1 ≤ n ∧ n ≤ 2 ^ 64 - 1
  zero_iff : readCount text = .error .zero ↔ Text.UnsignedNumeral text.toList 0
  notAnInteger_iff : (∃ error, readCount text = .error (.notAnInteger error)) ↔
    ∀ n ≤ 2 ^ 64 - 1, ¬ Text.UnsignedNumeral text.toList n
  tooLarge_iff : readCount text = .error (.notAnInteger .tooLarge) ↔
    ∃ start rest n, start ++ rest = text.toList ∧ Text.UnsignedNumeral start n ∧ 2 ^ 64 - 1 < n
  message_iff : ∀ error, readCount text = .error error →
    (error.message = "value must be at least 1" ↔ Text.UnsignedNumeral text.toList 0)

theorem readCount_eq_zero_iff (text : String) :
    readCount text = .error .zero ↔
      Text.readUnsigned 0xFFFFFFFFFFFFFFFF text.toList = .ok 0 := by
  unfold readCount
  cases Text.readUnsigned 0xFFFFFFFFFFFFFFFF text.toList with
  | error error => simp
  | ok n => by_cases hn : n = 0 <;> simp [hn]

theorem readCount_eq_notAnInteger_iff (text : String) (error : Text.IntegerError) :
    readCount text = .error (.notAnInteger error) ↔
      Text.readUnsigned 0xFFFFFFFFFFFFFFFF text.toList = .error error := by
  unfold readCount
  cases Text.readUnsigned 0xFFFFFFFFFFFFFFFF text.toList with
  | error other => simp
  | ok n => by_cases hn : n = 0 <;> simp [hn]

theorem toNat_toUInt64 {n : Nat} (h : n ≤ 2 ^ 64 - 1) : n.toUInt64.toNat = n := by
  rw [Nat.toUInt64_eq, UInt64.toNat_ofNat']
  omega

theorem readCount_eq_ok_nat_iff (text : String) (n : Nat) :
    (readCount text).map UInt64.toNat = .ok n ↔
      Text.UnsignedNumeral text.toList n ∧ 1 ≤ n ∧ n ≤ 2 ^ 64 - 1 := by
  simp only [map_eq_ok_iff, readCount_eq_ok_iff]
  constructor
  · rintro ⟨count, ⟨hnumeral, hpos⟩, rfl⟩
    have := count.toNat_lt
    exact ⟨hnumeral, hpos, by omega⟩
  · rintro ⟨hnumeral, hpos, hn⟩
    have hcount := toNat_toUInt64 hn
    exact ⟨n.toUInt64, by rw [hcount]; exact ⟨hnumeral, hpos⟩, hcount⟩

/-- What is wrong with a count that cannot be read. -/
theorem cases_of_readCount_eq_error {text : String} {error : ValueError}
    (h : readCount text = .error error) : error = .zero ∨ ∃ cause, error = .notAnInteger cause := by
  unfold readCount at h
  split at h
  · exact .inr ⟨_, (Except.error.inj h).symm⟩
  · split at h
    · exact .inl (Except.error.inj h).symm
    · cases h

theorem readCount_reading (text : String) : CountReading text := by
  have hread := Text.readUnsigned_eq_ok_iff 0xFFFFFFFFFFFFFFFF text.toList
  have hzero : readCount text = .error .zero ↔ Text.UnsignedNumeral text.toList 0 := by
    rw [readCount_eq_zero_iff, hread]
    exact and_iff_left (Nat.zero_le _)
  refine ⟨readCount_eq_ok_nat_iff text, hzero, ?_, ?_, ?_⟩
  · simp only [readCount_eq_notAnInteger_iff]
    constructor
    · rintro ⟨error, herror⟩ n hn hnumeral
      rw [(hread n).mpr ⟨hnumeral, hn⟩] at herror
      cases herror
    · intro hnone
      cases hresult : Text.readUnsigned 0xFFFFFFFFFFFFFFFF text.toList with
      | error error => exact ⟨error, rfl⟩
      | ok n =>
          obtain ⟨hnumeral, hn⟩ := (hread n).mp hresult
          exact absurd hnumeral (hnone n hn)
  · rw [readCount_eq_notAnInteger_iff]
    exact Text.readUnsigned_eq_tooLarge_iff _ _
  · intro error herror
    rw [← hzero, herror, Except.error.injEq]
    rcases cases_of_readCount_eq_error herror with rfl | ⟨cause, rfl⟩
    · simp [ValueError.message]
    · cases cause <;> simp [ValueError.message, Text.IntegerError.message]

/-- The shortest numeral of a count is one of the texts that it is read from. -/
theorem readCount_toString {n : Nat} (hpos : 1 ≤ n) (hn : n ≤ 2 ^ 64 - 1) :
    readCount (toString n) = .ok n.toUInt64 := by
  have hnumeral := (JsonText.naturalText_toString n).numeral
  rw [readCount_eq_ok_iff, toNat_toUInt64 hn]
  exact ⟨.bare hnumeral, hpos⟩

/-! ## Where configurations come from -/

/-- Every value is one that some text stands for. -/
def Config.Legal (config : Config) : Prop :=
  ∀ setting : Setting, ∃ text, setting.Denotes text (config.value setting)

theorem Config.legal_default : Config.default.Legal :=
  fun setting => ⟨setting.defaultText, setting.denotes_defaultText⟩

theorem Config.Legal.put {config : Config} (h : config.Legal) {setting : Setting} {text : String}
    {value : setting.Value} (hvalue : setting.Denotes text value) :
    (config.put setting value).Legal := by
  intro other
  by_cases hother : setting = other
  · subst hother
    exact ⟨text, by rwa [Config.value_put_self]⟩
  · rw [Config.value_put_of_ne config hother value]
    exact h other

theorem Config.Legal.counts {config : Config} (h : config.Legal) :
    1 ≤ config.maxConnections.toNat ∧ 1 ≤ config.bufferSize.toNat := by
  obtain ⟨_, -, hconnections⟩ := h .maxConnections
  obtain ⟨_, -, hbuffer⟩ := h .bufferSize
  exact ⟨hconnections, hbuffer⟩

namespace CommandLine

/-- Whatever this comes to, if it comes to anything, has the property. -/
def Ensures {α : Type} (property : α → Prop) (result : Except Refusal α) : Prop :=
  ∀ a, result = .ok a → property a

theorem Ensures.error {α : Type} {property : α → Prop} (refusal : Refusal) :
    Ensures property (.error refusal) :=
  nofun

theorem Ensures.ok {α : Type} {property : α → Prop} {a : α} (h : property a) :
    Ensures property (.ok a) := by
  intro b hb
  rwa [← Except.ok.inj hb]

theorem Ensures.bind {α β : Type} {property : α → Prop} {result : Except Refusal α}
    (h : Ensures property result) {goal : β → Prop} {step : α → Except Refusal β}
    (hstep : ∀ a, property a → Ensures goal (step a)) : Ensures goal (result >>= step) := by
  cases result with
  | error refusal => exact .error refusal
  | ok a => exact hstep a (h a rfl)

namespace Progress

/-- The configuration so far is legal. -/
def Sound (progress : Progress) : Prop :=
  progress.config.Legal

variable {progress : Progress} (h : progress.Sound)

include h

theorem sound_take (setting : Setting) (bytes : Bytes) :
    Ensures Sound (progress.take setting bytes) := by
  intro next hnext
  obtain ⟨-, value, ⟨text, -, hvalue⟩, rfl⟩ := (take_eq_ok_iff _ _ _ _).mp hnext
  exact h.put hvalue

theorem sound_settle : Ensures Sound progress.settle := by
  unfold settle
  split
  · exact .ok h
  · exact .error _
  · apply sound_take
    exact h

theorem sound_plainArgument (bytes : Bytes) : Ensures Sound (progress.plainArgument bytes) := by
  unfold plainArgument
  split
  · exact .error _
  · exact (sound_settle h).bind fun next hnext => .ok hnext

theorem sound_valueArgument (bytes : Bytes) : Ensures Sound (progress.valueArgument bytes) := by
  unfold valueArgument
  split
  · exact .ok h
  · exact sound_plainArgument h bytes

theorem sound_longFlag (name : Bytes) (value : Option Bytes) :
    Ensures Sound (progress.longFlag name value) := by
  have hsettle := sound_settle h
  unfold longFlag
  split
  · exact .error _
  · split
    · exact .error _
    · exact hsettle.bind fun next hnext => sound_take hnext _ _
    · exact hsettle.bind fun next hnext => .ok hnext
    · exact .error _
    · exact hsettle.bind fun _ _ => .error _
    · exact hsettle.bind fun _ _ => .error _

theorem sound_shortFlag (flags : Bytes) : Ensures Sound (progress.shortFlag flags) := by
  have hsettle := sound_settle h
  unfold shortFlag
  dsimp only
  split
  · exact hsettle.bind fun _ _ => .error _
  · split
    · exact hsettle.bind fun _ _ => .error _
    · split <;> exact .error _

theorem sound_argument (bytes : Bytes) : Ensures Sound (progress.argument bytes) := by
  unfold argument
  split
  · exact sound_plainArgument h bytes
  · split
    · split
      · split
        · exact .ok h
        · exact sound_longFlag h _ _
      · split
        · exact sound_shortFlag h _
        · exact sound_valueArgument h _
    · exact sound_valueArgument h _

theorem sound_arguments (arguments : List Bytes) :
    Ensures Sound (arguments.foldlM argument progress) := by
  induction arguments generalizing progress with
  | nil => exact .ok h
  | cons bytes arguments ih =>
      rw [List.foldlM_cons]
      exact (sound_argument h bytes).bind fun next hnext => ih hnext

theorem sound_fromEnvironment (environment : Environment) (settings : List Setting) :
    Ensures Sound (progress.fromEnvironment environment settings) := by
  induction settings generalizing progress with
  | nil => exact .ok h
  | cons setting settings ih =>
      rw [fromEnvironment]
      split
      · exact ih h
      · split
        · exact ih h
        · exact (sound_take h _ _).bind fun next hnext => ih hnext

end Progress

end CommandLine

open CommandLine in
/-- Arguments and environment can only give what they are read from, whatever they are. -/
theorem Config.legal_of_load {arguments : List Bytes} {environment : Environment}
    {config : Config} (h : Config.load arguments environment = .ok config) : config.Legal := by
  have hstart : Progress.start.Sound := Config.legal_default
  have hload : Ensures Legal (Config.load arguments environment) :=
    (Progress.sound_arguments hstart arguments.tail).bind fun _ hread =>
      (Progress.sound_settle hread).bind fun _ hsettled =>
        (Progress.sound_fromEnvironment hsettled environment Setting.all).bind fun _ hfilled =>
          .ok hfilled
  exact hload config h

/-- A count is read from the numerals of the numbers from 1 to the greatest one of 64 bits, and from
nothing else. Its own numeral gives it back, and no configuration that is loaded has a count of
zero, wherever its values come from. -/
theorem readCount_exact :
    (∀ text, CountReading text) ∧
    (∀ n : Nat, 1 ≤ n → n ≤ 2 ^ 64 - 1 → readCount (toString n) = .ok n.toUInt64) ∧
    ∀ arguments environment config, Config.load arguments environment = .ok config →
      1 ≤ config.maxConnections.toNat ∧ 1 ≤ config.bufferSize.toNat :=
  ⟨readCount_reading, fun _ => readCount_toString,
    fun _ _ _ h => (Config.legal_of_load h).counts⟩

/-- A sign and leading zeros in front of the greatest count, one more than it, and the two counts
from different sources. -/
theorem readCount_exact_greatest :
    let arguments : List Bytes := [[0x78], Utf8.encodeString "--max-connections=+007"]
    let environment : Environment := [("CMDSLOT_BUFFER_SIZE", Utf8.encodeString "1")]
    (readCount "+0018446744073709551615").map UInt64.toNat = .ok (2 ^ 64 - 1) ∧
    readCount "18446744073709551616" = .error (.notAnInteger .tooLarge) ∧
    readCount (toString 2048) = .ok 2048 ∧
    ∃ config, Config.load arguments environment = .ok config ∧
      1 ≤ config.maxConnections.toNat ∧ 1 ≤ config.bufferSize.toNat := by
  intro arguments environment
  obtain ⟨hread, hown, hload⟩ := readCount_exact
  have hgreatest : Text.UnsignedNumeral "+0018446744073709551615".toList (2 ^ 64 - 1) :=
    .plus ⟨by decide, List.all_eq_true.mp (by decide), by decide⟩
  have hbeyond : Text.UnsignedNumeral "18446744073709551616".toList (2 ^ 64) :=
    .bare ⟨by decide, List.all_eq_true.mp (by decide), by decide⟩
  have hconfig : Config.load arguments environment =
      .ok { Config.default with maxConnections := 7, bufferSize := 1 } := by decide +kernel
  exact ⟨((hread _).ok_iff _).mpr ⟨hgreatest, by decide, by decide⟩,
    (hread _).tooLarge_iff.mpr ⟨_, [], _, List.append_nil _, hbeyond, by decide⟩,
    hown 2048 (by decide) (by decide), _, hconfig, hload _ _ _ hconfig⟩

end SlotServer
