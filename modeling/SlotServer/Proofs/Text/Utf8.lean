import SlotServer.Text.Utf8

/-!
# Decoding what was encoded

The bytes of a character are a lead and the continuation bytes that the lead promises, so decoding
finds the character again and stops right after it, whatever bytes follow.
-/

namespace SlotServer.Utf8

/-! ## Single bytes -/

theorem toNat_ofNat_of_le {n : Nat} (h : n ≤ 255) : (UInt8.ofNat n).toNat = n :=
  UInt8.toNat_ofNat_of_lt' (by simp [UInt8.size]; omega)

/-- A continuation byte between the bounds adds its six bits to those read so far. -/
theorem continuation_cons {low high : UInt8} {n : Nat} (count bits : Nat) (rest : Bytes)
    (hn : n < 64) (hlow : low.toNat ≤ n + 128) (hhigh : n + 128 ≤ high.toNat) :
    continuation (count + 1) low high bits (UInt8.ofNat (n + 128) :: rest) =
      continuation count 0x80 0xBF (bits * 64 + n) rest := by
  have hbyte : (UInt8.ofNat (n + 128)).toNat = n + 128 := toNat_ofNat_of_le (by omega)
  have hbounds : low ≤ UInt8.ofNat (n + 128) ∧ UInt8.ofNat (n + 128) ≤ high := by
    rw [UInt8.le_iff_toNat_le, UInt8.le_iff_toNat_le, hbyte]
    exact ⟨hlow, hhigh⟩
  rw [continuation, if_pos hbounds, hbyte, Nat.add_sub_cancel]

theorem Lead.ofByte?_two {n : Nat} (hlow : 2 ≤ n) (hhigh : n < 32) :
    Lead.ofByte? (UInt8.ofNat (n + 192)) = some ⟨n, 1, 0x80, 0xBF⟩ := by
  have hbyte : (UInt8.ofNat (n + 192)).toNat = n + 192 := toNat_ofNat_of_le (by omega)
  simp only [ofByte?, hbyte]
  rw [if_neg (by omega), if_pos (by omega), Nat.add_sub_cancel]

/-- The lead of three bytes. After the least lead the next byte must not be too low, and after the
lead of the surrogates it must not be too high. -/
theorem Lead.ofByte?_three {n m : Nat} (hn : n < 16) (hm : m < 64) (hleast : n = 0 → 32 ≤ m)
    (hsurrogate : n = 13 → m < 32) :
    ∃ low high, Lead.ofByte? (UInt8.ofNat (n + 224)) = some ⟨n, 2, low, high⟩ ∧
      low.toNat ≤ m + 128 ∧ m + 128 ≤ high.toNat := by
  have hbyte : (UInt8.ofNat (n + 224)).toNat = n + 224 := toNat_ofNat_of_le (by omega)
  by_cases h₀ : n = 0
  · subst n
    exact ⟨0xA0, 0xBF, by decide, by simpa using hleast rfl, by simp; omega⟩
  · by_cases h₁ : n = 13
    · subst n
      have := hsurrogate rfl
      exact ⟨0x80, 0x9F, by decide, by simp, by simp; omega⟩
    · refine ⟨0x80, 0xBF, ?_, by simp, by simp; omega⟩
      simp only [ofByte?, hbyte]
      rw [if_neg (by omega), if_neg (by omega), if_neg (by omega), if_neg (by omega),
        if_pos (by omega), Nat.add_sub_cancel]

/-- The lead of four bytes. After the least lead the next byte must not be too low, and after the
greatest it must not be too high. -/
theorem Lead.ofByte?_four {n m : Nat} (hn : n ≤ 4) (hm : m < 64) (hleast : n = 0 → 16 ≤ m)
    (hgreatest : n = 4 → m < 16) :
    ∃ low high, Lead.ofByte? (UInt8.ofNat (n + 240)) = some ⟨n, 3, low, high⟩ ∧
      low.toNat ≤ m + 128 ∧ m + 128 ≤ high.toNat := by
  have hbyte : (UInt8.ofNat (n + 240)).toNat = n + 240 := toNat_ofNat_of_le (by omega)
  by_cases h₀ : n = 0
  · subst n
    exact ⟨0x90, 0xBF, by decide, by simpa using hleast rfl, by simp; omega⟩
  · by_cases h₁ : n = 4
    · subst n
      have := hgreatest rfl
      exact ⟨0x80, 0x8F, by decide, by simp, by simp; omega⟩
    · refine ⟨0x80, 0xBF, ?_, by simp, by simp; omega⟩
      simp only [ofByte?, hbyte]
      rw [if_neg (by omega), if_neg (by omega), if_neg (by omega), if_neg (by omega),
        if_neg (by omega), if_neg (by omega), if_pos (by omega), Nat.add_sub_cancel]

/-! ## Characters -/

theorem decodeOne_of_lead {n : Nat} {lead : Lead} {rest left : Bytes} {value : Nat}
    (hlow : 128 ≤ n) (hhigh : n ≤ 255) (hlead : Lead.ofByte? (UInt8.ofNat n) = some lead)
    (hvalue : continuation lead.count lead.low lead.high lead.bits rest = (some value, left)) :
    decodeOne (UInt8.ofNat n) rest = (Char.ofNat value, left) := by
  have hlt : ¬ UInt8.ofNat n < 0x80 := by
    rw [UInt8.lt_iff_toNat_lt, toNat_ofNat_of_le hhigh]
    simpa using hlow
  rw [decodeOne, if_neg hlt, hlead]
  simp only [hvalue, Option.map_some, Option.getD_some]

theorem decodeOne_one {v : Nat} (hhigh : v ≤ 0x7F) (rest : Bytes) :
    decodeOne (UInt8.ofNat v) rest = (Char.ofNat v, rest) := by
  have hbyte : (UInt8.ofNat v).toNat = v := toNat_ofNat_of_le (by omega)
  have hlt : UInt8.ofNat v < 0x80 := by
    rw [UInt8.lt_iff_toNat_lt, hbyte]
    simp; omega
  rw [decodeOne, if_pos hlt, hbyte]

theorem decodeOne_two {v : Nat} (hlow : 0x7F < v) (hhigh : v ≤ 0x7FF) (rest : Bytes) :
    decodeOne (UInt8.ofNat (v / 64 % 32 + 192)) (UInt8.ofNat (v % 64 + 128) :: rest) =
      (Char.ofNat v, rest) := by
  have hlead := Lead.ofByte?_two (n := v / 64 % 32) (by omega) (by omega)
  have hbits : v / 64 % 32 * 64 + v % 64 = v := by omega
  refine decodeOne_of_lead (by omega) (by omega) hlead ?_
  rw [continuation_cons _ _ _ (by omega) (by simp) (by simp; omega), hbits, continuation]

theorem decodeOne_three {v : Nat} (hlow : 0x7FF < v) (hhigh : v ≤ 0xFFFF)
    (hvalid : v < 0xD800 ∨ 0xDFFF < v) (rest : Bytes) :
    decodeOne (UInt8.ofNat (v / 4096 % 16 + 224))
      (UInt8.ofNat (v / 64 % 64 + 128) :: UInt8.ofNat (v % 64 + 128) :: rest) =
      (Char.ofNat v, rest) := by
  obtain ⟨low, high, hlead, hfirst⟩ := Lead.ofByte?_three (n := v / 4096 % 16) (m := v / 64 % 64)
    (by omega) (by omega) (by omega) (by omega)
  have hbits : (v / 4096 % 16 * 64 + v / 64 % 64) * 64 + v % 64 = v := by omega
  refine decodeOne_of_lead (by omega) (by omega) hlead ?_
  rw [continuation_cons _ _ _ (by omega) hfirst.1 hfirst.2,
    continuation_cons _ _ _ (by omega) (by simp) (by simp; omega), hbits, continuation]

theorem decodeOne_four {v : Nat} (hlow : 0xFFFF < v) (hhigh : v < 0x110000) (rest : Bytes) :
    decodeOne (UInt8.ofNat (v / 262144 % 8 + 240))
      (UInt8.ofNat (v / 4096 % 64 + 128) :: UInt8.ofNat (v / 64 % 64 + 128) ::
        UInt8.ofNat (v % 64 + 128) :: rest) = (Char.ofNat v, rest) := by
  obtain ⟨low, high, hlead, hfirst⟩ := Lead.ofByte?_four (n := v / 262144 % 8)
    (m := v / 4096 % 64) (by omega) (by omega) (by omega) (by omega)
  have hbits : ((v / 262144 % 8 * 64 + v / 4096 % 64) * 64 + v / 64 % 64) * 64 + v % 64 = v := by
    omega
  refine decodeOne_of_lead (by omega) (by omega) hlead ?_
  rw [continuation_cons _ _ _ (by omega) hfirst.1 hfirst.2,
    continuation_cons _ _ _ (by omega) (by simp) (by simp; omega),
    continuation_cons _ _ _ (by omega) (by simp) (by simp; omega), hbits, continuation]

/-- The first byte of a character tells how many more there are, and together they are the
character again. -/
theorem decodeOne_utf8EncodeChar (c : Char) (rest : Bytes) :
    ∃ b tail, String.utf8EncodeChar c = b :: tail ∧ decodeOne b (tail ++ rest) = (c, rest) := by
  have hvalid : c.val.toNat < 0xD800 ∨ 0xDFFF < c.val.toNat ∧ c.val.toNat < 0x110000 := c.valid
  have hchar : Char.ofNat c.val.toNat = c := Char.ofNat_toNat c
  unfold String.utf8EncodeChar
  generalize c.val.toNat = v at hvalid hchar
  rw [← hchar]
  by_cases hone : v ≤ 0x7F
  · exact ⟨_, _, if_pos hone, decodeOne_one hone rest⟩
  · by_cases htwo : v ≤ 0x7FF
    · refine ⟨_, _, (if_neg hone).trans (if_pos htwo), ?_⟩
      exact decodeOne_two (by omega) htwo rest
    · by_cases hthree : v ≤ 0xFFFF
      · refine ⟨_, _, ((if_neg hone).trans (if_neg htwo)).trans (if_pos hthree), ?_⟩
        exact decodeOne_three (by omega) hthree (by omega) rest
      · refine ⟨_, _, ((if_neg hone).trans (if_neg htwo)).trans (if_neg hthree), ?_⟩
        exact decodeOne_four (by omega) (by omega) rest

/-! ## Texts -/

theorem decode_cons (b : UInt8) (rest : Bytes) :
    decode (b :: rest) = (decodeOne b rest).1 :: decode (decodeOne b rest).2 := by
  rw [decode]

/-- The bytes of a text decode to the text, and what follows them is decoded on its own. -/
theorem decode_encode_append (text : List Char) (rest : Bytes) :
    decode (encode text ++ rest) = text ++ decode rest := by
  induction text with
  | nil => rfl
  | cons c text ih =>
      obtain ⟨b, tail, hbytes, hone⟩ := decodeOne_utf8EncodeChar c (encode text ++ rest)
      have hencode : encode (c :: text) ++ rest = b :: (tail ++ (encode text ++ rest)) := by
        simp [encode, hbytes]
      rw [hencode, decode_cons, hone, ih, List.cons_append]

theorem decode_encode (text : List Char) : decode (encode text) = text := by
  simpa [decode] using decode_encode_append text []

theorem decodeString?_eq_some_iff (bytes : Bytes) (text : String) :
    decodeString? bytes = some text ↔ encodeString text = bytes := by
  simp only [decodeString?, encodeString, Option.ite_none_right_eq_some, Option.some.injEq]
  constructor
  · rintro ⟨hencode, rfl⟩
    rwa [String.toList_ofList]
  · rintro rfl
    rw [decode_encode]
    exact ⟨rfl, String.ofList_toList⟩

end SlotServer.Utf8
