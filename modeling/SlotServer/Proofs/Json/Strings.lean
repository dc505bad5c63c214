import SlotServer.Json.Lexeme
import SlotServer.Json.Written
import Mathlib.Tactic.SplitIfs

/-!
# Texts of strings

The texts that a string has in JSON: each character stands for itself, if it may, or is escaped by
a letter or by one or two numbers. All of them are read as the string, and all of them are skipped.
The written form of a string is one of its texts.
-/

namespace SlotServer.JsonText

/-! ## Grammar -/

/-- A hexadecimal digit of a value, in lower or in upper case. -/
inductive HexDigit (n : Nat) : Char → Prop
  | lower (h : n < 16) : HexDigit n (Nat.digitChar n)
  | upper (h : n < 16) : HexDigit n (Nat.digitChar n).toUpper

/-- Four hexadecimal digits of a number. -/
inductive HexText : Nat → List Char → Prop
  | digits {a b c d : Nat} {p q r s : Char} (ha : HexDigit a p) (hb : HexDigit b q)
      (hc : HexDigit c r) (hd : HexDigit d s) :
      HexText (((a * 16 + b) * 16 + c) * 16 + d) [p, q, r, s]

/-- The letters that stand for a character after a backslash. -/
def escapeLetters : List (Char × Char) :=
  [('"', '"'), ('\\', '\\'), ('/', '/'), ('b', '\x08'), ('f', '\x0c'), ('n', '\n'), ('r', '\r'),
    ('t', '\t')]

/-- The ways in which a character stands in a string. -/
inductive CharText (c : Char) : List Char → Prop
  | plain (hquote : c ≠ '"') (hbackslash : c ≠ '\\') (hcontrol : 0x20 ≤ c.toNat) :
      CharText c [c]
  | letter {letter : Char} (h : (letter, c) ∈ escapeLetters) : CharText c ['\\', letter]
  | number {digits : List Char} (h : HexText c.toNat digits) :
      CharText c ('\\' :: 'u' :: digits)
  /-- A character beyond the first 65536, as two halves. -/
  | halves {high low : Nat} {first second : List Char}
      (hhigh : 0xD800 ≤ high ∧ high ≤ 0xDBFF) (hlow : 0xDC00 ≤ low ∧ low ≤ 0xDFFF)
      (hc : c.toNat = 0x10000 + (high - 0xD800) * 0x400 + (low - 0xDC00))
      (hfirst : HexText high first) (hsecond : HexText low second) :
      CharText c ('\\' :: 'u' :: first ++ '\\' :: 'u' :: second)

/-- The texts of characters up to the closing quotation mark. -/
inductive BodyText : List Char → List Char → Prop
  | close : BodyText [] ['"']
  | char {c : Char} {cs text rest : List Char} (hc : CharText c text) (hrest : BodyText cs rest) :
      BodyText (c :: cs) (text ++ rest)

/-- The texts of a string. -/
inductive StringText (s : String) : List Char → Prop
  | quoted {body : List Char} (h : BodyText s.toList body) : StringText s ('"' :: body)

/-! ## Escapes -/

theorem HexDigit.value {n : Nat} {c : Char} (h : HexDigit n c) : hexValue? c = some n := by
  have hlower : ∀ n < 16, hexValue? (Nat.digitChar n) = some n := by decide
  have hupper : ∀ n < 16, hexValue? (Nat.digitChar n).toUpper = some n := by decide
  cases h with
  | lower hn => exact hlower n hn
  | upper hn => exact hupper n hn

theorem HexText.read {n : Nat} {text : List Char} (h : HexText n text) (rest : List Char) :
    hexEscape (text ++ rest) = .ok (n, rest) := by
  cases h with
  | digits ha hb hc hd => simp [hexEscape, ha.value, hb.value, hc.value, hd.value]

theorem unicodeEscape_number {c : Char} {digits : List Char} (h : HexText c.toNat digits)
    (rest : List Char) : unicodeEscape (digits ++ rest) = .ok (c, rest) := by
  have hvalid : c.toNat < 0xD800 ∨ 0xDFFF < c.toNat ∧ c.toNat < 0x110000 := c.valid
  have hlow : ¬ (0xDC00 ≤ c.toNat ∧ c.toNat ≤ 0xDFFF) := by omega
  have hsingle : c.toNat < 0xD800 ∨ 0xDBFF < c.toNat := by omega
  simp only [unicodeEscape, h.read, bind, Except.bind]
  rw [if_neg hlow, if_pos hsingle, Char.ofNat_toNat]
  rfl

theorem unicodeEscape_halves {c : Char} {high low : Nat} {first second : List Char}
    (hhigh : 0xD800 ≤ high ∧ high ≤ 0xDBFF) (hlow : 0xDC00 ≤ low ∧ low ≤ 0xDFFF)
    (hc : c.toNat = 0x10000 + (high - 0xD800) * 0x400 + (low - 0xDC00))
    (hfirst : HexText high first) (hsecond : HexText low second) (rest : List Char) :
    unicodeEscape (first ++ '\\' :: 'u' :: (second ++ rest)) = .ok (c, rest) := by
  have hnumber : (high - 0xD800) * 1024 + (low - 0xDC00) + 0x10000 = c.toNat := by omega
  simp only [unicodeEscape, hfirst.read, bind, Except.bind]
  rw [if_neg (by omega), if_neg (by omega)]
  simp only [hsecond.read]
  rw [if_neg (by omega), hnumber, Char.ofNat_toNat]
  rfl

theorem simpleEscape?_of_mem {letter c : Char} (h : (letter, c) ∈ escapeLetters) :
    letter ≠ 'u' ∧ simpleEscape? letter = some c := by
  have hall : ∀ entry ∈ escapeLetters,
      entry.1 ≠ 'u' ∧ simpleEscape? entry.1 = some entry.2 := by decide
  exact hall _ h

/-! ## Reading -/

theorem stringBody_escape {text rest after : List Char} {c : Char} {cs : List Char}
    (hescape : escape text = .ok (c, rest)) (hrest : stringBody rest = .ok (cs, after)) :
    stringBody ('\\' :: text) = .ok (c :: cs, after) := by
  rw [stringBody]
  simp only [Char.reduceEq, if_false, if_true]
  split
  · rename_i error herror
    rw [hescape] at herror
    cases herror
  · rename_i value rest' hok
    rw [hescape] at hok
    obtain ⟨rfl, rfl⟩ := Prod.mk.inj (Except.ok.inj hok)
    rw [hrest]
    rfl

theorem stringBody_char {c : Char} {text : List Char} (h : CharText c text)
    {rest cs after : List Char} (hrest : stringBody rest = .ok (cs, after)) :
    stringBody (text ++ rest) = .ok (c :: cs, after) := by
  cases h with
  | plain hquote hbackslash hcontrol =>
      rw [List.cons_append, List.nil_append, stringBody]
      simp only [hquote, hbackslash, Nat.not_lt.mpr hcontrol, if_false, hrest]
      rfl
  | letter h =>
      obtain ⟨hu, hvalue⟩ := simpleEscape?_of_mem h
      exact stringBody_escape (by simp [escape, hu, hvalue]) hrest
  | number h =>
      exact stringBody_escape (by simp [escape, unicodeEscape_number h]) hrest
  | halves hhigh hlow hc hfirst hsecond =>
      have hhalves := unicodeEscape_halves hhigh hlow hc hfirst hsecond rest
      rw [List.append_assoc, List.cons_append, List.cons_append, List.cons_append]
      exact stringBody_escape (by rw [escape, if_pos rfl]; exact hhalves) hrest

theorem BodyText.read {cs text : List Char} (h : BodyText cs text) (rest : List Char) :
    stringBody (text ++ rest) = .ok (cs, rest) := by
  induction h with
  | close => simp [stringBody]
  | char hc _ ih =>
      rw [List.append_assoc]
      exact stringBody_char hc ih

/-! ## Skipping -/

theorem skipStringBody_escape {text rest : List Char} (h : skipEscape text = .ok rest) :
    skipStringBody ('\\' :: text) = skipStringBody rest := by
  rw [skipStringBody]
  simp only [Char.reduceEq, if_false, if_true]
  split
  · rename_i error herror
    rw [h] at herror
    cases herror
  · rename_i rest' hok
    rw [h] at hok
    rw [Except.ok.inj hok]

theorem skipEscape_number {n : Nat} {digits : List Char} (h : HexText n digits)
    (rest : List Char) : skipEscape ('u' :: (digits ++ rest)) = .ok rest := by
  rw [skipEscape, if_pos rfl, h.read]
  rfl

theorem skipStringBody_char {c : Char} {text : List Char} (h : CharText c text)
    (rest : List Char) : skipStringBody (text ++ rest) = skipStringBody rest := by
  cases h with
  | plain hquote hbackslash hcontrol =>
      rw [List.cons_append, List.nil_append, skipStringBody]
      simp only [hquote, hbackslash, Nat.not_lt.mpr hcontrol, if_false]
  | letter h =>
      obtain ⟨hu, hvalue⟩ := simpleEscape?_of_mem h
      exact skipStringBody_escape (by simp [skipEscape, hu, hvalue])
  | number h => exact skipStringBody_escape (skipEscape_number h rest)
  | halves hhigh hlow hc hfirst hsecond =>
      rw [List.append_assoc, List.cons_append, List.cons_append, List.cons_append]
      rw [skipStringBody_escape (skipEscape_number hfirst _)]
      exact skipStringBody_escape (skipEscape_number hsecond rest)

theorem BodyText.skip {cs text : List Char} (h : BodyText cs text) (rest : List Char) :
    skipStringBody (text ++ rest) = .ok rest := by
  induction h with
  | close => simp [skipStringBody]
  | char hc _ ih => rw [List.append_assoc, skipStringBody_char hc, ih]

/-! ## Writing -/

theorem hexText_control {c : Char} (h : c.toNat < 0x20) :
    HexText c.toNat ['0', '0', hexDigit (c.toNat / 16), hexDigit (c.toNat % 16)] := by
  have hdigit : ∀ n < 16, hexDigit n = Nat.digitChar n := by decide
  have hzero : HexDigit 0 '0' := .lower (by decide)
  have hhigh : HexDigit (c.toNat / 16) (hexDigit (c.toNat / 16)) := by
    rw [hdigit _ (by omega)]
    exact .lower (by omega)
  have hlow : HexDigit (c.toNat % 16) (hexDigit (c.toNat % 16)) := by
    rw [hdigit _ (by omega)]
    exact .lower (by omega)
  have hvalue : ((0 * 16 + 0) * 16 + c.toNat / 16) * 16 + c.toNat % 16 = c.toNat := by omega
  have htext := HexText.digits hzero hzero hhigh hlow
  rwa [hvalue] at htext

theorem charText_writtenChar (c : Char) : CharText c (writtenChar c) := by
  unfold writtenChar
  split_ifs with hquote hbackslash hn hr ht hb hf hcontrol
  · exact .letter (by simp [escapeLetters, hquote])
  · exact .letter (by simp [escapeLetters, hbackslash])
  · exact .letter (by simp [escapeLetters, hn])
  · exact .letter (by simp [escapeLetters, hr])
  · exact .letter (by simp [escapeLetters, ht])
  · exact .letter (by simp [escapeLetters, hb])
  · exact .letter (by simp [escapeLetters, hf])
  · exact .number (hexText_control hcontrol)
  · exact .plain hquote hbackslash (Nat.not_lt.mp hcontrol)

theorem bodyText_written (cs : List Char) : BodyText cs (cs.flatMap writtenChar ++ ['"']) := by
  induction cs with
  | nil => exact .close
  | cons c cs ih =>
      rw [List.flatMap_cons, List.append_assoc]
      exact .char (charText_writtenChar c) ih

theorem stringText_writtenString (s : String) : StringText s (writtenString s).toList := by
  rw [writtenString, String.toList_ofList, List.cons_append]
  exact .quoted (bodyText_written s.toList)

end SlotServer.JsonText
