import SlotServer.Json.Error

/-!
# Pieces of JSON text

White space, fixed words and strings, each read or merely skipped. Skipping checks less than
reading does: an escape of a string that is skipped need not stand for a character.
-/

namespace SlotServer.JsonText

/-- The characters that may stand between the pieces of a text. -/
def isSpace (c : Char) : Bool :=
  c = ' ' || c = '\n' || c = '\t' || c = '\r'

/-- The text without the white space at its start. -/
def dropSpace (text : List Char) : List Char :=
  text.dropWhile isSpace

theorem dropSpace_length_le (text : List Char) : (dropSpace text).length ≤ text.length :=
  (List.dropWhile_sublist _).length_le

def word : List Char → Reader Unit
  | [], text => .ok ((), text)
  | _ :: _, [] => .error .endOfValue
  | c :: cs, d :: text => if c = d then word cs text else .error .expectedIdent

/-! ## Escapes -/

def hexValue? (c : Char) : Option Nat :=
  let n := c.toNat
  if 0x30 ≤ n ∧ n ≤ 0x39 then some (n - 0x30)
  else if 0x41 ≤ n ∧ n ≤ 0x46 then some (n - 0x41 + 10)
  else if 0x61 ≤ n ∧ n ≤ 0x66 then some (n - 0x61 + 10)
  else none

/-- Reads four hexadecimal digits. A text that has not four bytes left ends too early. -/
def hexEscape (text : List Char) : Except Error (Nat × List Char) :=
  match text with
  | a :: b :: c :: d :: rest =>
    match hexValue? a, hexValue? b, hexValue? c, hexValue? d with
    | some a, some b, some c, some d => .ok (((a * 16 + b) * 16 + c) * 16 + d, rest)
    | _, _, _, _ => .error .invalidEscape
  | _ =>
    if (String.ofList text).utf8ByteSize < 4 then .error .endOfString else .error .invalidEscape

/-- Reads the four digits of an escape, and those of a second escape where the first one is the
leading half of a character. -/
def unicodeEscape (text : List Char) : Except Error (Char × List Char) := do
  let (first, rest) ← hexEscape text
  if 0xDC00 ≤ first ∧ first ≤ 0xDFFF then
    throw .loneSurrogate
  else if first < 0xD800 ∨ 0xDBFF < first then
    return (Char.ofNat first, rest)
  else
    match rest with
    | [] => throw .endOfString
    | '\\' :: [] => throw .endOfString
    | '\\' :: 'u' :: rest =>
      let (second, rest) ← hexEscape rest
      if second < 0xDC00 ∨ 0xDFFF < second then throw .loneSurrogate
      else return (Char.ofNat ((first - 0xD800) * 1024 + (second - 0xDC00) + 0x10000), rest)
    | _ => throw .unexpectedEscapeEnd

/-- The character that a single letter after a backslash stands for. -/
def simpleEscape? (c : Char) : Option Char :=
  if c = '"' || c = '\\' || c = '/' then some c
  else if c = 'b' then some '\x08'
  else if c = 'f' then some '\x0c'
  else if c = 'n' then some '\n'
  else if c = 'r' then some '\r'
  else if c = 't' then some '\t'
  else none

def escape (text : List Char) : Except Error (Char × List Char) :=
  match text with
  | [] => .error .endOfString
  | c :: rest =>
    if c = 'u' then unicodeEscape rest
    else
      match simpleEscape? c with
      | some value => .ok (value, rest)
      | none => .error .invalidEscape

def skipEscape (text : List Char) : Except Error (List Char) :=
  match text with
  | [] => .error .endOfString
  | c :: rest =>
    if c = 'u' then (hexEscape rest).map Prod.snd
    else if (simpleEscape? c).isSome then .ok rest
    else .error .invalidEscape

theorem hexEscape_length {text rest : List Char} {n : Nat}
    (h : hexEscape text = .ok (n, rest)) : rest.length < text.length := by
  unfold hexEscape at h
  split at h
  · split at h
    · cases h
      simp only [List.length_cons]
      omega
    · cases h
  · split at h <;> cases h

theorem unicodeEscape_length {text rest : List Char} {c : Char}
    (h : unicodeEscape text = .ok (c, rest)) : rest.length < text.length := by
  unfold unicodeEscape at h
  cases h1 : hexEscape text with
  | error e => rw [h1] at h; cases h
  | ok first =>
    obtain ⟨first, rest1⟩ := first
    have hl1 := hexEscape_length h1
    rw [h1] at h
    simp only [bind, Except.bind] at h
    split at h
    · cases h
    · split at h
      · cases h
        exact hl1
      · split at h
        · cases h
        · cases h
        · rename_i rest2
          cases h2 : hexEscape rest2 with
          | error e => rw [h2] at h; cases h
          | ok second =>
            obtain ⟨second, rest3⟩ := second
            have hl2 := hexEscape_length h2
            rw [h2] at h
            simp only at h
            split at h
            · cases h
            · obtain ⟨-, rfl⟩ := Prod.mk.inj (Except.ok.inj h)
              simp only [List.length_cons] at hl1
              omega
        · cases h

theorem escape_length {text rest : List Char} {c : Char} (h : escape text = .ok (c, rest)) :
    rest.length < text.length := by
  unfold escape at h
  split at h
  · cases h
  · split at h
    · have := unicodeEscape_length h
      simp only [List.length_cons]
      omega
    · split at h
      · cases h
        simp
      · cases h

theorem skipEscape_length {text rest : List Char} (h : skipEscape text = .ok rest) :
    rest.length < text.length := by
  unfold skipEscape at h
  split at h
  · cases h
  · rename_i c more
    split at h
    · cases h1 : hexEscape more with
      | error e => rw [h1] at h; cases h
      | ok p =>
        obtain ⟨n, r⟩ := p
        have := hexEscape_length h1
        rw [h1] at h
        cases h
        simp only [List.length_cons]
        omega
    · split at h
      · cases h
        simp
      · cases h

/-! ## Strings -/

/-- Reads a string after its opening quotation mark. -/
def stringBody (text : List Char) : Except Error (List Char × List Char) :=
  match text with
  | [] => .error .endOfString
  | c :: rest =>
    if c = '"' then .ok ([], rest)
    else if c = '\\' then
      match _h : escape rest with
      | .error error => .error error
      | .ok (value, rest') => do
        let (body, after) ← stringBody rest'
        return (value :: body, after)
    else if c.toNat < 0x20 then .error .controlCharacter
    else do
      let (body, after) ← stringBody rest
      return (c :: body, after)
termination_by text.length
decreasing_by
  · have := escape_length (by assumption)
    simp only [List.length_cons]
    omega
  · simp

/-- Skips a string after its opening quotation mark. -/
def skipStringBody (text : List Char) : Except Error (List Char) :=
  match text with
  | [] => .error .endOfString
  | c :: rest =>
    if c = '"' then .ok rest
    else if c = '\\' then
      match _h : skipEscape rest with
      | .error error => .error error
      | .ok rest' => skipStringBody rest'
    else if c.toNat < 0x20 then .error .controlCharacter
    else skipStringBody rest
termination_by text.length
decreasing_by
  · have := skipEscape_length (by assumption)
    simp only [List.length_cons]
    omega
  · simp

end SlotServer.JsonText
