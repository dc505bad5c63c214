/-!
# UTF-8

Encoding of text as bytes, and the lossy decoding of arbitrary bytes. Where bytes are not well
formed, each longest run of bytes that could still have begun a character becomes one replacement
character, and reading goes on after it.
-/

namespace SlotServer

/-- A sequence of bytes, as files, streams and pipes carry it. -/
abbrev Bytes := List UInt8

namespace Utf8

def encode (text : List Char) : Bytes :=
  text.flatMap String.utf8EncodeChar

def encodeString (text : String) : Bytes :=
  encode text.toList

/-- What a byte that begins a character of several bytes promises: the bits it contributes, the
number of continuation bytes, and the range that the first of them has to lie in. -/
structure Lead where
  /-- The bits of the character that the byte itself carries. -/
  bits : Nat
  /-- The number of continuation bytes that follow. -/
  count : Nat
  /-- The least first continuation byte. -/
  low : UInt8
  /-- The greatest first continuation byte. -/
  high : UInt8
  deriving DecidableEq, Repr

/-- The lead that a byte above the ASCII range is, if it is one. The ranges of the first
continuation byte leave out overlong forms, surrogates and values beyond the last character. -/
def Lead.ofByte? (b : UInt8) : Option Lead :=
  let n := b.toNat
  if n < 0xC2 then none
  else if n < 0xE0 then some ⟨n - 0xC0, 1, 0x80, 0xBF⟩
  else if n = 0xE0 then some ⟨0, 2, 0xA0, 0xBF⟩
  else if n = 0xED then some ⟨0xD, 2, 0x80, 0x9F⟩
  else if n < 0xF0 then some ⟨n - 0xE0, 2, 0x80, 0xBF⟩
  else if n = 0xF0 then some ⟨0, 3, 0x90, 0xBF⟩
  else if n < 0xF4 then some ⟨n - 0xF0, 3, 0x80, 0xBF⟩
  else if n = 0xF4 then some ⟨4, 3, 0x80, 0x8F⟩
  else none

/-- Reads `count` continuation bytes, the first of them between `low` and `high`, and adds their
bits to `bits`. The value is missing if a byte does not fit; the bytes that did fit are used up
all the same. -/
def continuation : Nat → UInt8 → UInt8 → Nat → Bytes → Option Nat × Bytes
  | 0, _, _, bits, rest => (some bits, rest)
  | _ + 1, _, _, _, [] => (none, [])
  | count + 1, low, high, bits, b :: rest =>
    if low ≤ b ∧ b ≤ high then
      continuation count 0x80 0xBF (bits * 64 + (b.toNat - 0x80)) rest
    else
      (none, b :: rest)

theorem continuation_length_le (count : Nat) (low high : UInt8) (bits : Nat) (bytes : Bytes) :
    (continuation count low high bits bytes).2.length ≤ bytes.length := by
  induction bytes generalizing count low high bits with
  | nil => cases count <;> simp [continuation]
  | cons b rest ih =>
    cases count with
    | zero => simp [continuation]
    | succ count =>
      simp only [continuation]
      split
      · exact Nat.le_trans (ih ..) (by simp)
      · simp

/-- What stands for bytes that are not well formed. -/
def replacement : Char := '\uFFFD'

/-- Reads one character, or the replacement character, from bytes that start with `b`. -/
def decodeOne (b : UInt8) (rest : Bytes) : Char × Bytes :=
  if b < 0x80 then
    (Char.ofNat b.toNat, rest)
  else
    match Lead.ofByte? b with
    | none => (replacement, rest)
    | some lead =>
      let (value, rest) := continuation lead.count lead.low lead.high lead.bits rest
      ((value.map Char.ofNat).getD replacement, rest)

theorem decodeOne_length_le (b : UInt8) (rest : Bytes) :
    (decodeOne b rest).2.length ≤ rest.length := by
  unfold decodeOne
  split
  · simp
  · split
    · simp
    · exact continuation_length_le ..

/-- The text of arbitrary bytes, with replacement characters for what is not well formed. -/
def decode : Bytes → List Char
  | [] => []
  | b :: rest =>
    let step := decodeOne b rest
    step.1 :: decode step.2
termination_by bytes => bytes.length
decreasing_by
  have := decodeOne_length_le b rest
  simp only [List.length_cons]
  omega

def decodeString (bytes : Bytes) : String :=
  String.ofList (decode bytes)

def decodeString? (bytes : Bytes) : Option String :=
  let text := decode bytes
  if encode text = bytes then some (String.ofList text) else none

end Utf8

end SlotServer
