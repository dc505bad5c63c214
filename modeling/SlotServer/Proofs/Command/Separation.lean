import SlotServer.Proofs.Command.Writing
import SlotServer.Proofs.Text.Lossy

/-!
# Keywords in front of arbitrary bytes

A record is decoded as a whole before it is split, but no byte behind the blank that ends a keyword
has a part in how the keyword is read, and the argument is read as if its bytes were all there is.
So whatever is malformed in an argument, the command is recognised all the same.
-/

namespace SlotServer

namespace Record

/-! ## Terminators of what stands behind a blank -/

/-- What does not hold a character ends a text that has this character in it only if it ends what
stands behind the character. -/
theorem suffix_append_cons_iff {ending : List Char} {c : Char} (hc : c ∉ ending)
    (front rest : List Char) : ending <:+ front ++ c :: rest ↔ ending <:+ rest := by
  constructor
  · intro h
    rcases List.suffix_or_suffix_of_suffix h (List.suffix_append front (c :: rest)) with hs | hs
    · rcases List.suffix_cons_iff.mp hs with rfl | hs
      · exact absurd List.mem_cons_self hc
      · exact hs
    · exact absurd (hs.subset List.mem_cons_self) hc
  · intro h
    exact (h.trans (List.suffix_cons c rest)).trans (List.suffix_append front (c :: rest))

theorem terminator_append_space (front rest : List Char) :
    terminator (front ++ ' ' :: rest) = terminator rest := by
  have hcrlf : ' ' ∉ ['\r', '\n'] := by decide
  have hnewline : ' ' ∉ ['\n'] := by decide
  simp only [terminator, suffix_append_cons_iff hcrlf, suffix_append_cons_iff hnewline]

/-- Taking off the terminator stops behind a blank that is part of no terminator. -/
theorem dropTerminator_append_space (front rest : List Char) :
    dropTerminator (front ++ ' ' :: rest) = front ++ ' ' :: dropTerminator rest := by
  have hwhole := dropTerminator_append_terminator (front ++ ' ' :: rest)
  have hrest := dropTerminator_append_terminator rest
  rw [terminator_append_space] at hwhole
  refine List.append_cancel_right (hwhole.trans ?_)
  rw [List.append_assoc, List.cons_append, hrest]

/-- A line that starts with a word and a blank is split there. -/
theorem split_word {word : List Char} (hne : word ≠ [])
    (hsolid : ∀ c ∈ word, Text.isBlank c = false) (rest : List Char) :
    split (word ++ ' ' :: rest) = (word, Text.dropBlank rest) := by
  let layout : Layout :=
    { indent := []
      keyword := word
      gap := ' ' :: rest.takeWhile Text.isBlank
      argument := Text.dropBlank rest
      terminator := []
      indent_blank := by simp
      keyword_solid := hsolid
      gap_blank := List.forall_mem_cons.mpr ⟨by decide, Text.of_mem_takeWhile⟩
      argument_start := Text.of_mem_head?_dropWhile
      of_keyword_eq_nil := fun h => absurd h hne
      gap_ne_nil := fun _ => by simp }
  have hline : layout.line = word ++ ' ' :: rest := by
    simp [layout, Layout.line, Text.dropBlank]
  rw [← hline, layout.split_line]

end Record

/-! ## Reading -/

/-- What follows a text and a space is decoded on its own. -/
theorem Utf8.decode_encode_space (text : List Char) (bytes : Bytes) :
    decode (encode text ++ 0x20 :: bytes) = text ++ ' ' :: decode bytes := by
  have hspace : decode (0x20 :: bytes) = ' ' :: decode bytes := by
    rw [decode_cons]
    rfl
  rw [decode_encode_append, hspace]

namespace Command

/-- The cap on keywords does not show in the kind. -/
theorem kind_ofParts (keyword : String) (argument : List Char) :
    (ofParts keyword.toList argument).kind = .ofKeyword keyword := by
  have hknown : ∀ kind ≠ .unknown, (ofParts keyword.toList argument).kind = kind ↔
      CommandKind.ofKeyword keyword = kind := by
    intro kind hkind
    rw [kind_ofParts_eq_iff _ _ hkind, CommandKind.ofKeyword_eq_iff hkind, String.toList_inj]
  by_cases hkind : CommandKind.ofKeyword keyword = .unknown
  · rw [hkind]
    refine Classical.byContradiction fun hne => hne ?_
    rw [← (hknown _ hne).mp rfl, hkind]
  · exact (hknown _ hkind).mpr rfl

/-- What stands behind a keyword and a space is read as an argument of its own. -/
theorem parse_append_space {keyword : List Char} (hne : keyword ≠ [])
    (hsolid : ∀ c ∈ keyword, Text.isBlank c = false) (bytes : Bytes) :
    parse (Utf8.encode keyword ++ 0x20 :: bytes) =
      ofParts keyword (Text.dropBlank (Record.dropTerminator (Utf8.decode bytes))) := by
  rw [parse, Utf8.decode_encode_space, Record.dropTerminator_append_space,
    Record.split_word hne hsolid]

/-- A keyword and a space are read as this keyword whatever bytes follow. The argument is what these
bytes are decoded to on their own, without the blanks in front and one terminator at the end. -/
theorem parse_separated (keyword : String) (bytes : Bytes) (hne : keyword ≠ "")
    (hsolid : ∀ c ∈ keyword.toList, Text.isBlank c = false) :
    let command := parse (Utf8.encodeString keyword ++ 0x20 :: bytes)
    let argument := Text.dropBlank (Record.dropTerminator (Utf8.decode bytes))
    ReadFrom keyword.toList argument command ∧ command.kind = .ofKeyword keyword ∧
    (∀ c ∈ argument.head?, Text.isBlank c = false) ∧
    ∃ blanks, (∀ c ∈ blanks, Text.isBlank c) ∧
      Utf8.decode bytes = blanks ++ argument ++ Record.terminator (Utf8.decode bytes) := by
  intro command argument
  have hcommand : command = ofParts keyword.toList argument :=
    parse_append_space (by simpa using hne) hsolid bytes
  rw [hcommand]
  refine ⟨readFrom_ofParts .., kind_ofParts .., Text.of_mem_head?_dropWhile, ?_⟩
  let blanks := (Record.dropTerminator (Utf8.decode bytes)).takeWhile Text.isBlank
  have hline : blanks ++ argument = Record.dropTerminator (Utf8.decode bytes) :=
    List.takeWhile_append_dropWhile
  refine ⟨blanks, Text.of_mem_takeWhile, ?_⟩
  rw [hline, Record.dropTerminator_append_terminator]

/-- A character that breaks off in front of a space, and a byte that begins none in front of the
terminator: each is replaced where it stands. -/
theorem parse_separated_malformed :
    "PUT" ≠ "" ∧ (∀ c ∈ "PUT".toList, Text.isBlank c = false) ∧
    let command := parse
      (Utf8.encodeString "PUT" ++ 0x20 :: [0x20, 0xE2, 0x82, 0x20, 0xFF, 0x0D, 0x0A])
    command.keyword.toList = ['P', 'U', 'T'] ∧ command.kind = .store ∧
      command.argument.toList = ['\uFFFD', ' ', '\uFFFD'] := by
  have hne : "PUT" ≠ "" := by decide
  have hsolid : ∀ c ∈ "PUT".toList, Text.isBlank c = false := solid_keyword .store
  have hargument : Text.dropBlank (Record.dropTerminator
      (Utf8.decode [0x20, 0xE2, 0x82, 0x20, 0xFF, 0x0D, 0x0A])) = ['\uFFFD', ' ', '\uFFFD'] := by
    decide +kernel
  obtain ⟨hread, hkind, -⟩ :=
    parse_separated "PUT" [0x20, 0xE2, 0x82, 0x20, 0xFF, 0x0D, 0x0A] hne hsolid
  refine ⟨hne, hsolid, hread.keyword_eq, hkind, ?_⟩
  rw [hread.argument_eq, hargument]
  rfl

end Command

end SlotServer
