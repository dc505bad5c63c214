import SlotServer.Proofs.Command.Layout
import SlotServer.Proofs.Text.Utf8

/-!
# Writing commands as records

A record that is written as a keyword, blanks, an argument and a line terminator is read as the
command with this keyword and this argument. Every command that was read can be written so, and is
read again unchanged.
-/

namespace SlotServer

namespace Record

/-- The bytes of a record with these parts. -/
def written (keyword gap argument terminator : String) : Bytes :=
  Utf8.encodeString (keyword ++ gap ++ argument ++ terminator)

theorem written_eq_encode (keyword gap argument terminator : String) :
    written keyword gap argument terminator =
      Utf8.encode (keyword.toList ++ gap.toList ++ argument.toList ++ terminator.toList) := by
  simp [written, Utf8.encodeString]

/-- A terminator closes a record after an argument if it is the whole terminator that the record
then has, and takes no character of the argument with it. -/
inductive Closes (argument : List Char) : List Char → Prop where
  | crlf : Closes argument ['\r', '\n']
  | newline (h : argument.getLast? ≠ some '\r') : Closes argument ['\n']
  | nothing (h : argument.getLast? ≠ some '\n') : Closes argument []

/-! ## Lines without their terminators -/

theorem isBlank_of_mem_terminator (text : List Char) :
    ∀ c ∈ terminator text, Text.isBlank c := by
  rw [← List.all_eq_true]
  unfold terminator
  split
  · decide
  · split
    · decide
    · rfl

theorem Closes.isBlank {argument terminator : List Char} (h : Closes argument terminator) :
    ∀ c ∈ terminator, Text.isBlank c := by
  rw [← List.all_eq_true]
  cases h with
  | crlf | newline h => decide
  | nothing h => rfl

/-- What closes a record after an argument is taken off, and nothing else. -/
theorem Closes.dropTerminator_append {argument terminator : List Char}
    (h : Closes argument terminator) (hne : argument ≠ []) (front : List Char) :
    dropTerminator (front ++ argument ++ terminator) = front ++ argument := by
  have hlast : (front ++ argument).getLast? = argument.getLast? := by
    rw [List.getLast?_append, Option.or_of_isSome (List.getLast?_isSome.mpr hne)]
  cases h with
  | crlf => exact dropTerminator_return _
  | newline h => exact dropTerminator_newline (hlast ▸ h)
  | nothing h =>
      rw [List.append_nil]
      exact dropTerminator_of_getLast?_ne (hlast ▸ h)

/-- A word loses no character to the terminator of its line. -/
theorem dropTerminator_word {word blanks : List Char} (hword : ∀ c ∈ word, Text.isBlank c = false)
    (hblanks : ∀ c ∈ blanks, Text.isBlank c) :
    ∃ rest, dropTerminator (word ++ blanks) = word ++ rest ∧ ∀ c ∈ rest, Text.isBlank c := by
  have hsplit := dropTerminator_append_terminator (word ++ blanks)
  have hterminator := isBlank_of_mem_terminator (word ++ blanks)
  generalize dropTerminator (word ++ blanks) = line at hsplit ⊢
  generalize terminator (word ++ blanks) = ending at hsplit hterminator
  rcases List.append_eq_append_iff.mp hsplit.symm with ⟨rest, rfl, rfl⟩ | ⟨rest, rfl, rfl⟩
  · exact ⟨rest, rfl, fun c hc => hblanks c (List.mem_append_left _ hc)⟩
  · have hnil : rest = [] := by
      refine List.eq_nil_iff_forall_not_mem.mpr ?_
      intro c hc
      have hsolid := hword c (List.mem_append_right _ hc)
      have hblank := hterminator c (List.mem_append_left _ hc)
      simp [hsolid] at hblank
    exact ⟨[], by simp [hnil], by simp⟩

/-- Without its terminator, a record still has its keyword and its argument. Where there is no
argument, blanks of the gap may be gone with the terminator. -/
theorem Closes.dropTerminator_parts {keyword gap argument terminator : List Char}
    (h : Closes argument terminator) (hkeyword : ∀ c ∈ keyword, Text.isBlank c = false)
    (hgap : gap ≠ []) (hblank : ∀ c ∈ gap, Text.isBlank c) :
    ∃ rest, dropTerminator (keyword ++ gap ++ argument ++ terminator) =
        keyword ++ (rest ++ argument) ∧
      (∀ c ∈ rest, Text.isBlank c) ∧ (argument ≠ [] → rest ≠ []) := by
  by_cases hargument : argument = []
  · subst argument
    have hblanks : ∀ c ∈ gap ++ terminator, Text.isBlank c := by
      intro c hc
      rcases List.mem_append.mp hc with hc | hc
      · exact hblank c hc
      · exact h.isBlank c hc
    obtain ⟨rest, hline, hrest⟩ := dropTerminator_word hkeyword hblanks
    refine ⟨rest, ?_, hrest, fun hne => absurd rfl hne⟩
    rw [List.append_nil, List.append_assoc, hline, List.append_nil]
  · refine ⟨gap, ?_, hblank, fun _ => hgap⟩
    rw [h.dropTerminator_append hargument, List.append_assoc]

end Record

namespace Command

/-! ## Reading what was written -/

theorem parse_encode {keyword gap argument terminator : List Char} (hne : keyword ≠ [])
    (hkeyword : ∀ c ∈ keyword, Text.isBlank c = false) (hgap : gap ≠ [])
    (hblank : ∀ c ∈ gap, Text.isBlank c)
    (hargument : ∀ c ∈ argument.head?, Text.isBlank c = false)
    (hcloses : Record.Closes argument terminator) :
    parse (Utf8.encode (keyword ++ gap ++ argument ++ terminator)) = ofParts keyword argument := by
  obtain ⟨rest, hline, hrest, hrest_ne⟩ := hcloses.dropTerminator_parts hkeyword hgap hblank
  let layout : Record.Layout :=
    { indent := [], keyword, gap := rest, argument, terminator
      indent_blank := by simp
      keyword_solid := hkeyword
      gap_blank := hrest
      argument_start := hargument
      of_keyword_eq_nil := fun h => absurd h hne
      gap_ne_nil := hrest_ne }
  have hsplit : Record.split (keyword ++ (rest ++ argument)) = (keyword, argument) :=
    layout.split_line
  rw [parse, Utf8.decode_encode, hline, hsplit]

/-- The caps take nothing away from what a command has already. -/
theorem ofParts_toList (command : Command) :
    ofParts command.keyword.toList command.argument.toList = command := by
  have hkeyword : command.keyword.toList.length ≤ maxKeywordChars := by
    rw [String.length_toList]
    exact command.keyword_le
  have hargument : command.argument.toList.length ≤ maxArgumentChars := by
    rw [String.length_toList]
    exact command.argument_le
  apply ext_parts
  · rw [ofParts, ← String.toList_inj, toList_capped, List.take_of_length_le hkeyword]
  · rw [ofParts, ← String.toList_inj, toList_capped, List.take_of_length_le hargument]

/-- What is true of every command that was read from a record. -/
structure Legible (command : Command) : Prop where
  keyword_solid : ∀ c ∈ command.keyword.toList, Text.isBlank c = false
  argument_start : ∀ c ∈ command.argument.toList.head?, Text.isBlank c = false
  of_keyword_eq_nil : command.keyword.toList = [] → command.argument.toList = []

theorem legible_ofParts (layout : Record.Layout) :
    (ofParts layout.keyword layout.argument).Legible where
  keyword_solid := by
    intro c hc
    rw [ofParts, toList_capped] at hc
    exact layout.keyword_solid c (List.mem_of_mem_take hc)
  argument_start := by
    intro c hc
    rw [ofParts, toList_capped, List.head?_take] at hc
    exact layout.argument_start c hc
  of_keyword_eq_nil := by
    intro h
    rw [ofParts, toList_capped, List.take_eq_nil_iff] at h
    have hkeyword : layout.keyword = [] := h.resolve_left (by decide)
    simp [ofParts, (layout.of_keyword_eq_nil hkeyword).2]

theorem legible_parse (record : Bytes) : (parse record).Legible :=
  legible_ofParts (.ofLine (Record.dropTerminator (Utf8.decode record)) [])

/-- A legible command that is written with one blank and a whole terminator is read unchanged. -/
theorem Legible.parse_rewritten {command : Command} (h : command.Legible) :
    parse (Record.written command.keyword " " command.argument "\r\n") = command := by
  rw [Record.written_eq_encode]
  by_cases hempty : command.keyword.toList = []
  · -- Nothing is left of such a record but blanks.
    have hargument := h.of_keyword_eq_nil hempty
    rw [← ofParts_toList command, hempty, hargument, parse, Utf8.decode_encode]
    rfl
  · have hgap : " ".toList ≠ [] := by decide
    have hblank : ∀ c ∈ " ".toList, Text.isBlank c := List.all_eq_true.mp (by decide)
    have hcloses : Record.Closes command.argument.toList "\r\n".toList := .crlf
    rw [parse_encode hempty h.keyword_solid hgap hblank h.argument_start hcloses,
      ofParts_toList]

theorem solid_keyword (kind : CommandKind) : ∀ c ∈ kind.keyword.toList, Text.isBlank c = false := by
  have hall : kind.keyword.toList.all fun c => !Text.isBlank c := by
    cases kind <;> decide
  intro c hc
  simpa using List.all_eq_true.mp hall c hc

/-- A record is read as the command that it is written as. -/
theorem parse_known (kind : CommandKind) (hkind : kind ≠ .unknown) (argument : String)
    (hargument : ∀ c ∈ argument.toList.head?, Text.isBlank c = false) :
    parse (Record.written kind.keyword " " argument "\r\n") =
      ofParts kind.keyword.toList argument.toList := by
  have hkeyword : kind.keyword.toList ≠ [] := by
    cases kind with
    | retrieve | store | run => decide
    | unknown => exact absurd rfl hkind
  have hgap : " ".toList ≠ [] := by decide
  have hblank : ∀ c ∈ " ".toList, Text.isBlank c := List.all_eq_true.mp (by decide)
  rw [Record.written_eq_encode]
  exact parse_encode hkeyword (solid_keyword kind) hgap hblank hargument .crlf

/-- Reading undoes writing. A known kind is read with its argument from a record that separates
them by any blanks and is closed after the argument; and every record at all is read like the
record that its command is written as. -/
theorem parse_written :
    (∀ (kind : CommandKind) (gap argument terminator : String), kind ≠ .unknown →
      gap ≠ "" → (∀ c ∈ gap.toList, Text.isBlank c) →
      (∀ c ∈ argument.toList.head?, Text.isBlank c = false) →
      Record.Closes argument.toList terminator.toList →
      parse (Record.written kind.keyword gap argument terminator) = new kind argument) ∧
    ∀ record : Bytes,
      parse (Record.written (parse record).keyword " " (parse record).argument "\r\n") =
        parse record := by
  refine ⟨?_, fun record => (legible_parse record).parse_rewritten⟩
  intro kind gap argument terminator hkind hgap hblank hargument hcloses
  have hkeyword : kind.keyword.toList ≠ [] := by
    cases kind with
    | retrieve | store | run => decide
    | unknown => exact absurd rfl hkind
  have hgap' : gap.toList ≠ [] := by simpa using hgap
  rw [Record.written_eq_encode,
    parse_encode hkeyword (solid_keyword kind) hgap' hblank hargument hcloses]
  rfl

/-- The body of a store command keeps the newline that it ends in, as another one closes the
record. -/
theorem parse_written_newline :
    CommandKind.store ≠ .unknown ∧ "\t " ≠ "" ∧ (∀ c ∈ "\t ".toList, Text.isBlank c) ∧
    (∀ c ∈ "a.txt x\n".toList.head?, Text.isBlank c = false) ∧
    Record.Closes "a.txt x\n".toList "\n".toList ∧
    parse (Record.written "PUT" "\t " "a.txt x\n" "\n") = new .store "a.txt x\n" := by
  have hkind : CommandKind.store ≠ .unknown := by decide
  have hgap : "\t " ≠ "" := by decide
  have hblank : ∀ c ∈ "\t ".toList, Text.isBlank c := List.all_eq_true.mp (by decide)
  have hargument : ∀ c ∈ "a.txt x\n".toList.head?, Text.isBlank c = false := by
    rintro c ⟨⟩
    rfl
  have hcloses : Record.Closes "a.txt x\n".toList "\n".toList := .newline (by decide)
  exact ⟨hkind, hgap, hblank, hargument, hcloses,
    parse_written.1 .store "\t " "a.txt x\n" "\n" hkind hgap hblank hargument hcloses⟩

end Command

end SlotServer
