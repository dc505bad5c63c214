import SlotServer.Command.Record

/-!
# The layout of a record

A text consists of blanks, a keyword, blanks again, an argument and a line terminator, and there is
only one way to take it apart. A command is read from the keyword and the argument of this layout,
and the caps on their lengths never change which kind of command it is.
-/

namespace SlotServer

/-! ## Words and blanks -/

namespace Text

/-- Characters are taken from a class exactly up to where the class ends. -/
theorem takeWhile_append_eq_left {p : Char → Bool} {first rest : List Char}
    (hfirst : ∀ c ∈ first, p c) (hrest : ∀ c ∈ rest.head?, p c = false) :
    (first ++ rest).takeWhile p = first := by
  rw [List.takeWhile_append_of_pos hfirst]
  cases rest with
  | nil => simp
  | cons c rest => simp [hrest c rfl]

theorem dropWhile_append_eq_right {p : Char → Bool} {first rest : List Char}
    (hfirst : ∀ c ∈ first, p c) (hrest : ∀ c ∈ rest.head?, p c = false) :
    (first ++ rest).dropWhile p = rest := by
  have hsplit := List.takeWhile_append_dropWhile (p := p) (l := first ++ rest)
  rw [takeWhile_append_eq_left hfirst hrest] at hsplit
  exact List.append_cancel_left hsplit

theorem of_mem_takeWhile {p : Char → Bool} {text : List Char} : ∀ c ∈ text.takeWhile p, p c :=
  List.all_eq_true.mp List.all_takeWhile

theorem of_mem_head?_dropWhile {p : Char → Bool} {text : List Char} :
    ∀ c ∈ (text.dropWhile p).head?, p c = false := by
  intro c hc
  have h := List.head?_dropWhile_not p text
  rwa [Option.mem_def.mp hc] at h

/-- A text that starts both inside and outside of a class of characters does not start at all. -/
theorem eq_nil_of_head? {p : Char → Bool} {text : List Char}
    (htrue : ∀ c ∈ text.head?, p c) (hfalse : ∀ c ∈ text.head?, p c = false) : text = [] := by
  cases text with
  | nil => rfl
  | cons c rest => simpa [htrue c rfl] using hfalse c rfl

theorem isBlank_of_mem_head?_afterWord (text : List Char) :
    ∀ c ∈ (afterWord text).head?, isBlank c := by
  intro c hc
  simpa using of_mem_head?_dropWhile c hc

/-- Without blanks after the first word there is nothing after it. -/
theorem afterWord_eq_nil_of_takeWhile {text : List Char}
    (h : (afterWord text).takeWhile isBlank = []) : afterWord text = [] := by
  have hsplit := List.takeWhile_append_dropWhile (p := isBlank) (l := afterWord text)
  rw [h, List.nil_append] at hsplit
  refine eq_nil_of_head? (isBlank_of_mem_head?_afterWord text) ?_
  rw [← hsplit]
  exact of_mem_head?_dropWhile

/-- Only a text of blanks has no first word. -/
theorem dropBlank_eq_nil_of_firstWord {text : List Char}
    (h : firstWord (dropBlank text) = []) : dropBlank text = [] := by
  have hsplit := firstWord_append_afterWord (dropBlank text)
  rw [h, List.nil_append] at hsplit
  refine eq_nil_of_head? ?_ of_mem_head?_dropWhile
  rw [← hsplit]
  exact isBlank_of_mem_head?_afterWord _

end Text

namespace Record

/-! ## Line terminators -/

/-- The line terminator that a text ends in: a carriage return with a newline, or else a newline,
or else nothing. -/
def terminator (text : List Char) : List Char :=
  if ['\r', '\n'] <:+ text then ['\r', '\n']
  else if ['\n'] <:+ text then ['\n']
  else []

theorem dropTerminator_return (line : List Char) : dropTerminator (line ++ ['\r', '\n']) = line := by
  have hsplit : line ++ ['\r', '\n'] = (line ++ ['\r']) ++ ['\n'] := by simp
  rw [hsplit]
  simp [dropTerminator]

theorem dropTerminator_newline {line : List Char} (h : line.getLast? ≠ some '\r') :
    dropTerminator (line ++ ['\n']) = line := by
  simp [dropTerminator, h]

theorem dropTerminator_of_getLast?_ne {text : List Char} (h : text.getLast? ≠ some '\n') :
    dropTerminator text = text :=
  if_neg h

/-- A text is its line followed by its terminator. -/
theorem dropTerminator_append_terminator (text : List Char) :
    dropTerminator text ++ terminator text = text := by
  by_cases hreturn : ['\r', '\n'] <:+ text
  · obtain ⟨line, rfl⟩ := hreturn
    rw [terminator, if_pos ⟨line, rfl⟩, dropTerminator_return]
  · by_cases hnewline : ['\n'] <:+ text
    · rw [terminator, if_neg hreturn, if_pos hnewline]
      obtain ⟨line, rfl⟩ := hnewline
      rw [dropTerminator_newline]
      intro hlast
      obtain ⟨rest, rfl⟩ := List.getLast?_eq_some_iff.mp hlast
      exact hreturn ⟨rest, by simp⟩
    · rw [terminator, if_neg hreturn, if_neg hnewline, dropTerminator_of_getLast?_ne,
        List.append_nil]
      intro hlast
      obtain ⟨rest, rfl⟩ := List.getLast?_eq_some_iff.mp hlast
      exact hnewline ⟨rest, rfl⟩

/-! ## Layouts -/

/-- The parts of a text, as far as they can be told apart by their characters. -/
@[ext]
structure Layout where
  /-- The blanks in front. -/
  indent : List Char
  /-- The first word. -/
  keyword : List Char
  /-- The blanks after the first word. -/
  gap : List Char
  /-- All that follows, blanks included. -/
  argument : List Char
  /-- What ends the line. -/
  terminator : List Char
  indent_blank : ∀ c ∈ indent, Text.isBlank c
  keyword_solid : ∀ c ∈ keyword, Text.isBlank c = false
  gap_blank : ∀ c ∈ gap, Text.isBlank c
  argument_start : ∀ c ∈ argument.head?, Text.isBlank c = false
  of_keyword_eq_nil : keyword = [] → gap = [] ∧ argument = []
  gap_ne_nil : argument ≠ [] → gap ≠ []

namespace Layout

/-- The parts that make up the line, joined. -/
def line (layout : Layout) : List Char :=
  layout.indent ++ (layout.keyword ++ (layout.gap ++ layout.argument))

/-- All parts, joined. -/
def text (layout : Layout) : List Char :=
  layout.line ++ layout.terminator

/-- The layout of a line with a terminator. -/
def ofLine (line terminator : List Char) : Layout where
  indent := line.takeWhile Text.isBlank
  keyword := (Record.split line).1
  gap := (Text.afterWord (Text.dropBlank line)).takeWhile Text.isBlank
  argument := (Record.split line).2
  terminator := terminator
  indent_blank := Text.of_mem_takeWhile
  keyword_solid := fun c hc => by simpa using Text.of_mem_takeWhile c hc
  gap_blank := Text.of_mem_takeWhile
  argument_start := Text.of_mem_head?_dropWhile
  of_keyword_eq_nil := by
    intro h
    rw [Record.split, Text.dropBlank_eq_nil_of_firstWord h]
    exact ⟨rfl, rfl⟩
  gap_ne_nil := by
    intro hargument hgap
    apply hargument
    rw [Record.split, Text.afterWord_eq_nil_of_takeWhile hgap]
    rfl

theorem line_ofLine (line terminator : List Char) : (ofLine line terminator).line = line := by
  have hgap := List.takeWhile_append_dropWhile (p := Text.isBlank)
    (l := Text.afterWord (Text.dropBlank line))
  have hindent := List.takeWhile_append_dropWhile (p := Text.isBlank) (l := line)
  rw [← Text.dropBlank] at hgap hindent
  simp only [Layout.line, ofLine, Record.split, hgap, Text.firstWord_append_afterWord, hindent]

variable (layout : Layout)

theorem rest_start : ∀ c ∈ (layout.gap ++ layout.argument).head?, Text.isBlank c := by
  intro c hc
  cases hgap : layout.gap with
  | nil =>
      have hargument : layout.argument = [] :=
        Classical.byContradiction fun h => layout.gap_ne_nil h hgap
      simp [hgap, hargument] at hc
  | cons first gap =>
      obtain rfl : first = c := by simpa [hgap] using hc
      exact layout.gap_blank first (by simp [hgap])

theorem keyword_start :
    ∀ c ∈ (layout.keyword ++ (layout.gap ++ layout.argument)).head?, Text.isBlank c = false := by
  intro c hc
  cases hkeyword : layout.keyword with
  | nil =>
      obtain ⟨hgap, hargument⟩ := layout.of_keyword_eq_nil hkeyword
      simp [hkeyword, hgap, hargument] at hc
  | cons first keyword =>
      obtain rfl : first = c := by simpa [hkeyword] using hc
      exact layout.keyword_solid first (by simp [hkeyword])

theorem dropBlank_line :
    Text.dropBlank layout.line = layout.keyword ++ (layout.gap ++ layout.argument) :=
  Text.dropWhile_append_eq_right layout.indent_blank layout.keyword_start

theorem firstWord_dropBlank_line : Text.firstWord (Text.dropBlank layout.line) = layout.keyword := by
  rw [dropBlank_line]
  refine Text.takeWhile_append_eq_left ?_ ?_
  · intro c hc
    simp [layout.keyword_solid c hc]
  · intro c hc
    simp [layout.rest_start c hc]

theorem afterWord_dropBlank_line :
    Text.afterWord (Text.dropBlank layout.line) = layout.gap ++ layout.argument := by
  have h := Text.firstWord_append_afterWord (Text.dropBlank layout.line)
  rw [firstWord_dropBlank_line] at h
  exact List.append_cancel_left (h.trans layout.dropBlank_line)

/-- Splitting a line finds the keyword and the argument of its layout. -/
theorem split_line : Record.split layout.line = (layout.keyword, layout.argument) := by
  rw [Record.split, firstWord_dropBlank_line, afterWord_dropBlank_line]
  exact congrArg _ (Text.dropWhile_append_eq_right layout.gap_blank layout.argument_start)

/-- There is no other layout of a line. -/
theorem ofLine_line : ofLine layout.line layout.terminator = layout := by
  apply Layout.ext
  · exact Text.takeWhile_append_eq_left layout.indent_blank layout.keyword_start
  · exact congrArg Prod.fst layout.split_line
  · simp only [ofLine, afterWord_dropBlank_line]
    exact Text.takeWhile_append_eq_left layout.gap_blank layout.argument_start
  · exact congrArg Prod.snd layout.split_line
  · rfl

/-- The text of a layout has no other layout, if it ends in the terminator of the layout. -/
theorem eq_ofLine {text : List Char} (htext : layout.text = text)
    (hterminator : layout.terminator = Record.terminator text) :
    layout = ofLine (dropTerminator text) (Record.terminator text) := by
  have hline : layout.line = dropTerminator text := by
    have h := dropTerminator_append_terminator text
    rw [← hterminator, ← htext] at h
    rw [← htext]
    exact (List.append_cancel_right h).symm
  rw [← hline, ← hterminator, ofLine_line]

end Layout

end Record

/-! ## Reading a record -/

/-- A cut text is a word shorter than the cut only if it was that word before. -/
theorem capped_eq_iff {limit : Nat} {text : List Char} {word : String} (h : word.length < limit) :
    capped limit text = word ↔ text = word.toList := by
  rw [← String.toList_inj, toList_capped]
  constructor
  · intro htake
    have hlength := congrArg List.length htake
    rw [List.length_take, String.length_toList] at hlength
    rwa [List.take_of_length_le (by omega)] at htake
  · rintro rfl
    rw [← String.length_toList] at h
    exact List.take_of_length_le (Nat.le_of_lt h)

theorem CommandKind.ofKeyword_eq_iff {keyword : String} {kind : CommandKind} (h : kind ≠ unknown) :
    ofKeyword keyword = kind ↔ keyword = kind.keyword := by
  constructor
  · rintro rfl
    unfold ofKeyword at h ⊢
    split
    next hget => exact hget
    next hget =>
      split
      next hput => exact hput
      next hput =>
        split
        next hexec => exact hexec
        next hexec => simp [hget, hput, hexec] at h
  · rintro rfl
    exact ofKeyword_keyword kind

namespace Command

theorem kind_ofParts_eq_iff (keyword argument : List Char) {kind : CommandKind}
    (h : kind ≠ .unknown) :
    (ofParts keyword argument).kind = kind ↔ keyword = kind.keyword.toList := by
  rw [Command.kind, CommandKind.ofKeyword_eq_iff h]
  refine capped_eq_iff ?_
  cases kind <;> decide

/-- A command with this keyword and argument: both are cut to their caps, and the whole keyword
tells the kind. -/
structure ReadFrom (keyword argument : List Char) (command : Command) : Prop where
  keyword_eq : command.keyword.toList = keyword.take 255
  argument_eq : command.argument.toList = argument.take 511
  retrieve_iff : command.kind = .retrieve ↔ keyword = "GET".toList
  store_iff : command.kind = .store ↔ keyword = "PUT".toList
  run_iff : command.kind = .run ↔ keyword = "EXEC".toList
  unknown_iff : command.kind = .unknown ↔
    keyword ≠ "GET".toList ∧ keyword ≠ "PUT".toList ∧ keyword ≠ "EXEC".toList

theorem readFrom_ofParts (keyword argument : List Char) :
    ReadFrom keyword argument (ofParts keyword argument) := by
  have hretrieve : (ofParts keyword argument).kind = .retrieve ↔ keyword = "GET".toList :=
    kind_ofParts_eq_iff keyword argument (by decide)
  have hstore : (ofParts keyword argument).kind = .store ↔ keyword = "PUT".toList :=
    kind_ofParts_eq_iff keyword argument (by decide)
  have hrun : (ofParts keyword argument).kind = .run ↔ keyword = "EXEC".toList :=
    kind_ofParts_eq_iff keyword argument (by decide)
  refine ⟨toList_capped .., toList_capped .., hretrieve, hstore, hrun, ?_⟩
  rw [ne_eq, ne_eq, ne_eq, ← hretrieve, ← hstore, ← hrun]
  cases (ofParts keyword argument).kind <;> simp

/-- Every record has exactly one layout, and its command is read from the keyword and the argument
of this layout. -/
theorem parse_layout (record : Bytes) :
    ∃ layout : Record.Layout,
      (∀ other : Record.Layout, other.text = Utf8.decode record ∧
        other.terminator = Record.terminator (Utf8.decode record) ↔ other = layout) ∧
      ReadFrom layout.keyword layout.argument (parse record) := by
  let text := Utf8.decode record
  refine ⟨.ofLine (Record.dropTerminator text) (Record.terminator text), ?_, ?_⟩
  · intro other
    constructor
    · rintro ⟨htext, hterminator⟩
      exact other.eq_ofLine htext hterminator
    · rintro rfl
      refine ⟨?_, rfl⟩
      rw [Record.Layout.text, Record.Layout.line_ofLine]
      exact Record.dropTerminator_append_terminator text
  · exact readFrom_ofParts ..

end Command

end SlotServer
