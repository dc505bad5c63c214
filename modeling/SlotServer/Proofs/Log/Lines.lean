import SlotServer.Log.Telemetry
import SlotServer.Log.Thread
import SlotServer.Proofs.Json.Members
import SlotServer.Text.Split

/-!
# Lines of the log

Each event that passes the filter is written as one line. Whatever text a field quotes, its line
goes on to its own end: nothing between the quotation marks can be mistaken for the end of a line.
Where lines are objects, each text can be read back from the member that holds it.
-/

namespace SlotServer.Log

/-! ## Text without a newline -/

/-- A text without a newline. -/
def OneLine (text : String) : Prop :=
  '\n' ∉ text.toList

section OneLine

variable {text other : String}

/-- A text is looked through character by character. -/
theorem oneLine_ofList {chars : List Char} (h : chars.contains '\n' = false) :
    OneLine (String.ofList chars) := by
  rw [OneLine, String.toList_ofList]
  simpa using h

@[simp]
theorem oneLine_append : OneLine (text ++ other) ↔ OneLine text ∧ OneLine other := by
  rw [OneLine, String.toList_append, List.mem_append, not_or]
  exact Iff.rfl

theorem oneLine_join {texts : List String} (h : ∀ text ∈ texts, OneLine text) :
    OneLine (String.join texts) := by
  rw [OneLine, String.toList_join, List.mem_flatMap]
  rintro ⟨text, htext, hmem⟩
  exact h text htext hmem

theorem oneLine_toString (n : Nat) : OneLine (toString n) := by
  rw [OneLine, Nat.toString_eq_ofList_toDigits, String.toList_ofList]
  intro hmem
  have hdigit := Nat.isDigit_of_mem_toDigits (by decide) (by decide) hmem
  simp at hdigit

theorem oneLine_padded (h : OneLine text) (width : Nat) : OneLine (padded width text) := by
  refine oneLine_append.mpr ⟨?_, h⟩
  rw [OneLine, String.toList_ofList]
  intro hmem
  simp at hmem

/-- A text that is made from another, character by character, between quotation marks. -/
theorem oneLine_between {write : Char → List Char} (h : ∀ c, '\n' ∉ write c) (text : String) :
    OneLine (String.ofList ('"' :: text.toList.flatMap write ++ ['"'])) := by
  rw [OneLine, String.toList_ofList]
  simp [h]

theorem newline_not_mem_hexDigits (n : Nat) : '\n' ∉ Nat.toDigits 16 n := by
  have hdigit : ∀ n < 16, '\n' ≠ Nat.digitChar n := by decide
  induction n using Nat.strongRecOn with
  | ind n ih =>
      rw [Nat.toDigits_eq_if (by decide)]
      split
      next hn => exact List.mem_singleton.not.mpr (hdigit n hn)
      next hn =>
        rw [List.mem_append, not_or, List.mem_singleton]
        exact ⟨ih (n / 16) (by omega), hdigit _ (by omega)⟩

theorem newline_not_mem_writtenChar (c : Char) : '\n' ∉ JsonText.writtenChar c := by
  have hdigit : ∀ n < 16, '\n' ≠ JsonText.hexDigit n := by decide
  unfold JsonText.writtenChar
  split_ifs with hquote hbackslash hn hr ht hb hf hcontrol
  · decide
  · decide
  · decide
  · decide
  · decide
  · decide
  · decide
  · simp [hdigit (c.toNat / 16) (by omega), hdigit (c.toNat % 16) (by omega)]
  · simpa using Ne.symm hn

theorem newline_not_mem_quotedChar (c : Char) : '\n' ∉ Text.quotedChar c := by
  unfold Text.quotedChar
  split_ifs with hquote hbackslash hn hr ht hzero hspace hshown
  · decide
  · decide
  · decide
  · decide
  · decide
  · decide
  · simpa using Ne.symm hn
  · simp [newline_not_mem_hexDigits]
  · simpa using Ne.symm hn

theorem oneLine_writtenString (text : String) : OneLine (JsonText.writtenString text) :=
  oneLine_between newline_not_mem_writtenChar text

theorem oneLine_quoted (text : String) : OneLine (Text.quoted text) :=
  oneLine_between newline_not_mem_quotedChar text

theorem newline_not_mem_intercalate {separator : List Char} {texts : List (List Char)}
    (hs : '\n' ∉ separator) (h : ∀ text ∈ texts, '\n' ∉ text) :
    '\n' ∉ separator.intercalate texts := by
  induction texts with
  | nil => simp
  | cons text texts ih =>
      obtain ⟨htext, hrest⟩ := List.forall_mem_cons.mp h
      cases texts with
      | nil => simpa using htext
      | cons next texts =>
          rw [List.intercalate_cons_cons, List.mem_append, List.mem_append, not_or, not_or]
          exact ⟨⟨htext, hs⟩, ih hrest⟩

theorem oneLine_writtenObject {members : List (String × String)}
    (h : ∀ member ∈ members, OneLine member.2) : OneLine (JsonText.writtenObject members) := by
  have hopen : OneLine "\x7b" := oneLine_ofList rfl
  have hclose : OneLine "\x7d" := oneLine_ofList rfl
  refine oneLine_append.mpr ⟨oneLine_append.mpr ⟨hopen, ?_⟩, hclose⟩
  rw [OneLine, String.toList_intercalate, List.map_map]
  refine newline_not_mem_intercalate (by decide) fun text htext => ?_
  obtain ⟨member, hmember, rfl⟩ := List.mem_map.mp htext
  have hcolon : OneLine ":" := oneLine_ofList rfl
  have hmember := oneLine_append.mpr ⟨oneLine_append.mpr ⟨oneLine_writtenString member.1, hcolon⟩,
    h member hmember⟩
  exact hmember

end OneLine

/-! ## Entries -/

theorem oneLine_levelName (level : Level) : OneLine level.name := by
  cases level <;> exact oneLine_ofList rfl

theorem oneLine_toJson (value : FieldValue) : OneLine value.toJson := by
  cases value with
  | quoted text | plain text => exact oneLine_writtenString text
  | number n => exact oneLine_toString n

theorem scalar_toJson (value : FieldValue) : JsonText.Scalar value.toJson.toList := by
  cases value with
  | quoted text | plain text => exact .string (JsonText.stringText_writtenString text)
  | number n => exact .integer false (JsonText.naturalText_toString n)

namespace Entry

/-- The members of the object of an entry. -/
def members (entry : Entry) (thread : String) : List (String × FieldValue) :=
  [("level", .quoted entry.level.name), ("message", .quoted entry.message)] ++ entry.fields ++
    [("target", .quoted entry.target), ("threadName", .quoted thread)]

/-- An entry of which nothing is shown with a newline. -/
structure Tidy (entry : Entry) : Prop where
  target : OneLine entry.target
  message : OneLine entry.message
  fields : ∀ field ∈ entry.fields, OneLine field.1 ∧ OneLine field.2.text

variable (entry : Entry) (thread : String)

theorem toJson_eq : entry.toJson thread =
    JsonText.writtenObject ((entry.members thread).map fun m => (m.1, m.2.toJson)) := by
  simp [toJson, members, FieldValue.toJson]

/-- Whatever an entry says, its object stands on one line. -/
theorem oneLine_object : OneLine (entry.toJson thread) := by
  rw [toJson_eq]
  refine oneLine_writtenObject fun member hmember => ?_
  obtain ⟨m, -, rfl⟩ := List.mem_map.mp hmember
  exact oneLine_toJson m.2

variable {entry thread}

theorem Tidy.oneLine_compactLine (h : entry.Tidy) (hthread : OneLine thread) (width : Nat) :
    OneLine (entry.compactLine width thread) := by
  have hfields : OneLine (String.join (entry.fields.map fun field =>
      s!" {field.1}={field.2.text}")) := by
    refine oneLine_join fun text htext => ?_
    obtain ⟨field, hfield, rfl⟩ := List.mem_map.mp htext
    obtain ⟨hname, hvalue⟩ := h.fields field hfield
    have hblank : OneLine " " := oneLine_ofList rfl
    have hequals : OneLine "=" := oneLine_ofList rfl
    simp only [oneLine_append]
    exact ⟨⟨⟨hblank, hname⟩, hequals⟩, hvalue⟩
  have hlevel := oneLine_padded (oneLine_levelName entry.level) 5
  have hname := oneLine_padded hthread width
  have hblank : OneLine " " := oneLine_ofList rfl
  have hcolon : OneLine ": " := oneLine_ofList rfl
  simp only [compactLine, oneLine_append]
  exact ⟨⟨⟨⟨⟨⟨⟨hlevel, hblank⟩, hname⟩, hblank⟩, h.target⟩, hcolon⟩, h.message⟩, hfields⟩

end Entry

/-! ## Events -/

/-- Whether an event tells of connections, their slots and their records, and not of what the server
was configured with. -/
def Event.isService : Event → Bool
  | accepting _ _ | acceptingStopped _ | serverStarting _ | serverListening _ _ _ | serverFailed _
  | serverStopping _ | serverStopped | telemetryInstalled _ => false
  | _ => true

theorem oneLine_systemError (error : SystemError) : OneLine error.message := by
  have hdescription : OneLine error.description := by
    cases error <;> exact oneLine_ofList rfl
  have hopen : OneLine " (os error " := oneLine_ofList rfl
  have hclose : OneLine ")" := oneLine_ofList rfl
  simp only [SystemError.message, oneLine_append]
  exact ⟨⟨⟨hdescription, hopen⟩, oneLine_toString error.number⟩, hclose⟩

theorem oneLine_fault (fault : Fault) : OneLine fault.message := by
  cases fault with
  | bare kind => cases kind <;> exact oneLine_ofList rfl
  | system error => exact oneLine_systemError error
  | _ => exact oneLine_ofList rfl

theorem oneLine_slotError (error : SlotError) : OneLine error.message := by
  have hwhich : OneLine "connection slot " := oneLine_ofList rfl
  cases error with
  | full capacity =>
      change OneLine ("all " ++ toString capacity ++ " connection slots are in use")
      rw [oneLine_append, oneLine_append]
      exact ⟨⟨oneLine_ofList rfl, oneLine_toString capacity⟩, oneLine_ofList rfl⟩
  | notActive slot =>
      change OneLine ("connection slot " ++ toString slot ++ " is not active")
      rw [oneLine_append, oneLine_append]
      exact ⟨⟨hwhich, oneLine_toString slot⟩, oneLine_ofList rfl⟩
  | outOfRange slot capacity =>
      change OneLine ("connection slot " ++ toString slot ++ " is out of range for capacity " ++
        toString capacity)
      rw [oneLine_append, oneLine_append, oneLine_append]
      exact ⟨⟨⟨hwhich, oneLine_toString slot⟩, oneLine_ofList rfl⟩, oneLine_toString capacity⟩

theorem oneLine_kind (kind : CommandKind) : OneLine kind.name := by
  cases kind <;> exact oneLine_ofList rfl

theorem oneLine_thread (thread : Thread) : OneLine thread.name := by
  cases thread with
  | main | accept => exact oneLine_ofList rfl
  | worker slot =>
      simp only [Thread.name, oneLine_append]
      exact ⟨oneLine_ofList rfl, oneLine_toString slot⟩

/-- What an event of the service shows as it is comes from the server itself. -/
theorem Event.tidy {event : Event} (h : event.isService = true) : event.entry.Tidy := by
  have hnumber : ∀ n : Nat, OneLine n.repr := oneLine_toString
  have hnames : OneLine "slot" ∧ OneLine "peer" ∧ OneLine "error" ∧ OneLine "kind" ∧
      OneLine "argument_len" ∧ OneLine "keyword" ∧ OneLine "path" ∧ OneLine "processed" := by
    refine ⟨?_, ?_, ?_, ?_, ?_, ?_, ?_, ?_⟩ <;> exact oneLine_ofList rfl
  refine ⟨?_, ?_, ?_⟩
  · cases event <;> exact oneLine_ofList rfl
  · cases event <;> exact oneLine_ofList rfl
  · cases event with
    | accepting _ _ | acceptingStopped _ | serverStarting _ | serverListening _ _ _
    | serverFailed _ | serverStopping _ | serverStopped | telemetryInstalled _ => cases h
    | _ =>
        simp [entry, FieldValue.text, oneLine_quoted, oneLine_fault, oneLine_slotError,
          oneLine_kind, hnumber, hnames]

theorem Event.nodup_members (event : Event) (thread : String) :
    ((event.entry.members thread).map Prod.fst).Nodup := by
  cases event <;> simp [Event.entry, Entry.members]

/-! ## Objects -/

/-- What can be read from the object of an entry: the text of each field that quotes one, by the
name of the field. -/
structure Entry.ReadFrom (entry : Entry) (line : String) : Prop where
  object : ∃ members, JsonText.ObjectText members line.toList ∧ (members.map Prod.fst).Nodup ∧
    ∀ member ∈ members, JsonText.Scalar member.2
  quoted : ∀ name text, (name, .quoted text) ∈ entry.fields →
    JsonText.stringOf name line = .ok (some text)
  absent : ∀ name, name ∉ ["level", "message", "target", "threadName"] →
    name ∉ entry.fields.map Prod.fst → JsonText.stringOf name line = .ok none

theorem Event.readFrom_toJson (event : Event) (thread : String) :
    event.entry.ReadFrom (event.entry.toJson thread) := by
  have hnodup : (((event.entry.members thread).map fun m => (m.1, m.2.toJson)).map
      Prod.fst).Nodup := by
    rw [List.map_map]
    exact event.nodup_members thread
  have hscalar : ∀ member ∈ (event.entry.members thread).map fun m => (m.1, m.2.toJson),
      JsonText.Scalar member.2.toList := by
    intro member hmember
    obtain ⟨m, -, rfl⟩ := List.mem_map.mp hmember
    exact scalar_toJson m.2
  rw [Entry.toJson_eq]
  refine ⟨⟨_, JsonText.objectText_writtenObject _, ?_, ?_⟩, ?_, ?_⟩
  · rwa [List.map_map]
  · intro member hmember
    obtain ⟨m, hm, rfl⟩ := List.mem_map.mp hmember
    exact hscalar m hm
  · intro name text hfield
    refine JsonText.stringOf_mem hscalar hnodup (List.mem_map.mpr ⟨(name, .quoted text), ?_, rfl⟩)
    exact List.mem_append_left _ (List.mem_append_right _ hfield)
  · intro name hown hfields
    refine JsonText.stringOf_not_mem hscalar hnodup fun hmem => ?_
    have hkeys : ((event.entry.members thread).map fun m => (m.1, m.2.toJson)).map Prod.fst =
        ["level", "message"] ++ event.entry.fields.map Prod.fst ++ ["target", "threadName"] := by
      simp [Entry.members, Function.comp_def]
    rw [hkeys, List.mem_append, List.mem_append] at hmem
    rcases hmem with (hmem | hmem) | hmem
    · exact hown (List.mem_append_left ["target", "threadName"] hmem)
    · exact hfields hmem
    · exact hown (List.mem_append_right ["level", "message"] hmem)

/-! ## Lines -/

/-- The text of lines that are written one after another, each with a newline after it. -/
def writtenLines (lines : List String) : List Char :=
  lines.flatMap fun line => line.toList ++ ['\n']

theorem splitAt_append {line : List Char} (h : '\n' ∉ line) (rest : List Char) :
    Text.splitAt '\n' (line ++ '\n' :: rest) = line :: Text.splitAt '\n' rest := by
  induction line with
  | nil => simp [Text.splitAt]
  | cons c line ih =>
      rw [List.mem_cons, not_or] at h
      simp [Text.splitAt, Ne.symm h.1, ih h.2]

/-- Cutting the text at its newlines gives back the lines, if none of them has one. -/
theorem splitAt_writtenLines {lines : List String} (h : ∀ line ∈ lines, OneLine line) :
    Text.splitAt '\n' (writtenLines lines) = lines.map String.toList ++ [[]] := by
  induction lines with
  | nil => rfl
  | cons line lines ih =>
      obtain ⟨hline, hrest⟩ := List.forall_mem_cons.mp h
      have htext : writtenLines (line :: lines) =
          line.toList ++ '\n' :: writtenLines lines := by
        simp [writtenLines]
      rw [htext, splitAt_append hline, ih hrest]
      rfl

namespace Entry

/-- A line that is written for an entry that a thread makes. -/
def WrittenAs (format : LogFormat) (made : String × Entry) (line : String) : Prop :=
  match format with
  | .json => line = made.2.toJson made.1
  | .compact => ∃ width, line = made.2.compactLine width made.1

theorem WrittenAs.oneLine {format : LogFormat} {made : String × Entry} {line : String}
    (h : WrittenAs format made line) (htidy : made.2.Tidy) (hthread : OneLine made.1) :
    OneLine line := by
  cases format with
  | json =>
      obtain rfl : line = _ := h
      exact made.2.oneLine_object made.1
  | compact =>
      obtain ⟨width, rfl⟩ := h
      exact htidy.oneLine_compactLine hthread width

/-- One line is written for each entry, in order. -/
theorem forall₂_lines (format : LogFormat) (width : Nat) (made : List (String × Entry)) :
    List.Forall₂ (WrittenAs format) made (lines format width made) := by
  induction made generalizing width with
  | nil => exact .nil
  | cons first made ih =>
      refine .cons ?_ (ih _)
      cases format with
      | json => rfl
      | compact => exact ⟨_, rfl⟩

/-- What is written for later entries does not change what was written before. -/
theorem lines_append (format : LogFormat) (width : Nat) (made later : List (String × Entry)) :
    ∃ widest, lines format width (made ++ later) =
      lines format width made ++ lines format widest later := by
  induction made generalizing width with
  | nil => exact ⟨width, rfl⟩
  | cons first made ih =>
      obtain ⟨widest, hrest⟩ := ih (max width first.1.utf8ByteSize)
      exact ⟨widest, congrArg (_ :: ·) hrest⟩

end Entry

end SlotServer.Log
