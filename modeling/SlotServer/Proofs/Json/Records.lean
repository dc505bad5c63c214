import SlotServer.Proofs.Json.Objects
import Mathlib.Data.List.Nodup

/-!
# Texts of records

A record is written as an object that has each of its fields once, in any order, and may have other
members besides. Where the drafts of a reader keep track of its fields, each such text is read as
the record, and a text with a field too few or too many, or with a value that is itself such a text,
is rejected for its shape.
-/

namespace SlotServer.JsonText

/-! ## Grammar -/

/-- A field of records of type `α`. -/
structure RecordField (α : Type) where
  name : String
  /-- The texts of the field of a record. -/
  Text : α → List Char → Prop
  /-- Texts of records inside this one that have not the right fields. -/
  Bad : List Char → Prop

section Grammar

variable {α : Type} (fields : List (RecordField α))

/-- The value of a member that belongs to no field is plain. -/
def ExtraPlain (member : String × List Char) : Prop :=
  member.1 ∉ fields.map RecordField.name → Scalar member.2

/-- The texts of a record. -/
inductive RecordText (a : α) : List Char → Prop
  | object {members : List (String × List Char)} {text : List Char}
      (htext : ObjectText members text)
      (honce : ∀ name ∈ fields.map RecordField.name, (members.map Prod.fst).count name = 1)
      (hvalue : ∀ member ∈ members, ∀ field ∈ fields, field.name = member.1 →
        field.Text a member.2)
      (hextra : ∀ member ∈ members, ExtraPlain fields member) : RecordText a text

/-- The texts of what would be a record, if it did not miss a field, have one twice, or contain a
record of which this is true. -/
inductive Malformed : List Char → Prop
  | object {members : List (String × List Char)} {text : List Char}
      (htext : ObjectText members text)
      (hvalue : ∀ member ∈ members, ∀ field ∈ fields, field.name = member.1 →
        (∃ a, field.Text a member.2) ∨ field.Bad member.2)
      (hextra : ∀ member ∈ members, ExtraPlain fields member)
      (hfault : (∃ name ∈ fields.map RecordField.name, (members.map Prod.fst).count name ≠ 1) ∨
        ∃ member ∈ members, ∃ field ∈ fields, field.name = member.1 ∧ field.Bad member.2) :
      Malformed text

variable {fields}

/-- A record is written if its fields are, one after another. -/
theorem recordText_writtenObject {a : α} {members : List (String × String)}
    (h : List.Forall₂ (fun member field => member.1 = field.name ∧
      field.Text a member.2.toList) members fields)
    (hnodup : (fields.map RecordField.name).Nodup) :
    RecordText fields a (writtenObject members).toList := by
  have hnames : members.map Prod.fst = fields.map RecordField.name := by
    clear hnodup
    induction h with
    | nil => rfl
    | cons hfirst _ ih => rw [List.map_cons, List.map_cons, hfirst.1, ih]
  have hkeys : (members.map fun m => (m.1, m.2.toList)).map Prod.fst = fields.map RecordField.name := by
    rw [List.map_map, ← hnames]
    rfl
  have hpaired : ∀ field ∈ fields, ∃ member ∈ members, member.1 = field.name ∧
      field.Text a member.2.toList := by
    clear hnodup hnames hkeys
    induction h with
    | nil => nofun
    | cons hfirst _ ih =>
        refine List.forall_mem_cons.mpr ⟨⟨_, List.mem_cons_self, hfirst⟩, fun field hfield => ?_⟩
        obtain ⟨member, hmember, hvalue⟩ := ih field hfield
        exact ⟨member, List.mem_cons_of_mem _ hmember, hvalue⟩
  refine .object (objectText_writtenObject members) (fun name hname => ?_) ?_ ?_
  · rw [hkeys]
    exact List.count_eq_one_of_mem hnodup hname
  · intro entry hentry field hfield hname
    obtain ⟨member, hmember, rfl⟩ := List.mem_map.mp hentry
    obtain ⟨other, hother, hotherName, hvalue⟩ := hpaired field hfield
    obtain rfl := List.inj_on_of_nodup_map (hnames ▸ hnodup) hother hmember
      (hotherName.trans hname)
    exact hvalue
  · intro entry hentry hextra
    exact absurd (hkeys ▸ List.mem_map_of_mem hentry) hextra

end Grammar

/-! ## Drafts -/

namespace Shape

variable {δ α : Type} (shape : Shape δ α)

/-- A change of drafts gives them the member of this name and no other. -/
def Sets (key : String) (change : δ → δ) : Prop :=
  ∀ draft, ∀ m ∈ shape.members, m.isSet (change draft) = (m.isSet draft || m.name == key)

variable {shape}

theorem step_eq_ok {draft next : δ} {effect : String × Except Error (δ → δ)}
    (h : shape.step draft effect = .ok next) :
    shape.has draft effect.1 = false ∧ ∃ change, effect.2 = .ok change ∧ change draft = next := by
  unfold step at h
  split at h
  · cases h
  · rename_i hhas
    refine ⟨Bool.eq_false_iff.mpr hhas, ?_⟩
    cases heffect : effect.2 with
    | error error => rw [heffect] at h; cases h
    | ok change =>
        rw [heffect] at h
        exact ⟨change, rfl, Except.ok.inj h⟩

theorem has_eq_false {key : String} (h : ¬ shape.Knows key) (draft : δ) :
    shape.has draft key = false := by
  have hfind : shape.members.find? (·.name = key) = none :=
    List.find?_eq_none.mpr fun m hm hname => h ⟨m, hm, by simpa using hname⟩
  rw [has, hfind]
  rfl

theorem has_name (hnodup : (shape.members.map Member.name).Nodup) {m : Member δ}
    (hm : m ∈ shape.members) (draft : δ) : shape.has draft m.name = m.isSet draft := by
  rw [has]
  cases hfind : shape.members.find? (·.name = m.name) with
  | none =>
      have hne := List.find?_eq_none.mp hfind m hm
      simp at hne
  | some other =>
      have hname : other.name = m.name := by simpa using List.find?_some hfind
      obtain rfl := List.inj_on_of_nodup_map hnodup (List.mem_of_find?_eq_some hfind) hm hname
      rfl

/-- A member that is read counts for the draft from then on. -/
theorem Sets.count {key : String} {change : δ → δ} (hset : shape.Sets key change)
    (hnodup : (shape.members.map Member.name).Nodup) {draft : δ}
    (hhas : shape.has draft key = false) {m : Member δ} (hm : m ∈ shape.members)
    (keys : List String) :
    (m.isSet (change draft)).toNat + keys.count m.name =
      (m.isSet draft).toNat + (key :: keys).count m.name := by
  rw [hset draft m hm, List.count_cons]
  by_cases heq : m.name = key
  · rw [← heq, has_name hnodup hm] at hhas
    rw [heq, hhas]
    simp
    omega
  · have hne : (m.name == key) = false := beq_eq_false_iff_ne.mpr heq
    have hne' : (key == m.name) = false := beq_eq_false_iff_ne.mpr (Ne.symm heq)
    rw [hne, hne', Bool.or_false]
    rfl

/-- What is in a draft tells how often each member was read: once if it is there, and otherwise
not at all. -/
theorem readAll_count {draft next : δ} (effects : List (String × Except Error (δ → δ)))
    (hnodup : (shape.members.map Member.name).Nodup)
    (hsets : ∀ effect ∈ effects, ∀ change, effect.2 = .ok change → shape.Sets effect.1 change)
    (hread : shape.readAll draft effects = .ok next) {m : Member δ} (hm : m ∈ shape.members) :
    (m.isSet draft).toNat + (effects.map Prod.fst).count m.name = (m.isSet next).toNat := by
  induction effects generalizing draft with
  | nil =>
      obtain rfl : draft = next := Except.ok.inj hread
      rfl
  | cons effect effects ih =>
      rw [List.forall_mem_cons] at hsets
      rw [readAll_cons] at hread
      cases hstep : shape.step draft effect with
      | error error => rw [hstep] at hread; cases hread
      | ok between =>
          rw [hstep] at hread
          obtain ⟨hhas, change, hchange, rfl⟩ := step_eq_ok hstep
          rw [← ih hsets.2 hread, List.map_cons]
          exact ((hsets.1 change hchange).count hnodup hhas hm _).symm

theorem readAll_effects {draft next : δ} (effects : List (String × Except Error (δ → δ)))
    (hread : shape.readAll draft effects = .ok next) :
    ∀ effect ∈ effects, ∃ change, effect.2 = .ok change := by
  induction effects generalizing draft with
  | nil => nofun
  | cons effect effects ih =>
      rw [readAll_cons] at hread
      cases hstep : shape.step draft effect with
      | error error => rw [hstep] at hread; cases hread
      | ok between =>
          rw [hstep] at hread
          obtain ⟨-, change, hchange, -⟩ := step_eq_ok hstep
          exact List.forall_mem_cons.mpr ⟨⟨change, hchange⟩, ih hread⟩

/-- Where values fail for their shape only, so do the members as a whole. -/
theorem readAll_error {draft : δ} {error : Error}
    (effects : List (String × Except Error (δ → δ)))
    (hshape : ∀ effect ∈ effects, ∀ e, effect.2 = .error e → e.category = .shape)
    (hread : shape.readAll draft effects = .error error) : error.category = .shape := by
  induction effects generalizing draft with
  | nil => cases hread
  | cons effect effects ih =>
      rw [List.forall_mem_cons] at hshape
      rw [readAll_cons] at hread
      cases hstep : shape.step draft effect with
      | ok between => exact ih hshape.2 (by rwa [hstep] at hread)
      | error e =>
          obtain rfl : e = error := by
            rw [hstep] at hread
            exact Except.error.inj hread
          unfold step at hstep
          split at hstep
          · obtain rfl := Except.error.inj hstep
            rfl
          · cases heffect : effect.2 with
            | ok change => rw [heffect] at hstep; cases hstep
            | error e' =>
                rw [heffect] at hstep
                obtain rfl : e' = e := Except.error.inj hstep
                exact hshape.1 e' heffect

/-- What holds of drafts and is kept by the changes holds at the end, which is reached if no member
is there twice. -/
theorem readAll_keeps {draft : δ} (effects : List (String × Except Error (δ → δ)))
    (hnodup : (shape.members.map Member.name).Nodup) (holds : δ → Prop) (hdraft : holds draft)
    (hkeeps : ∀ effect ∈ effects, ∃ change, effect.2 = .ok change ∧
      shape.Sets effect.1 change ∧ ∀ draft, holds draft → holds (change draft))
    (honce : ∀ m ∈ shape.members,
      (m.isSet draft).toNat + (effects.map Prod.fst).count m.name ≤ 1) :
    ∃ next, shape.readAll draft effects = .ok next ∧ holds next := by
  induction effects generalizing draft with
  | nil => exact ⟨draft, rfl, hdraft⟩
  | cons effect effects ih =>
      rw [List.forall_mem_cons] at hkeeps
      obtain ⟨⟨change, hchange, hset, hkeep⟩, hlater⟩ := hkeeps
      have hhas : shape.has draft effect.1 = false := by
        by_cases hkey : shape.Knows effect.1
        · obtain ⟨m, hm, hname⟩ := hkey
          have hcount := honce m hm
          rw [List.map_cons, hname, List.count_cons_self] at hcount
          rw [← hname, has_name hnodup hm]
          exact Bool.toNat_eq_zero.mp (by omega)
        · exact has_eq_false hkey draft
      have hstep : shape.step draft effect = .ok (change draft) := by
        simp [step, hhas, hchange, Except.map]
      obtain ⟨next, hnext, hholds⟩ := ih (hkeep draft hdraft) hlater fun m hm => by
        rw [hset.count hnodup hhas hm]
        exact honce m hm
      refine ⟨next, ?_, hholds⟩
      rw [readAll_cons, hstep]
      exact hnext

end Shape

/-! ## Records -/

/-- A member of a record is read as its field says: it gives a record's field to drafts of the
record, and is rejected if it is bad. -/
structure Member.Fits {δ α : Type} (m : Member δ) (shape : Shape δ α) (agrees : α → δ → Prop)
    (field : RecordField α) : Prop where
  name_eq : field.name = m.name
  reads : ∀ a text, field.Text a text → ∃ change, m.Gives text (.ok change) ∧
    shape.Sets m.name change ∧ ∀ draft, agrees a draft → agrees a (change draft)
  rejects : ∀ text, field.Bad text →
    ∃ error : Error, error.category = .shape ∧ m.Gives text (.error error)

/-- A kind of records is read as its fields say. Drafts of a record agree with it in all fields that
they have. -/
structure Shape.Fits {δ α : Type} (shape : Shape δ α) (agrees : α → δ → Prop)
    (fields : List (RecordField α)) : Prop where
  names_eq : fields.map RecordField.name = shape.members.map Member.name
  nodup : (shape.members.map Member.name).Nodup
  members : ∀ m ∈ shape.members, ∃ field ∈ fields, m.Fits shape agrees field
  blank : ∀ m ∈ shape.members, m.isSet shape.blank = false
  agrees_blank : ∀ a, agrees a shape.blank
  finish : ∀ a draft, agrees a draft → (∀ m ∈ shape.members, m.isSet draft = true) →
    shape.finish draft = .ok a
  missing : ∀ draft, ∀ m ∈ shape.members, m.isSet draft = false →
    ∃ name, shape.finish draft = .error (.missingField name)

namespace Shape.Fits

variable {δ α : Type} {shape : Shape δ α} {agrees : α → δ → Prop} {fields : List (RecordField α)}

theorem knows_iff (h : shape.Fits agrees fields) (key : String) :
    shape.Knows key ↔ key ∈ fields.map RecordField.name := by
  rw [h.names_eq, List.mem_map]
  rfl

/-- The effect of a member whose name is no field's. -/
theorem effect_extra (h : shape.Fits agrees fields) {member : String × List Char}
    (hextra : ExtraPlain fields member) (hunknown : ¬ shape.Knows member.1) :
    shape.Effect member (member.1, .ok id) ∧ shape.Sets member.1 id := by
  refine ⟨⟨rfl, fun m hm hname => absurd ⟨m, hm, hname⟩ hunknown, fun _ => ⟨?_, rfl⟩⟩, ?_⟩
  · exact hextra (mt (h.knows_iff _).mpr hunknown)
  · intro draft m hm
    have hne : (m.name == member.1) = false :=
      beq_eq_false_iff_ne.mpr fun heq => hunknown ⟨m, hm, heq⟩
    rw [hne, Bool.or_false]
    rfl

/-- The effect of a member whose name is a field's. -/
theorem effect_known (h : shape.Fits agrees fields) {member : String × List Char} {m : Member δ}
    (hm : m ∈ shape.members) (hname : m.name = member.1) {effect : Except Error (δ → δ)}
    (hgives : m.Gives member.2 effect) : shape.Effect member (member.1, effect) := by
  refine ⟨rfl, fun other hother hsame => ?_, fun hunknown => absurd ⟨m, hm, hname⟩ hunknown⟩
  obtain rfl := List.inj_on_of_nodup_map h.nodup hother hm (hsame.trans hname.symm)
  exact hgives

/-- The effects of the members of an object, if each member has one of a kind. -/
theorem exists_effects {members : List (String × List Char)}
    {kind : String × List Char → String × Except Error (δ → δ) → Prop}
    (h : ∀ member ∈ members, ∃ effect, shape.Effect member effect ∧ kind member effect) :
    ∃ effects, List.Forall₂ shape.Effect members effects ∧
      (∀ effect ∈ effects, ∃ member ∈ members, kind member effect) ∧
      ∀ member ∈ members, ∃ effect ∈ effects, kind member effect := by
  induction members with
  | nil => exact ⟨[], .nil, nofun, nofun⟩
  | cons member members ih =>
      rw [List.forall_mem_cons] at h
      obtain ⟨⟨effect, heffect, hkind⟩, hrest⟩ := h
      obtain ⟨effects, heffects, hmember, heach⟩ := ih hrest
      refine ⟨effect :: effects, .cons heffect heffects, List.forall_mem_cons.mpr ⟨?_, ?_⟩,
        List.forall_mem_cons.mpr ⟨?_, ?_⟩⟩
      · exact ⟨member, List.mem_cons_self, hkind⟩
      · intro later hlater
        obtain ⟨source, hsource, hkind⟩ := hmember later hlater
        exact ⟨source, List.mem_cons_of_mem _ hsource, hkind⟩
      · exact ⟨effect, List.mem_cons_self, hkind⟩
      · intro later hlater
        obtain ⟨result, hresult, hkind⟩ := heach later hlater
        exact ⟨result, List.mem_cons_of_mem _ hresult, hkind⟩

theorem map_effects {members : List (String × List Char)}
    {effects : List (String × Except Error (δ → δ))}
    (h : List.Forall₂ shape.Effect members effects) :
    effects.map Prod.fst = members.map Prod.fst := by
  induction h with
  | nil => rfl
  | cons heffect _ ih => rw [List.map_cons, List.map_cons, heffect.key_eq, ih]

/-- A member of a record's text gives the record's field to drafts, or is of no interest. -/
theorem effect_of_record (h : shape.Fits agrees fields) {a : α} {member : String × List Char}
    (hvalue : ∀ field ∈ fields, field.name = member.1 → field.Text a member.2)
    (hextra : ExtraPlain fields member) :
    ∃ effect, shape.Effect member effect ∧ ∃ change, effect.2 = .ok change ∧
      shape.Sets effect.1 change ∧ ∀ draft, agrees a draft → agrees a (change draft) := by
  by_cases hknown : shape.Knows member.1
  · obtain ⟨m, hm, hname⟩ := hknown
    obtain ⟨field, hfield, hfits⟩ := h.members m hm
    obtain ⟨change, hgives, hsets, hagrees⟩ :=
      hfits.reads a member.2 (hvalue field hfield (hfits.name_eq.trans hname))
    exact ⟨_, h.effect_known hm hname hgives, change, rfl, hname ▸ hsets, hagrees⟩
  · obtain ⟨heffect, hsets⟩ := h.effect_extra hextra hknown
    exact ⟨_, heffect, id, rfl, hsets, fun draft hdraft => hdraft⟩

/-- Each text of a record is read as the record. -/
theorem reads_record (h : shape.Fits agrees fields) {a : α} {text : List Char}
    (htext : RecordText fields a text) : Reads shape.reader text (.ok a) := by
  cases htext with
  | @object members text htext honce hvalue hextra =>
      obtain ⟨effects, heffects, hkinds, -⟩ := exists_effects fun member hmember =>
        h.effect_of_record (hvalue member hmember) (hextra member hmember)
      have hkeeps : ∀ effect ∈ effects, ∃ change, effect.2 = .ok change ∧
          shape.Sets effect.1 change ∧ ∀ draft, agrees a draft → agrees a (change draft) :=
        fun effect heffect => (hkinds effect heffect).elim fun _ h => h.2
      have hcount : ∀ m ∈ shape.members, (effects.map Prod.fst).count m.name = 1 := by
        intro m hm
        rw [map_effects heffects]
        exact honce m.name ((h.knows_iff m.name).mp ⟨m, hm, rfl⟩)
      obtain ⟨draft, hread, hagrees⟩ := readAll_keeps effects h.nodup (agrees a)
        (h.agrees_blank a) hkeeps fun m hm => by
          rw [h.blank m hm, hcount m hm]
          exact Nat.le_refl 1
      have hsets : ∀ effect ∈ effects, ∀ change, effect.2 = .ok change →
          shape.Sets effect.1 change := by
        intro effect heffect change hchange
        obtain ⟨change', hchange', hsets, -⟩ := hkeeps effect heffect
        rw [hchange'] at hchange
        exact Except.ok.inj hchange ▸ hsets
      have hset : ∀ m ∈ shape.members, m.isSet draft = true := by
        intro m hm
        have hdraft := readAll_count effects h.nodup hsets hread hm
        rw [h.blank m hm, hcount m hm] at hdraft
        exact Bool.toNat_eq_one.mp hdraft.symm
      have hfinish : (shape.readAll shape.blank effects >>= shape.finish) = .ok a := by
        rw [hread]
        exact h.finish a draft hagrees hset
      exact hfinish ▸ reader_object htext heffects

/-- A member of a malformed text changes drafts as it should, or is rejected for its shape, as it is
if it is bad. -/
theorem effect_of_malformed (h : shape.Fits agrees fields) {member : String × List Char}
    (hvalue : ∀ field ∈ fields, field.name = member.1 →
      (∃ a, field.Text a member.2) ∨ field.Bad member.2)
    (hextra : ExtraPlain fields member) :
    ∃ effect, shape.Effect member effect ∧
      (∀ change, effect.2 = .ok change → shape.Sets effect.1 change) ∧
      (∀ error, effect.2 = .error error → error.category = .shape) ∧
      ((∃ field ∈ fields, field.name = member.1 ∧ field.Bad member.2) →
        ∃ error, effect.2 = .error error) := by
  by_cases hknown : shape.Knows member.1
  · obtain ⟨m, hm, hname⟩ := hknown
    obtain ⟨field, hfield, hfits⟩ := h.members m hm
    have hfieldName : field.name = member.1 := hfits.name_eq.trans hname
    by_cases hbad : field.Bad member.2
    · obtain ⟨error, hshape, hgives⟩ := hfits.rejects member.2 hbad
      refine ⟨_, h.effect_known hm hname hgives, nofun, ?_, fun _ => ⟨error, rfl⟩⟩
      rintro _ ⟨⟩
      exact hshape
    · obtain ⟨a, ha⟩ := (hvalue field hfield hfieldName).resolve_right hbad
      obtain ⟨change, hgives, hsets, -⟩ := hfits.reads a member.2 ha
      refine ⟨_, h.effect_known hm hname hgives, ?_, nofun, ?_⟩
      · rintro _ ⟨⟩
        exact hname ▸ hsets
      · rintro ⟨other, hother, hotherName, hotherBad⟩
        have hnodup : (fields.map RecordField.name).Nodup := h.names_eq ▸ h.nodup
        obtain rfl := List.inj_on_of_nodup_map hnodup hother hfield
          (hotherName.trans hfieldName.symm)
        exact absurd hotherBad hbad
  · obtain ⟨heffect, hsets⟩ := h.effect_extra hextra hknown
    refine ⟨_, heffect, ?_, nofun, ?_⟩
    · rintro _ ⟨⟩
      exact hsets
    · rintro ⟨field, hfield, hname, -⟩
      exact absurd ((h.knows_iff _).mpr (List.mem_map.mpr ⟨field, hfield, hname⟩)) hknown

/-- Each malformed text is rejected for its shape. -/
theorem reads_malformed (h : shape.Fits agrees fields) {text : List Char}
    (htext : Malformed fields text) :
    ∃ error : Error, error.category = .shape ∧ Reads shape.reader text (.error error) := by
  cases htext with
  | @object members text htext hvalue hextra hfault =>
      obtain ⟨effects, heffects, hkinds, hmembers⟩ := exists_effects fun member hmember =>
        h.effect_of_malformed (hvalue member hmember) (hextra member hmember)
      have hreader := reader_object htext heffects
      cases hread : shape.readAll shape.blank effects with
      | error error =>
          refine ⟨error, readAll_error effects (fun effect heffect => ?_) hread, ?_⟩
          · obtain ⟨member, -, -, hshape, -⟩ := hkinds effect heffect
            exact hshape
          · rw [hread] at hreader
            exact hreader
      | ok draft =>
          -- All values were read and none twice, so what is wrong is that a field is missing.
          obtain ⟨name, hname, hcount⟩ : ∃ name ∈ fields.map RecordField.name,
              (members.map Prod.fst).count name ≠ 1 := by
            refine hfault.resolve_right ?_
            rintro ⟨member, hmember, hbad⟩
            obtain ⟨effect, heffect, -, -, hfails⟩ := hmembers member hmember
            obtain ⟨error, herror⟩ := hfails hbad
            obtain ⟨change, hchange⟩ := readAll_effects effects hread effect heffect
            rw [hchange] at herror
            cases herror
          obtain ⟨m, hm, rfl⟩ := (h.knows_iff name).mpr hname
          have hdraft := readAll_count effects h.nodup (fun effect heffect => by
            obtain ⟨member, -, hsets, -, -⟩ := hkinds effect heffect
            exact hsets) hread hm
          rw [h.blank m hm, map_effects heffects, Bool.toNat_false, Nat.zero_add] at hdraft
          have hset : m.isSet draft = false := by
            refine Bool.eq_false_iff.mpr fun hset => hcount ?_
            rw [hdraft, hset]
            rfl
          obtain ⟨missing, hmissing⟩ := h.missing draft m hm hset
          refine ⟨.missingField missing, rfl, ?_⟩
          have hfinish : (shape.readAll shape.blank effects >>= shape.finish) =
              .error (.missingField missing) := by
            rw [hread]
            exact hmissing
          exact hfinish ▸ hreader

end Shape.Fits

/-! ## Whole texts -/

/-- A kind of records that survives being written and read, in any form that its texts may have. -/
structure Survives {α : Type} (toJson : α → String) (ofJson : String → Except Error α)
    (fields : List (RecordField α)) : Prop where
  written : ∀ a, RecordText fields a (toJson a).toList
  roundTrip : ∀ a, ofJson (toJson a) = .ok a
  reads : ∀ a before text after, Spaces before → Spaces after → RecordText fields a text →
    ofJson (String.ofList (before ++ (text ++ after))) = .ok a
  rejects : ∀ before text after, Spaces before → Spaces after → Malformed fields text →
    ∃ error : Error, error.category = .shape ∧
      ofJson (String.ofList (before ++ (text ++ after))) = .error error

theorem whole_reads {α : Type} {reader : Reader α} {text : List Char} {result : Except Error α}
    (h : Reads reader text result) {before after : List Char} (hbefore : Spaces before)
    (hafter : Spaces after) :
    whole reader (String.ofList (before ++ (text ++ after))) = result := by
  have hrest : dropSpace after = [] := by
    rw [← List.append_nil after, dropSpace_append hafter]
    rfl
  rw [whole, String.toList_ofList, h before after hbefore hafter.boundary]
  cases result with
  | error error => rfl
  | ok value => simp [Except.map, bind, Except.bind, hrest, pure, Except.pure]

/-- A kind of records survives if it is read as its fields say and written with all of them. -/
theorem survives_of_fits {δ α : Type} {shape : Shape δ α} {agrees : α → δ → Prop}
    {fields : List (RecordField α)} (h : shape.Fits agrees fields) {toJson : α → String}
    (hwritten : ∀ a, RecordText fields a (toJson a).toList) :
    Survives toJson (whole shape.reader) fields where
  written := hwritten
  roundTrip a := by
    have hspaces : Spaces [] := nofun
    have hread := whole_reads (h.reads_record (hwritten a)) hspaces hspaces
    simpa using hread
  reads _ _ _ _ hbefore hafter htext := whole_reads (h.reads_record htext) hbefore hafter
  rejects _ _ _ hbefore hafter htext := by
    obtain ⟨error, hshape, hreads⟩ := h.reads_malformed htext
    exact ⟨error, hshape, whole_reads hreads hbefore hafter⟩

end SlotServer.JsonText
