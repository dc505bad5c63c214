import SlotServer.Config.Json
import SlotServer.Proofs.Json.Records

/-!
# One member of an object

Of an object that is written with plain values, each string can be read by its name alone, whatever
the other members are.
-/

namespace SlotServer.JsonText

/-- The form of an object of which only the string of one name matters. -/
def stringMember (name : String) : Shape (Option String) (Option String) where
  title := "an object"
  members := [jsonMember name id (fun _ text => some text) (stringReader "a string")]
  blank := none
  finish := .ok

/-- The string that an object has by a name, if it has one by this name. -/
def stringOf (name : String) (text : String) : Except Error (Option String) :=
  whole (stringMember name).reader text

/-- What a member does to the string read so far, if the string of this name is `value`. -/
def stringEffect (name value : String) (key : String) :
    String × Except Error (Option String → Option String) :=
  (key, .ok fun draft => if key = name then some value else draft)

section Members

variable {name value : String} {members : List (String × String)}

theorem has_stringMember (draft : Option String) (key : String) :
    (stringMember name).has draft key = (decide (name = key) && draft.isSome) := by
  by_cases h : name = key <;> simp [Shape.has, stringMember, jsonMember, h]

/-- A member is skipped, unless it is the one that is looked for. -/
theorem stringMember_effect {member : String × String} (hscalar : Scalar member.2.toList)
    (hvalue : member.1 = name → member.2 = writtenString value) :
    (stringMember name).Effect (member.1, member.2.toList) (stringEffect name value member.1) where
  key_eq := rfl
  known m hm hname := by
    obtain rfl := List.mem_singleton.mp hm
    have hkey : member.1 = name := hname.symm
    intro draft space rest hspace hrest
    have htext : StringText value member.2.toList := by
      rw [hvalue hkey]
      exact stringText_writtenString value
    have hread := stringReader_reads htext "a string" space rest hspace hrest
    simp [jsonMember, hread, Except.map, stringEffect, hkey]
  extra hunknown := by
    have hkey : member.1 ≠ name := fun hkey =>
      hunknown ⟨_, List.mem_singleton.mpr rfl, hkey.symm⟩
    refine ⟨hscalar, ?_⟩
    simp only [stringEffect, if_neg hkey]
    rfl

/-- Each key stands once, so a string that was read is not read again. -/
theorem readAll_stringEffects (keys : List String) (hnodup : keys.Nodup) (draft : Option String)
    (hdraft : name ∈ keys → draft = none) :
    (stringMember name).readAll draft (keys.map (stringEffect name value)) =
      .ok (if name ∈ keys then some value else draft) := by
  induction keys generalizing draft with
  | nil => rfl
  | cons key keys ih =>
      obtain ⟨hkey, hrest⟩ := List.nodup_cons.mp hnodup
      rw [List.map_cons, Shape.readAll_cons, Shape.step, has_stringMember]
      by_cases hname : name = key
      · subst hname
        obtain rfl := hdraft List.mem_cons_self
        have hlater := ih hrest (some value) fun hmem => absurd hmem hkey
        simpa [stringEffect, Except.map, bind, Except.bind, hkey] using hlater
      · have hlater := ih hrest draft fun hmem => hdraft (List.mem_cons_of_mem key hmem)
        simpa [stringEffect, Except.map, bind, Except.bind, hname, Ne.symm hname] using hlater

theorem stringOf_writtenObject (hscalar : ∀ member ∈ members, Scalar member.2.toList)
    (hnodup : (members.map Prod.fst).Nodup)
    (hvalue : ∀ member ∈ members, member.1 = name → member.2 = writtenString value) :
    stringOf name (writtenObject members) =
      .ok (if name ∈ members.map Prod.fst then some value else none) := by
  have heffects : List.Forall₂ (stringMember name).Effect
      (members.map fun m => (m.1, m.2.toList))
      ((members.map Prod.fst).map (stringEffect name value)) := by
    clear hnodup
    induction members with
    | nil => exact .nil
    | cons member members ih =>
        rw [List.forall_mem_cons] at hscalar hvalue
        exact .cons (stringMember_effect hscalar.1 hvalue.1) (ih hscalar.2 hvalue.2)
  have hreads := Shape.reader_object (objectText_writtenObject members) heffects
  have hspaces : Spaces [] := nofun
  have hwhole := whole_reads hreads hspaces hspaces
  have hblank : (stringMember name).blank = none := rfl
  rw [hblank, readAll_stringEffects _ hnodup none fun _ => rfl, List.nil_append, List.append_nil,
    String.ofList_toList] at hwhole
  exact hwhole

/-- A string is read back by its name. -/
theorem stringOf_mem (hscalar : ∀ member ∈ members, Scalar member.2.toList)
    (hnodup : (members.map Prod.fst).Nodup) (hmem : (name, writtenString value) ∈ members) :
    stringOf name (writtenObject members) = .ok (some value) := by
  have hvalue : ∀ member ∈ members, member.1 = name → member.2 = writtenString value := by
    intro member hmember hname
    exact congrArg Prod.snd (List.inj_on_of_nodup_map hnodup hmember hmem hname)
  rw [stringOf_writtenObject hscalar hnodup hvalue, if_pos (List.mem_map_of_mem hmem)]

/-- No string is read by a name that no member has. -/
theorem stringOf_not_mem (hscalar : ∀ member ∈ members, Scalar member.2.toList)
    (hnodup : (members.map Prod.fst).Nodup) (hname : name ∉ members.map Prod.fst) :
    stringOf name (writtenObject members) = .ok none := by
  have hvalue : ∀ member ∈ members, member.1 = name → member.2 = writtenString "" := by
    intro member hmember hsame
    exact absurd (hsame ▸ List.mem_map_of_mem hmember) hname
  rw [stringOf_writtenObject hscalar hnodup hvalue, if_neg hname]

end Members

end SlotServer.JsonText
