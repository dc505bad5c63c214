import SlotServer.Json.Record
import SlotServer.Proofs.Json.Scalars
import Mathlib.Data.List.Forall2

/-!
# Texts of objects

The texts of an object are told from its members, which are keys with texts of values; white space
may stand between any two pieces. Reading a record from such a text is reduced to what the members
do to a draft, one after another, whatever the text looks like.
-/

namespace SlotServer.JsonText

/-! ## Grammar -/

/-- The texts of a member, without the white space after it. -/
inductive MemberText : String × List Char → List Char → Prop
  | pair {key : String} {name value before around after : List Char} (hbefore : Spaces before)
      (hname : StringText key name) (haround : Spaces around) (hafter : Spaces after) :
      MemberText (key, value) (before ++ (name ++ (around ++ ':' :: (after ++ value))))

/-- The texts of the members that follow another one, up to the closing brace. -/
inductive RestText : List (String × List Char) → List Char → Prop
  | close {space : List Char} (hspace : Spaces space) : RestText [] (space ++ ['\x7d'])
  | next {space text rest : List Char} {member : String × List Char}
      {members : List (String × List Char)} (hspace : Spaces space)
      (hmember : MemberText member text) (hrest : RestText members rest) :
      RestText (member :: members) (space ++ ',' :: (text ++ rest))

/-- The texts of an object with these members. -/
inductive ObjectText : List (String × List Char) → List Char → Prop
  | empty {space : List Char} (hspace : Spaces space) :
      ObjectText [] ('\x7b' :: (space ++ ['\x7d']))
  | members {text rest : List Char} {member : String × List Char}
      {members : List (String × List Char)} (hmember : MemberText member text)
      (hrest : RestText members rest) : ObjectText (member :: members) ('\x7b' :: (text ++ rest))

theorem RestText.length_lt {members : List (String × List Char)} {text : List Char}
    (h : RestText members text) : members.length < text.length := by
  induction h with
  | close => simp
  | next =>
      simp only [List.length_cons, List.length_append]
      omega

/-- What follows a value in an object ends the value. -/
theorem RestText.boundary {members : List (String × List Char)} {text : List Char}
    (h : RestText members text) (after : List Char) : Boundary (text ++ after) := by
  have hspace : ∀ {space tail : List Char} {c : Char}, Spaces space → (c = ',' ∨ c = '\x7d') →
      Boundary (space ++ c :: tail) := by
    intro space tail c hspace hc d hd
    cases space with
    | nil =>
        obtain rfl : c = d := Option.some.inj hd
        exact .inr hc
    | cons e space => exact .inl (hspace d (by simp_all))
  cases h with
  | close h => simpa using hspace h (.inr rfl)
  | next h => simpa using hspace h (.inl rfl)

/-- The key of a member is read, and its value is left. -/
theorem MemberText.key {member : String × List Char} {text : List Char}
    (h : MemberText member text) (rest : List Char) :
    ∃ tail around after, dropSpace (text ++ rest) = '"' :: tail ∧ Spaces around ∧ Spaces after ∧
      ∀ other, Shape.key other ('"' :: tail) =
        .ok (member.1, around ++ ':' :: (after ++ (member.2 ++ rest))) := by
  cases h with
  | @pair key name value before around after hbefore hname haround hafter =>
      cases hname with
      | @quoted body hbody =>
          refine ⟨body ++ (around ++ ':' :: (after ++ (value ++ rest))), around, after, ?_, haround,
            hafter, fun other => ?_⟩
          · rw [List.append_assoc, dropSpace_append hbefore]
            simp [dropSpace_quote]
          · simp [Shape.key, hbody.read, Except.map]

theorem colon_spaces {around : List Char} (h : Spaces around) (rest : List Char) :
    colon (around ++ ':' :: rest) = .ok rest := by
  rw [colon, dropSpace_append h, dropSpace_cons rfl]
  rfl

/-! ## Written objects -/

theorem memberText_written (member : String × String) :
    MemberText (member.1, member.2.toList)
      (writtenString member.1 ++ ":" ++ member.2).toList := by
  have hspaces : Spaces [] := nofun
  have htext := @MemberText.pair member.1 _ member.2.toList _ _ _ hspaces
    (stringText_writtenString member.1) hspaces hspaces
  simpa [String.toList_append] using htext

theorem restText_written (member : String × String) (members : List (String × String)) :
    ∃ rest, RestText (members.map fun m => (m.1, m.2.toList)) rest ∧
      [','].intercalate ((member :: members).map fun m =>
          (writtenString m.1 ++ ":" ++ m.2).toList) ++ ['\x7d'] =
        (writtenString member.1 ++ ":" ++ member.2).toList ++ rest := by
  have hspaces : Spaces [] := nofun
  induction members generalizing member with
  | nil => exact ⟨['\x7d'], .close hspaces, by simp⟩
  | cons next members ih =>
      obtain ⟨rest, hrest, htext⟩ := ih next
      refine ⟨_, .next hspaces (memberText_written next) hrest, ?_⟩
      rw [List.nil_append, ← htext, List.map_cons, List.map_cons, List.intercalate_cons_cons]
      simp

/-- The written form of an object is one of its texts. -/
theorem objectText_writtenObject (members : List (String × String)) :
    ObjectText (members.map fun m => (m.1, m.2.toList)) (writtenObject members).toList := by
  have htext : (writtenObject members).toList = '\x7b' :: ([','].intercalate (members.map fun m =>
      (writtenString m.1 ++ ":" ++ m.2).toList) ++ ['\x7d']) := by
    have hopen : ("\x7b" : String).toList = ['\x7b'] := rfl
    have hclose : ("\x7d" : String).toList = ['\x7d'] := rfl
    have hcomma : ("," : String).toList = [','] := rfl
    simp only [writtenObject, String.toList_append, String.toList_intercalate, List.map_map, hopen,
      hclose, hcomma, List.cons_append, List.nil_append, Function.comp_def]
  rw [htext]
  cases members with
  | nil => exact .empty nofun
  | cons member members =>
      obtain ⟨rest, hrest, hwritten⟩ := restText_written member members
      rw [hwritten]
      exact .members (memberText_written member) hrest

/-! ## Members of a record -/

variable {δ α : Type}

/-- Reading the text of a value changes drafts, or fails. -/
def Member.Gives (m : Member δ) (text : List Char) (effect : Except Error (δ → δ)) : Prop :=
  ∀ draft, Reads (m.read draft) text (effect.map (· draft))

namespace Shape

variable (shape : Shape δ α)

/-- Whether a record has a member of this name. -/
def Knows (key : String) : Prop :=
  ∃ m ∈ shape.members, m.name = key

/-- Whether a draft has the member of this name already. -/
def has (draft : δ) (key : String) : Bool :=
  (shape.members.find? (·.name = key)).any (·.isSet draft)

/-- What a member of an object does to drafts. -/
structure Effect (member : String × List Char) (effect : String × Except Error (δ → δ)) :
    Prop where
  key_eq : effect.1 = member.1
  known : ∀ m ∈ shape.members, m.name = member.1 → m.Gives member.2 effect.2
  extra : ¬ shape.Knows member.1 → Scalar member.2 ∧ effect.2 = .ok id

/-- Reads a member into a draft, knowing what its value does. -/
def step (draft : δ) (effect : String × Except Error (δ → δ)) : Except Error δ :=
  if shape.has draft effect.1 then .error (.duplicateField effect.1)
  else effect.2.map (· draft)

/-- Reads members into a draft. -/
def readAll (draft : δ) (effects : List (String × Except Error (δ → δ))) : Except Error δ :=
  effects.foldlM shape.step draft

variable {shape}

theorem member_effect {member : String × List Char} {effect : String × Except Error (δ → δ)}
    (h : shape.Effect member effect) (draft : δ) {around after rest : List Char}
    (haround : Spaces around) (hafter : Spaces after) (hrest : Boundary rest) :
    shape.member member.1 draft (around ++ ':' :: (after ++ (member.2 ++ rest))) =
      (shape.step draft effect).map (·, rest) := by
  have hcolon := colon_spaces haround (after ++ (member.2 ++ rest))
  unfold Shape.member step has
  rw [h.key_eq]
  cases hfind : shape.members.find? (·.name = member.1) with
  | none =>
      have hunknown : ¬ shape.Knows member.1 := by
        rintro ⟨m, hm, hname⟩
        exact List.find?_eq_none.mp hfind m hm (by simp [hname])
      obtain ⟨hscalar, heffect⟩ := h.extra hunknown
      simp [hcolon, skipValue_scalar hscalar hafter hrest, heffect, Except.map, bind, Except.bind,
        pure, Except.pure]
  | some m =>
      have hname : m.name = member.1 := by simpa using List.find?_some hfind
      cases hset : m.isSet draft with
      | true => simp [hset, Except.map]
      | false =>
          have hread := h.known m (List.mem_of_find?_eq_some hfind) hname draft after rest hafter
            hrest
          simp [hset, hcolon, hread, bind, Except.bind]

theorem readAll_cons (draft : δ) (effect : String × Except Error (δ → δ))
    (effects : List (String × Except Error (δ → δ))) :
    shape.readAll draft (effect :: effects) =
      shape.step draft effect >>= fun next => shape.readAll next effects :=
  List.foldlM_cons

/-- Once white space is passed, a member takes a step and leaves the rest. -/
theorem objectMembers_member {member : String × List Char} {text : List Char}
    (h : MemberText member text) {effect : String × Except Error (δ → δ)}
    (heffect : shape.Effect member effect) (other : Char → Error) (steps : Nat) (draft : δ)
    {rest : List Char} (hrest : Boundary rest) :
    (do
      let (key, rest) ← key other (dropSpace (text ++ rest))
      let (draft, rest) ← shape.member key draft rest
      shape.objectMembers steps false draft rest) =
      shape.step draft effect >>= fun next => shape.objectMembers steps false next rest := by
  obtain ⟨tail, around, before, hdrop, haround, hbefore, hkey⟩ := h.key rest
  have hread := member_effect heffect draft haround hbefore hrest
  rw [hdrop, hkey]
  change (do
    let (draft, rest) ←
      shape.member member.1 draft (around ++ ':' :: (before ++ (member.2 ++ rest)))
    shape.objectMembers steps false draft rest) = _
  rw [hread]
  cases shape.step draft effect <;> rfl

theorem objectMembers_rest {members : List (String × List Char)} {text : List Char}
    (h : RestText members text) {effects : List (String × Except Error (δ → δ))}
    (heffects : List.Forall₂ shape.Effect members effects) {steps : Nat}
    (hsteps : members.length < steps) (draft : δ) (after : List Char) :
    shape.objectMembers steps false draft (text ++ after) =
      (shape.readAll draft effects).map (·, after) := by
  induction h generalizing effects steps draft with
  | @close space hspace =>
      cases heffects
      obtain ⟨steps, rfl⟩ := Nat.exists_eq_succ_of_ne_zero (Nat.ne_zero_of_lt hsteps)
      rw [objectMembers, List.append_assoc, dropSpace_append hspace]
      rfl
  | @next space text rest member members hspace hmember hrest ih =>
      cases heffects with
      | @cons _ effect _ effects heffect heffects =>
          obtain ⟨steps, rfl⟩ := Nat.exists_eq_succ_of_ne_zero (Nat.ne_zero_of_lt hsteps)
          have htext : dropSpace (space ++ ',' :: (text ++ rest) ++ after) =
              ',' :: (text ++ (rest ++ after)) := by
            rw [List.append_assoc, dropSpace_append hspace, List.cons_append,
              dropSpace_cons rfl, List.append_assoc]
          have hlater := fun next => ih heffects (Nat.lt_of_succ_lt_succ hsteps) next
          rw [objectMembers, htext, readAll_cons]
          simp only [Char.reduceEq, if_false, if_true, Bool.false_eq_true]
          rw [objectMembers_member hmember heffect _ steps draft (hrest.boundary after)]
          cases shape.step draft effect with
          | error error => rfl
          | ok next => exact hlater next

theorem objectMembers_object {members : List (String × List Char)} {text : List Char}
    (h : ObjectText members ('\x7b' :: text)) {effects : List (String × Except Error (δ → δ))}
    (heffects : List.Forall₂ shape.Effect members effects) (draft : δ) (after : List Char) :
    shape.objectMembers ((text ++ after).length + 1) true draft (text ++ after) =
      (shape.readAll draft effects).map (·, after) := by
  cases h with
  | @empty space hspace =>
      cases heffects
      rw [objectMembers, List.append_assoc, dropSpace_append hspace]
      rfl
  | @members text rest member members hmember hrest =>
      -- No comma stands before the first member, so it is read apart from the rest.
      cases heffects with
      | @cons _ effect _ effects heffect heffects =>
          have hsteps : members.length < (text ++ rest ++ after).length := by
            have hlength := hrest.length_lt
            simp only [List.length_append]
            omega
          obtain ⟨tail, -, -, hdrop, -, -, -⟩ := hmember.key (rest ++ after)
          have hmember := objectMembers_member hmember heffect (fun _ => .keyNotString)
            (text ++ rest ++ after).length draft (hrest.boundary after)
          rw [hdrop] at hmember
          rw [objectMembers, List.append_assoc, hdrop, readAll_cons]
          rw [List.append_assoc] at hmember hsteps
          simp only [Char.reduceEq, if_false, if_true]
          rw [hmember]
          cases shape.step draft effect with
          | error error => rfl
          | ok next => exact objectMembers_rest hrest heffects hsteps next after

/-- A record is read from an object by reading the members into a blank draft. -/
theorem reader_object {members : List (String × List Char)} {text : List Char}
    (h : ObjectText members text) {effects : List (String × Except Error (δ → δ))}
    (heffects : List.Forall₂ shape.Effect members effects) :
    Reads shape.reader text (shape.readAll shape.blank effects >>= shape.finish) := by
  intro space after hspace hafter
  obtain ⟨text, rfl⟩ : ∃ tail, text = '\x7b' :: tail := by
    cases h with
    | empty => exact ⟨_, rfl⟩
    | members => exact ⟨_, rfl⟩
  rw [reader, dropSpace_append hspace, List.cons_append, dropSpace_cons rfl]
  simp only [if_true, objectMembers_object h heffects]
  cases shape.readAll shape.blank effects with
  | error error => rfl
  | ok draft =>
      change (do return (← shape.finish draft, after)) = (shape.finish draft).map (·, after)
      cases shape.finish draft <;> rfl

end Shape

end SlotServer.JsonText
