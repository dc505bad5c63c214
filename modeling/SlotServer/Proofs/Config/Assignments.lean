import SlotServer.Config.CommandLine
import SlotServer.Proofs.Config.Values
import SlotServer.Proofs.Text.Utf8

/-!
# Giving settings their values

Arguments and environment come down to a list of settings, each with the bytes of its value. What
such a list makes of a configuration is said here setting by setting, so its order does not matter.
-/

namespace SlotServer

/-- Where no key occurs twice, an entry is found under its key. -/
theorem lookup_eq_some_iff_mem {α β : Type} [BEq α] [LawfulBEq α] {entries : List (α × β)}
    (h : (entries.map Prod.fst).Nodup) (a : α) (b : β) :
    entries.lookup a = some b ↔ (a, b) ∈ entries := by
  induction entries with
  | nil => simp
  | cons entry entries ih =>
      rw [List.map_cons, List.nodup_cons] at h
      have hrest := ih h.2
      obtain ⟨first, value⟩ := entry
      by_cases ha : a = first
      · subst ha
        have hnotMem : (a, b) ∉ entries := fun hmem =>
          h.1 (List.mem_map.mpr ⟨_, hmem, rfl⟩)
        simp [hnotMem, eq_comm]
      · rw [List.lookup_cons, beq_eq_false_iff_ne.mpr ha]
        simp [hrest, ha]

/-- Which bytes are the name of a value of a setting: those of a text that stands for it. -/
def Setting.Names (setting : Setting) (bytes : Bytes) (value : setting.Value) : Prop :=
  ∃ text, Utf8.encodeString text = bytes ∧ setting.Denotes text value

theorem Setting.names_encodeString_iff {setting : Setting} {text : String}
    {value : setting.Value} :
    setting.Names (Utf8.encodeString text) value ↔ setting.Denotes text value := by
  constructor
  · rintro ⟨other, hother, hdenotes⟩
    have hsome := (Utf8.decodeString?_eq_some_iff _ other).mpr hother
    rw [(Utf8.decodeString?_eq_some_iff _ text).mpr rfl] at hsome
    rwa [Option.some.inj hsome]
  · exact fun h => ⟨text, rfl, h⟩

theorem Setting.Names.unique {setting : Setting} {bytes : Bytes} {value other : setting.Value}
    (h : setting.Names bytes value) (hother : setting.Names bytes other) : value = other := by
  obtain ⟨text, rfl, hdenotes⟩ := h
  exact hdenotes.unique (names_encodeString_iff.mp hother)

namespace CommandLine

/-! ## Giving several settings their values -/

namespace Progress

theorem take_eq_ok_iff (progress : Progress) (setting : Setting) (bytes : Bytes)
    (next : Progress) :
    progress.take setting bytes = .ok next ↔
      setting ∉ progress.given ∧ ∃ value, setting.Names bytes value ∧
        { progress with
          config := progress.config.put setting value
          given := progress.given ++ [setting] } = next := by
  unfold take
  by_cases hgiven : setting ∈ progress.given
  · simp [hgiven]
  · cases htext : Utf8.decodeString? bytes with
    | none =>
        have hnone : ∀ value, ¬ setting.Names bytes value := by
          rintro value ⟨text, hencode, -⟩
          rw [(Utf8.decodeString?_eq_some_iff _ _).mpr hencode] at htext
          cases htext
        simp [hgiven, hnone]
    | some text =>
        obtain rfl := (Utf8.decodeString?_eq_some_iff _ _).mp htext
        have hset := progress.config.set_eq_ok_iff setting text
        simp only [List.contains_eq_mem, hgiven, decide_false, Bool.false_eq_true, if_false,
          not_false_eq_true, true_and, Setting.names_encodeString_iff]
        cases hresult : progress.config.set setting text with
        | error error =>
            simp only [reduceCtorEq, false_iff]
            rintro ⟨value, hvalue, -⟩
            have hok := (hset _).mpr ⟨value, hvalue, rfl⟩
            rw [hresult] at hok
            cases hok
        | ok config =>
            obtain ⟨value, hvalue, rfl⟩ := (hset config).mp hresult
            simp only [Except.ok.injEq]
            constructor
            · exact fun h => ⟨value, hvalue, h⟩
            · rintro ⟨other, hother, hnext⟩
              rwa [hvalue.unique hother]

/-- Gives settings their values, one after another. -/
def takeAll (progress : Progress) (assignments : List (Setting × Bytes)) :
    Except Refusal Progress :=
  assignments.foldlM (fun progress assignment => progress.take assignment.1 assignment.2) progress

theorem takeAll_cons (progress : Progress) (assignment : Setting × Bytes)
    (rest : List (Setting × Bytes)) :
    progress.takeAll (assignment :: rest) =
      progress.take assignment.1 assignment.2 >>= (·.takeAll rest) :=
  List.foldlM_cons

theorem takeAll_append (progress : Progress) (first rest : List (Setting × Bytes)) :
    progress.takeAll (first ++ rest) = progress.takeAll first >>= (·.takeAll rest) :=
  List.foldlM_append

/-- The settings that are given have the values that they are given; all others are as before. -/
theorem takeAll_config (assignments : List (Setting × Bytes)) (progress : Progress)
    (hnodup : (assignments.map Prod.fst).Nodup)
    (hfresh : ∀ assignment ∈ assignments, assignment.1 ∉ progress.given) (config : Config) :
    (progress.takeAll assignments).map Progress.config = .ok config ↔
      ∀ setting, match assignments.lookup setting with
        | some bytes => setting.Names bytes (config.value setting)
        | none => progress.config.value setting = config.value setting := by
  -- The first setting is not given again, so its value stays while the others are put.
  induction assignments generalizing progress with
  | nil =>
      have hmap : (progress.takeAll []).map Progress.config = .ok progress.config := rfl
      simp only [hmap, List.lookup_nil, Except.ok.injEq]
      exact ⟨fun h setting => h ▸ rfl, Config.ext_value⟩
  | cons assignment assignments ih =>
      obtain ⟨first, bytes⟩ := assignment
      rw [List.map_cons, List.nodup_cons] at hnodup
      have hfirst : first ∉ progress.given := hfresh _ List.mem_cons_self
      have hlookup : assignments.lookup first = none := by
        refine List.lookup_eq_none_iff.mpr fun assignment hmem => ?_
        have hne : first ≠ assignment.1 := fun h =>
          hnodup.1 (List.mem_map.mpr ⟨assignment, hmem, h.symm⟩)
        simpa using hne
      rw [takeAll_cons]
      cases hresult : progress.take first bytes with
      | error error =>
          refine ⟨nofun, fun h => ?_⟩
          have hvalue := h first
          simp only [List.lookup_cons_self] at hvalue
          have hok := (progress.take_eq_ok_iff first bytes _).mpr ⟨hfirst, _, hvalue, rfl⟩
          rw [hresult] at hok
          cases hok
      | ok next =>
          obtain ⟨-, value, hvalue, rfl⟩ := (progress.take_eq_ok_iff first bytes next).mp hresult
          refine (ih _ hnodup.2 ?_).trans (forall_congr' fun setting => ?_)
          · intro assignment hmem hgiven
            rcases List.mem_append.mp hgiven with hbefore | hnow
            · exact hfresh assignment (List.mem_cons_of_mem _ hmem) hbefore
            · exact hnodup.1 (List.mem_map.mpr ⟨assignment, hmem, List.mem_singleton.mp hnow⟩)
          · by_cases hsetting : setting = first
            · subst hsetting
              simp only [hlookup, List.lookup_cons_self, Config.value_put_self]
              exact ⟨fun h => h ▸ hvalue, hvalue.unique⟩
            · have hskip : List.lookup setting ((first, bytes) :: assignments) =
                  assignments.lookup setting := by
                rw [List.lookup_cons, beq_eq_false_iff_ne.mpr hsetting]
              simp only [hskip, Config.value_put_of_ne _ (Ne.symm hsetting)]

theorem takeAll_given {progress next : Progress} (assignments : List (Setting × Bytes))
    (h : progress.takeAll assignments = .ok next) :
    next.given = progress.given ++ assignments.map Prod.fst := by
  induction assignments generalizing progress with
  | nil =>
      obtain rfl : progress = next := Except.ok.inj h
      simp
  | cons assignment assignments ih =>
      rw [takeAll_cons] at h
      cases hresult : progress.take assignment.1 assignment.2 with
      | error error => rw [hresult] at h; cases h
      | ok between =>
          obtain ⟨-, value, -, rfl⟩ := (progress.take_eq_ok_iff _ _ between).mp hresult
          rw [hresult] at h
          have hgiven := ih h
          simpa using hgiven

/-! ## The environment -/

/-- What the environment gives to those of some settings that are not given. -/
def added (given : List Setting) (environment : Environment) (settings : List Setting) :
    List (Setting × Bytes) :=
  (settings.filter (· ∉ given)).filterMap fun setting =>
    (environment.lookup setting.variableName).map (setting, ·)

theorem map_added (given : List Setting) (environment : Environment) (settings : List Setting) :
    (added given environment settings).map Prod.fst = settings.filter fun setting =>
      setting ∉ given ∧ (environment.lookup setting.variableName).isSome := by
  induction settings with
  | nil => rfl
  | cons setting settings ih =>
      unfold added at *
      by_cases hgiven : setting ∈ given
      · simpa [hgiven] using ih
      · cases hvariable : environment.lookup setting.variableName with
        | none => simpa [hgiven, hvariable] using ih
        | some bytes => simpa [hgiven, hvariable] using ih

theorem nodup_added {settings : List Setting} (h : settings.Nodup) (given : List Setting)
    (environment : Environment) : ((added given environment settings).map Prod.fst).Nodup := by
  rw [map_added]
  exact h.filter _

theorem lookup_added {given : List Setting} {setting : Setting} {settings : List Setting}
    (hnodup : settings.Nodup) (hgiven : setting ∉ given) (hsetting : setting ∈ settings)
    (environment : Environment) :
    (added given environment settings).lookup setting =
      environment.lookup setting.variableName := by
  refine Option.ext fun bytes => ?_
  rw [lookup_eq_some_iff_mem (nodup_added hnodup given environment)]
  simp [added, hgiven, hsetting]

theorem added_append_of_notMem {setting : Setting} {settings : List Setting}
    (h : setting ∉ settings) (given : List Setting) (environment : Environment) :
    added (given ++ [setting]) environment settings = added given environment settings := by
  have hfilter : settings.filter (· ∉ given ++ [setting]) = settings.filter (· ∉ given) := by
    refine List.filter_congr fun other hother => ?_
    have hne : other ≠ setting := fun heq => h (heq ▸ hother)
    simp [hne]
  rw [added, hfilter, added]

theorem fromEnvironment_eq (progress : Progress) (environment : Environment)
    (settings : List Setting) (h : settings.Nodup) :
    progress.fromEnvironment environment settings =
      progress.takeAll (added progress.given environment settings) := by
  induction settings generalizing progress with
  | nil => rfl
  | cons setting settings ih =>
      rw [List.nodup_cons] at h
      rw [fromEnvironment]
      by_cases hgiven : setting ∈ progress.given
      · have hadded : added progress.given environment (setting :: settings) =
            added progress.given environment settings := by simp [added, hgiven]
        simp only [hadded, List.contains_eq_mem, hgiven, decide_true, if_true]
        exact ih progress h.2
      · simp only [List.contains_eq_mem, hgiven, decide_false, Bool.false_eq_true, if_false]
        cases hvariable : environment.lookup setting.variableName with
        | none =>
            have hadded : added progress.given environment (setting :: settings) =
                added progress.given environment settings := by simp [added, hgiven, hvariable]
            rw [hadded]
            exact ih progress h.2
        | some bytes =>
            have hadded : added progress.given environment (setting :: settings) =
                (setting, bytes) :: added progress.given environment settings := by
              simp [added, hgiven, hvariable]
            rw [hadded, takeAll_cons]
            cases hresult : progress.take setting bytes with
            | error error =>
                simp only [hresult]
                rfl
            | ok next =>
                simp only [hresult]
                obtain ⟨-, value, -, rfl⟩ := (progress.take_eq_ok_iff _ _ next).mp hresult
                have hrest := ih { progress with
                  config := progress.config.put setting value
                  given := progress.given ++ [setting] } h.2
                rw [added_append_of_notMem h.1] at hrest
                exact hrest

end Progress

end CommandLine

end SlotServer
