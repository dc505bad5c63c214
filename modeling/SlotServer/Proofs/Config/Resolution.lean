import SlotServer.Proofs.Config.Assignments
import Mathlib.Data.List.TakeWhile
import Mathlib.Tactic.Choose

/-!
# Where the values of settings come from

Arguments that give settings are reduced to what they give, whatever their form and order; the
environment adds what they do not give. So each setting gets the value of the first source that has
one for it, and a configuration is loaded exactly if all of these are values of their settings.
-/

namespace SlotServer.CommandLine

/-! ## Arguments that give settings -/

/-- A setting that is given a value by arguments. -/
structure Given where
  setting : Setting
  value : Bytes
  /-- Whether the value stands in one argument with the flag, after an equals sign. -/
  joined : Bool
  ne_nil : value ≠ []
  head_ne : value.head? ≠ some Progress.hyphen

namespace Given

/-- The arguments, which are one if the setting has no flag or the value is joined to it. -/
def arguments (given : Given) : List Bytes :=
  match given.setting.flag? with
  | none => [given.value]
  | some flag =>
    let flag := Utf8.encodeString ("--" ++ flag)
    if given.joined then [flag ++ Progress.equalsSign :: given.value] else [flag, given.value]

/-- The setting with its bytes. -/
def assignment (given : Given) : Setting × Bytes :=
  (given.setting, given.value)

end Given

namespace Progress

theorem argument_value {progress : Progress} (h : progress.flagsEnded = false) {value : Bytes}
    (hvalue : value.head? ≠ some hyphen) :
    progress.argument value = progress.valueArgument value := by
  match value with
  | [] | [_] => simp [argument, h]
  | a :: b :: rest =>
      have ha : a ≠ hyphen := fun heq => hvalue (heq ▸ rfl)
      simp [argument, h, ha]

theorem encodeString_flag (flag : String) :
    Utf8.encodeString ("--" ++ flag) = hyphen :: hyphen :: Utf8.encodeString flag := by
  have hhyphen : String.utf8EncodeChar '-' = [hyphen] := rfl
  simp [Utf8.encodeString, Utf8.encode, String.toList_append, hhyphen]

/-- The names of flags can be told from what follows an equals sign. -/
theorem flag_bytes {setting : Setting} {flag : String} (h : setting.flag? = some flag) :
    Utf8.encodeString flag ≠ [] ∧ (Utf8.encodeString flag).all (· ≠ equalsSign) = true := by
  cases setting <;> cases h <;> decide

theorem ofFlag?_flag {setting : Setting} {flag : String} (h : setting.flag? = some flag) :
    Item.ofFlag? flag = some (.setting setting) := by
  cases setting <;> cases h <;> decide

theorem argument_hyphens {progress : Progress} (h : progress.flagsEnded = false) {body : Bytes}
    (hbody : body ≠ []) :
    progress.argument (hyphen :: hyphen :: body) =
      progress.longFlag (body.takeWhile (· ≠ equalsSign))
        ((body.drop (body.takeWhile (· ≠ equalsSign)).length).tail?) := by
  simp [argument, h, hbody]

theorem argument_flag {progress : Progress} (h : progress.flagsEnded = false)
    {setting : Setting} {flag : String} (hflag : setting.flag? = some flag) :
    progress.argument (Utf8.encodeString ("--" ++ flag)) =
      progress.settle.map fun next => { next with waiting := some (setting, none) } := by
  obtain ⟨hne, hbytes⟩ := flag_bytes hflag
  have hname : (Utf8.encodeString flag).takeWhile (· ≠ equalsSign) = Utf8.encodeString flag :=
    List.takeWhile_eq_self_iff.mpr (List.all_eq_true.mp hbytes)
  have htext := (Utf8.decodeString?_eq_some_iff _ flag).mpr rfl
  rw [encodeString_flag, argument_hyphens h hne, hname, List.drop_length]
  simp only [longFlag, htext, ofFlag?_flag hflag, List.tail?_nil]
  rfl

theorem argument_joined {progress : Progress} (h : progress.flagsEnded = false)
    {setting : Setting} {flag : String} (hflag : setting.flag? = some flag) (value : Bytes) :
    progress.argument (Utf8.encodeString ("--" ++ flag) ++ equalsSign :: value) =
      progress.settle >>= (·.take setting value) := by
  obtain ⟨hne, hbytes⟩ := flag_bytes hflag
  have hname : (Utf8.encodeString flag ++ equalsSign :: value).takeWhile (· ≠ equalsSign) =
      Utf8.encodeString flag := by
    rw [List.takeWhile_append_of_pos (List.all_eq_true.mp hbytes)]
    simp
  have htext := (Utf8.decodeString?_eq_some_iff _ flag).mpr rfl
  rw [encodeString_flag, List.cons_append, List.cons_append, argument_hyphens h (by simp [hne]),
    hname, List.drop_left]
  simp only [longFlag, htext, ofFlag?_flag hflag, List.tail?_cons]

/-- Progress after arguments that give settings: the next argument is none of a flag's. -/
structure Ready (progress : Progress) : Prop where
  flagsEnded_eq : progress.flagsEnded = false
  waiting_ne : ∀ setting, progress.waiting ≠ some (setting, none)

/-- Whether a setting has been given, looked at or not. -/
def Mentions (progress : Progress) (setting : Setting) : Prop :=
  setting ∈ progress.given ∨ progress.waiting.map Prod.fst = some setting

theorem hasPort_eq_false {progress : Progress} (h : ¬ progress.Mentions .port) :
    progress.hasPort = false := by
  obtain ⟨hgiven, hwaiting⟩ := not_or.mp h
  simp [hasPort, hgiven, hwaiting]

theorem settle_of_waiting_eq_none {progress : Progress} (h : progress.waiting = none) :
    progress.settle = .ok progress := by
  rw [settle, h]

/-- Looking at what waits leaves nothing waiting, and it is given from then on. -/
theorem settle_eq_ok {progress next : Progress} (h : progress.settle = .ok next) :
    next.waiting = none ∧ next.flagsEnded = progress.flagsEnded ∧
      ∀ setting, setting ∈ next.given ↔ progress.Mentions setting := by
  unfold settle at h
  split at h
  · rename_i hwaiting
    obtain rfl := Except.ok.inj h
    simp [Mentions, hwaiting]
  · cases h
  · rename_i waiting value hwaiting
    obtain ⟨-, _, -, rfl⟩ := (take_eq_ok_iff _ _ _ _).mp h
    simp [Mentions, hwaiting, eq_comm]

/-- What the arguments that give a setting do to progress with nothing waiting: unless the value is
joined to a flag, it waits. -/
def enter (progress : Progress) (given : Given) : Except Refusal Progress :=
  if given.joined ∧ given.setting.flag?.isSome then progress.take given.setting given.value
  else .ok { progress with waiting := some (given.setting, some given.value) }

theorem valueArgument_ready {progress : Progress} (h : progress.Ready) (value : Bytes) :
    progress.valueArgument value = progress.plainArgument value := by
  unfold valueArgument
  split
  · rename_i setting hwaiting
    exact absurd hwaiting (h.waiting_ne setting)
  · rfl

theorem foldlM_arguments {progress : Progress} (h : progress.Ready) (given : Given)
    (hport : ¬ progress.Mentions given.setting) :
    given.arguments.foldlM argument progress = progress.settle >>= (·.enter given) := by
  unfold Given.arguments
  cases hflag : given.setting.flag? with
  | none =>
      have hsetting : given.setting = .port := by
        cases hsetting : given.setting <;> simp [hsetting, Setting.flag?] at hflag ⊢
      rw [hsetting] at hport
      simp only [List.foldlM_cons, List.foldlM_nil, bind_pure]
      rw [argument_value h.flagsEnded_eq given.head_ne, valueArgument_ready h, plainArgument,
        hasPort_eq_false hport]
      simp only [Bool.false_eq_true, if_false]
      refine bind_congr fun next => ?_
      rw [enter, hflag, hsetting, if_neg (by simp)]
      rfl
  | some flag =>
      cases hjoined : given.joined with
      | true =>
          simp only [if_true, List.foldlM_cons, List.foldlM_nil, bind_pure]
          rw [argument_joined h.flagsEnded_eq hflag]
          refine bind_congr fun next => ?_
          rw [enter, hflag, hjoined, if_pos (by simp)]
      | false =>
          -- The flag settles what waited before, so only its own value can fail later.
          simp only [Bool.false_eq_true, if_false, List.foldlM_cons, List.foldlM_nil, bind_pure]
          rw [argument_flag h.flagsEnded_eq hflag]
          cases hsettle : progress.settle with
          | error error => rfl
          | ok next =>
              have hnext : next.flagsEnded = false :=
                (settle_eq_ok hsettle).2.1.trans h.flagsEnded_eq
              have henter : next.enter given =
                  .ok { next with waiting := some (given.setting, some given.value) } := by
                rw [enter, hjoined, if_neg (by simp)]
              have hvalue := @argument_value { next with waiting := some (given.setting, none) }
                hnext given.value given.head_ne
              calc
                _ = Progress.argument { next with waiting := some (given.setting, none) }
                      given.value := rfl
                _ = next.enter given := by rw [hvalue, henter]; rfl

/-- What is entered is looked at by the next argument, if not at once. -/
theorem enter_settle {progress : Progress} (h : progress.waiting = none) (given : Given) :
    (progress.enter given >>= fun next => next.settle) =
      progress.take given.setting given.value := by
  have hsame : { progress with waiting := none } = progress := h ▸ rfl
  unfold enter
  split
  · cases hresult : progress.take given.setting given.value with
    | error error => rfl
    | ok next =>
        obtain ⟨-, value, -, rfl⟩ := (take_eq_ok_iff _ _ _ _).mp hresult
        exact settle_of_waiting_eq_none h
  · calc
      _ = { progress with waiting := none }.take given.setting given.value := rfl
      _ = _ := by rw [hsame]

theorem enter_ready {progress next : Progress} (h : progress.waiting = none)
    (hflags : progress.flagsEnded = false) {given : Given}
    (henter : progress.enter given = .ok next) :
    next.Ready ∧ ∀ setting, next.Mentions setting →
      setting ∈ progress.given ∨ setting = given.setting := by
  unfold enter at henter
  split at henter
  · obtain ⟨-, value, -, rfl⟩ := (take_eq_ok_iff _ _ _ _).mp henter
    refine ⟨⟨hflags, fun setting => by simp [h]⟩, fun setting hmentions => ?_⟩
    simpa [Mentions, h] using hmentions
  · obtain rfl := Except.ok.inj henter
    refine ⟨⟨hflags, fun setting => by simp⟩, fun setting hmentions => ?_⟩
    simpa [Mentions, eq_comm] using hmentions

/-- Reading arguments that give settings amounts to giving the settings their values. -/
theorem foldlM_given (all : List Given) {progress : Progress} (h : progress.Ready)
    (hnodup : (all.map Given.setting).Nodup)
    (hfresh : ∀ given ∈ all, ¬ progress.Mentions given.setting) :
    ((all.flatMap Given.arguments).foldlM argument progress >>= fun next => next.settle) =
      progress.settle >>= (·.takeAll (all.map Given.assignment)) := by
  -- A value may still wait when the next argument comes, so both sides speak of settled progress.
  induction all generalizing progress with
  | nil => simp [takeAll]
  | cons given all ih =>
      rw [List.map_cons, List.nodup_cons] at hnodup
      have hgiven : ¬ progress.Mentions given.setting := hfresh given List.mem_cons_self
      rw [List.flatMap_cons, List.foldlM_append, foldlM_arguments h given hgiven, List.map_cons,
        bind_assoc, bind_assoc]
      cases hsettle : progress.settle with
      | error error => rfl
      | ok next =>
          obtain ⟨hwaiting, hflags, hmentions⟩ := settle_eq_ok hsettle
          have hrest : ∀ entered, next.enter given = .ok entered →
              ((all.flatMap Given.arguments).foldlM argument entered >>= fun next => next.settle) =
                entered.settle >>= (·.takeAll (all.map Given.assignment)) := by
            intro entered henter
            obtain ⟨hready, hentered⟩ := enter_ready hwaiting (hflags.trans h.flagsEnded_eq) henter
            refine ih hready hnodup.2 fun other hother hmentioned => ?_
            rcases hentered _ hmentioned with hbefore | hnow
            · exact hfresh other (List.mem_cons_of_mem _ hother) ((hmentions _).mp hbefore)
            · exact hnodup.1 (List.mem_map.mpr ⟨other, hother, hnow⟩)
          calc
            _ = (next.enter given >>= fun entered =>
                  (all.flatMap Given.arguments).foldlM argument entered >>= fun next =>
                    next.settle) := rfl
            _ = (next.enter given >>= fun entered => entered.settle) >>=
                  (·.takeAll (all.map Given.assignment)) := by
              cases henter : next.enter given with
              | error error => rfl
              | ok entered => exact hrest entered henter
            _ = next.take given.setting given.value >>=
                  (·.takeAll (all.map Given.assignment)) := by rw [enter_settle hwaiting]
            _ = next.takeAll (given.assignment :: all.map Given.assignment) :=
              (takeAll_cons next given.assignment _).symm

end Progress

/-! ## Configurations -/

/-- A call of the program that gives settings by its arguments, each at most once. -/
structure Invocation where
  /-- The name that the program is called by. -/
  program : Bytes
  given : List Given
  nodup : (given.map Given.setting).Nodup

namespace Invocation

variable (invocation : Invocation) (environment : Environment)

/-- The arguments, of which the first is the name of the program. -/
def arguments : List Bytes :=
  invocation.program :: invocation.given.flatMap Given.arguments

/-- The bytes that a setting is given by the arguments. -/
def value? (setting : Setting) : Option Bytes :=
  (invocation.given.map Given.assignment).lookup setting

/-- The bytes that count for a setting: those of the command line before those of the environment,
and these before those of the text by default. -/
def source (setting : Setting) : Bytes :=
  ((invocation.value? setting).or (environment.lookup setting.variableName)).getD
    (Utf8.encodeString setting.defaultText)

/-- All that is given, by arguments and by the environment. -/
def assignments : List (Setting × Bytes) :=
  invocation.given.map Given.assignment ++
    Progress.added (invocation.given.map Given.setting) environment Setting.all

theorem map_assignment : (invocation.given.map Given.assignment).map Prod.fst =
    invocation.given.map Given.setting :=
  List.map_map

theorem load_eq_takeAll :
    Config.load invocation.arguments environment =
      (Progress.start.takeAll (invocation.assignments environment)).map Progress.config := by
  have hready : Progress.start.Ready := ⟨rfl, nofun⟩
  have hfresh : ∀ given ∈ invocation.given, ¬ Progress.start.Mentions given.setting :=
    fun _ _ => by simp [Progress.Mentions, Progress.start]
  have hgiven := Progress.foldlM_given invocation.given hready invocation.nodup hfresh
  have hload : Config.load invocation.arguments environment =
      ((invocation.given.flatMap Given.arguments).foldlM Progress.argument Progress.start >>=
        fun next => next.settle) >>= fun next =>
          (next.fromEnvironment environment Setting.all).map Progress.config := by
    rw [bind_assoc]
    rfl
  rw [hload, hgiven, Progress.settle_of_waiting_eq_none rfl, assignments, Progress.takeAll_append]
  cases hresult : Progress.start.takeAll (invocation.given.map Given.assignment) with
  | error error =>
      have herror : (Except.ok Progress.start >>=
          (·.takeAll (invocation.given.map Given.assignment))) = .error error := hresult
      rw [herror]
      rfl
  | ok next =>
      have hnext : next.given = invocation.given.map Given.setting := by
        rw [Progress.takeAll_given _ hresult, invocation.map_assignment]
        rfl
      have hok : (Except.ok Progress.start >>=
          (·.takeAll (invocation.given.map Given.assignment))) = .ok next := hresult
      have hadded := next.fromEnvironment_eq environment Setting.all (by decide)
      rw [hnext] at hadded
      rw [hok]
      exact congrArg (Except.map Progress.config) hadded

theorem lookup_assignments (setting : Setting) :
    (invocation.assignments environment).lookup setting =
      (invocation.value? setting).or (environment.lookup setting.variableName) := by
  have hall : setting ∈ Setting.all := by cases setting <;> decide
  rw [assignments, List.lookup_append, value?]
  cases hvalue : (invocation.given.map Given.assignment).lookup setting with
  | some bytes => rfl
  | none =>
      have hgiven : setting ∉ invocation.given.map Given.setting := by
        intro hmem
        obtain ⟨given, hgiven, rfl⟩ := List.mem_map.mp hmem
        have hne := List.lookup_eq_none_iff.mp hvalue given.assignment (List.mem_map_of_mem hgiven)
        simp [Given.assignment] at hne
      exact Progress.lookup_added (by decide) hgiven hall environment

theorem nodup_assignments : ((invocation.assignments environment).map Prod.fst).Nodup := by
  have hall : Setting.all.Nodup := by decide
  rw [assignments, List.map_append, map_assignment, Progress.map_added]
  refine List.nodup_append.mpr ⟨invocation.nodup, hall.filter _, ?_⟩
  rintro setting hgiven other hother rfl
  simp only [List.mem_filter, decide_eq_true_eq] at hother
  exact hother.2.1 hgiven

/-- Exactly the values that count are loaded. -/
theorem load_eq_ok_iff (config : Config) :
    Config.load invocation.arguments environment = .ok config ↔
      ∀ setting : Setting,
        setting.Names (invocation.source environment setting) (config.value setting) := by
  rw [load_eq_takeAll, Progress.takeAll_config _ _ (invocation.nodup_assignments environment)
    (fun _ _ => List.not_mem_nil)]
  refine forall_congr' fun setting => ?_
  rw [lookup_assignments]
  unfold source
  cases (invocation.value? setting).or (environment.lookup setting.variableName) with
  | some bytes => rfl
  | none =>
      have hdefault := setting.denotes_defaultText
      simp only [Option.getD_none, Setting.names_encodeString_iff]
      exact ⟨fun h => h ▸ hdefault, hdefault.unique⟩

theorem exists_load_iff :
    (∃ config, Config.load invocation.arguments environment = .ok config) ↔
      ∀ setting : Setting,
        ∃ value, setting.Names (invocation.source environment setting) value := by
  simp only [load_eq_ok_iff]
  constructor
  · rintro ⟨config, hconfig⟩ setting
    exact ⟨config.value setting, hconfig setting⟩
  · intro h
    choose values hvalues using h
    exact ⟨Config.ofValues values, fun setting => by simpa using hvalues setting⟩

/-- Two calls for which the same bytes count load the same. -/
theorem toOption_load_congr {invocation other : Invocation} {environment elsewhere : Environment}
    (h : ∀ setting, invocation.source environment setting = other.source elsewhere setting) :
    (Config.load invocation.arguments environment).toOption =
      (Config.load other.arguments elsewhere).toOption := by
  have htoOption : ∀ (result : Except Refusal Config) config,
      result.toOption = some config ↔ result = .ok config := by
    intro result config
    cases result <;> simp [Except.toOption]
  refine Option.ext fun config => ?_
  simp only [htoOption, load_eq_ok_iff, h]

theorem source_perm {invocation other : Invocation}
    (h : (invocation.given.map Given.assignment).Perm (other.given.map Given.assignment))
    (environment : Environment) (setting : Setting) :
    invocation.source environment setting = other.source environment setting := by
  have hvalue : invocation.value? setting = other.value? setting := by
    refine Option.ext fun bytes => ?_
    have hnodup := invocation.nodup
    have hother := other.nodup
    rw [← map_assignment] at hnodup hother
    rw [value?, value?, lookup_eq_some_iff_mem hnodup, lookup_eq_some_iff_mem hother, h.mem_iff]
  rw [source, source, hvalue]

/-- What a call of the program makes of its arguments and of the environment. -/
structure Resolves : Prop where
  /-- Every setting of a configuration that is loaded has the value that counts for it. -/
  ok_iff : ∀ config, Config.load invocation.arguments environment = .ok config ↔
    ∀ setting : Setting,
      setting.Names (invocation.source environment setting) (config.value setting)
  /-- One is loaded if these are values of their settings. -/
  exists_iff : (∃ config, Config.load invocation.arguments environment = .ok config) ↔
    ∀ setting : Setting, ∃ value, setting.Names (invocation.source environment setting) value
  /-- It does not matter which sources the bytes that count come from. -/
  congr : ∀ (other : Invocation) (elsewhere : Environment),
    (∀ setting, invocation.source environment setting = other.source elsewhere setting) →
      (Config.load invocation.arguments environment).toOption =
        (Config.load other.arguments elsewhere).toOption
  /-- The order and the form of the arguments do not matter. -/
  perm : ∀ other : Invocation,
    (invocation.given.map Given.assignment).Perm (other.given.map Given.assignment) →
      (Config.load invocation.arguments environment).toOption =
        (Config.load other.arguments environment).toOption

/-- The command line counts before the environment, and this before the values by default. -/
theorem load_resolves : invocation.Resolves environment where
  ok_iff := invocation.load_eq_ok_iff environment
  exists_iff := invocation.exists_load_iff environment
  congr _ _ h := toOption_load_congr h
  perm _ h := toOption_load_congr fun setting => source_perm h environment setting

end Invocation

end SlotServer.CommandLine
