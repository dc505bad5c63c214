import Mathlib.Data.List.Forall2
import SlotServer.Log.Telemetry

/-!
# Telemetry is installed once

Nothing but the first valid filter decides about the log of a process. Calls before it are rejected
and leave no trace; calls after it succeed with the format of the first one, whatever they ask for.
Where somebody else listens already, no call ever succeeds. Which filters are valid plays no part,
so it is left open throughout.
-/

namespace SlotServer.Log.Telemetry

variable (read : FilterReader)

/-! ## One call -/

/-- The rules of one call: what it finds, and what comes of it. -/
inductive Initialises (settings : LogSettings) : Telemetry → Initialised → Prop where
  /-- Once the cell is filled, everything stays, and the settings are not looked at. -/
  | kept {format subscriber} :
      Initialises settings ⟨some format, subscriber⟩ ⟨⟨some format, subscriber⟩, .ok format, []⟩
  /-- A filter that cannot be read is rejected by its text, and everything stays as it was. -/
  | rejected {before error} (hcell : before.format = none)
      (h : read settings.filter = .error error) :
      Initialises settings before ⟨before, .error (.filter settings.filter error), []⟩
  | taken {filter subscriber} (h : read settings.filter = .ok filter) :
      Initialises settings ⟨none, some subscriber⟩ ⟨⟨none, some subscriber⟩, .error .install, []⟩
  | installs {filter} (h : read settings.filter = .ok filter) :
      Initialises settings vacant
        ⟨installed filter settings.format, .ok settings.format, [.telemetryInstalled settings]⟩

theorem initialise_initialises (settings : LogSettings) (telemetry : Telemetry) :
    Initialises read settings telemetry (telemetry.initialise settings read) := by
  obtain ⟨format, subscriber⟩ := telemetry
  cases format with
  | some format => exact .kept
  | none =>
      cases h : read settings.filter with
      | error error => simpa [initialise, install, h] using Initialises.rejected rfl h
      | ok filter =>
          cases subscriber with
          | some other => simpa [initialise, install, h] using Initialises.taken h
          | none => simpa [initialise, install, h] using Initialises.installs h

/-! ## Call after call -/

/-- What each of several calls comes to, one after another. -/
def initialiseEach (telemetry : Telemetry) (calls : List LogSettings)
    (read : FilterReader := Filter.parse) : List Initialised :=
  match calls with
  | [] => []
  | settings :: rest =>
    let first := telemetry.initialise settings read
    first :: first.telemetry.initialiseEach rest read

theorem initialiseAll_eq_each (telemetry : Telemetry) (calls : List LogSettings) :
    telemetry.initialiseAll calls read =
      ((((telemetry.initialiseEach calls read).getLast?.map Initialised.telemetry).getD telemetry),
        (telemetry.initialiseEach calls read).map Initialised.result,
        (telemetry.initialiseEach calls read).flatMap Initialised.events) := by
  induction calls generalizing telemetry with
  | nil => rfl
  | cons settings rest ih =>
      simp only [initialiseAll, initialiseEach, ih, List.getLast?_cons, List.map_cons,
        List.flatMap_cons]
      cases ((telemetry.initialise settings read).telemetry.initialiseEach rest read).getLast? <;>
        rfl

/-- A call that is rejected for its filter, names it, and leaves everything as it was. -/
def Rejected (telemetry : Telemetry) (settings : LogSettings) (call : Initialised) : Prop :=
  ∃ error, read settings.filter = .error error ∧
    call = ⟨telemetry, .error (.filter settings.filter error), []⟩

/-- A call where somebody else listens already: it is rejected for its filter, or else because the
place is taken. -/
def Refused (settings : LogSettings) (call : Initialised) : Prop :=
  Rejected read foreign settings call ∨
    (∃ filter, read settings.filter = .ok filter) ∧ call = ⟨foreign, .error .install, []⟩

/-- What becomes of several calls where nobody listens at first: all are rejected; or those before
the first one with a valid filter are, this one installs the subscriber that it describes, and those
after it succeed with the format of this one, whatever their own settings are. -/
inductive FirstWins : List LogSettings → List Initialised → Prop where
  | never {calls each} (h : List.Forall₂ (Rejected read vacant) calls each) :
      FirstWins calls each
  | once {early rejected first filter later}
      (h : List.Forall₂ (Rejected read vacant) early rejected)
      (hfirst : read first.filter = .ok filter) :
      FirstWins (early ++ first :: later)
        (rejected ++
          ⟨installed filter first.format, .ok first.format, [.telemetryInstalled first]⟩ ::
          later.map fun _ => ⟨installed filter first.format, .ok first.format, []⟩)

variable {read}

theorem initialiseEach_installed (filter : Filter) (format : LogFormat)
    (calls : List LogSettings) :
    (installed filter format).initialiseEach calls read =
      calls.map fun _ => ⟨installed filter format, .ok format, []⟩ := by
  induction calls with
  | nil => rfl
  | cons settings rest ih => exact congrArg (_ :: ·) ih

/-- A rejected call in front changes nothing for the calls after it. -/
theorem FirstWins.cons {settings : LogSettings} {call : Initialised} {calls : List LogSettings}
    {each : List Initialised} (hcall : Rejected read vacant settings call)
    (h : FirstWins read calls each) : FirstWins read (settings :: calls) (call :: each) := by
  cases h with
  | never h => exact .never (.cons hcall h)
  | once h hfirst => exact .once (.cons hcall h) hfirst

theorem initialiseEach_vacant (calls : List LogSettings) :
    FirstWins read calls (vacant.initialiseEach calls read) := by
  -- The first valid filter ends the induction: from there on the calls find a subscriber.
  induction calls with
  | nil => exact .never .nil
  | cons settings rest ih =>
      have hcall := initialise_initialises read settings vacant
      rw [initialiseEach]
      generalize vacant.initialise settings read = call at hcall ⊢
      cases hcall with
      | rejected _ h => exact .cons ⟨_, h, rfl⟩ ih
      | installs h =>
          rw [initialiseEach_installed]
          exact .once .nil h

theorem initialiseEach_foreign (calls : List LogSettings) :
    List.Forall₂ (Refused read) calls (foreign.initialiseEach calls read) := by
  induction calls with
  | nil => exact .nil
  | cons settings rest ih =>
      have hcall := initialise_initialises read settings foreign
      rw [initialiseEach]
      generalize foreign.initialise settings read = call at hcall ⊢
      cases hcall with
      | rejected _ h => exact .cons (.inl ⟨_, h, rfl⟩) ih
      | taken h => exact .cons (.inr ⟨⟨_, h⟩, rfl⟩) ih

theorem Rejected.events_eq {telemetry : Telemetry} {calls : List LogSettings}
    {each : List Initialised} (h : List.Forall₂ (Rejected read telemetry) calls each) :
    each.flatMap Initialised.events = [] := by
  induction h with
  | nil => rfl
  | cons hcall _ ih =>
      obtain ⟨error, -, rfl⟩ := hcall
      exact ih

/-- Installing is announced at most once, by the call that does it. -/
theorem FirstWins.events_length_le {calls : List LogSettings} {each : List Initialised}
    (h : FirstWins read calls each) : (each.flatMap Initialised.events).length ≤ 1 := by
  cases h with
  | never h => simp [Rejected.events_eq h]
  | once h hfirst => simp [Rejected.events_eq h]

variable (read)

/-- What is true of several calls: the first valid filter decides where the place is free, and no
call succeeds where it is taken. -/
structure Once (calls : List LogSettings) : Prop where
  firstWins : FirstWins read calls (vacant.initialiseEach calls read)
  announced : (vacant.initialiseAll calls read).2.2.length ≤ 1
  refused : List.Forall₂ (Refused read) calls (foreign.initialiseEach calls read)
  /-- The calls as a whole come to what each of them comes to. -/
  whole : ∀ telemetry : Telemetry, telemetry.initialiseAll calls read =
    ((((telemetry.initialiseEach calls read).getLast?.map Initialised.telemetry).getD telemetry),
      (telemetry.initialiseEach calls read).map Initialised.result,
      (telemetry.initialiseEach calls read).flatMap Initialised.events)

/-- Whatever filters and formats are asked for and whichever filters are valid, telemetry is
installed once. -/
theorem initialiseAll_once (calls : List LogSettings) : Once read calls where
  firstWins := initialiseEach_vacant calls
  announced := by
    rw [initialiseAll_eq_each]
    exact (initialiseEach_vacant calls).events_length_le
  refused := initialiseEach_foreign calls
  whole telemetry := initialiseAll_eq_each read telemetry calls

/-- A filter without a valid level does not keep a later one from being installed, and is not even
looked at after that. -/
example : (vacant.initialiseAll [⟨"cmdslotd=verbose", .json⟩, ⟨"off", .compact⟩,
      ⟨"cmdslotd=verbose", .json⟩]).2 =
    ([.error (.filter "cmdslotd=verbose" .invalidLevel), .ok .compact, .ok .compact],
      [.telemetryInstalled ⟨"off", .compact⟩]) := by
  decide +kernel

end SlotServer.Log.Telemetry
