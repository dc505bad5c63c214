import SlotServer.Capability.Scripted
import SlotServer.Proofs.Command.Writing
import SlotServer.Proofs.Dispatch.Confinement
import SlotServer.Proofs.Transfer.Accepting

/-!
# Storing a body

A store command creates its path, writes the body behind the first blank of its argument and flushes
once. Each stage is reached only if the one before it succeeded, and the first failure is logged.
Whatever fails, what was accepted is a prefix of the body, and no body is taken for another: the cap
on arguments cuts the body, or leaves no body at all where the path alone exceeds it.
-/

namespace SlotServer

open Transfer

/-- The paths that a trace creates. -/
def Trace.created (trace : Trace) : List String :=
  trace.filterMap fun
    | .created path => some path
    | _ => none

/-- What the write calls on created files accepted. -/
def Trace.written (trace : Trace) : List Bytes :=
  trace.filterMap fun
    | .wrote bytes => some bytes
    | _ => none

theorem Trace.written_append (first rest : Trace) :
    written (first ++ rest) = first.written ++ rest.written :=
  List.filterMap_append

theorem Trace.written_map_wrote (accepted : List Bytes) :
    Trace.written (accepted.map Action.wrote) = accepted := by
  induction accepted with
  | nil => rfl
  | cons bytes accepted ih => exact congrArg (bytes :: ·) ih

namespace Dispatch

/-! ## Stages -/

/-- An account of storing a body. -/
structure Attempt where
  /-- What the write calls answered. -/
  answers : List WriteAnswer
  /-- What the flushes answered. -/
  flushes : List (Option Fault)
  /-- Why the storing failed, if it did. -/
  failure : Option Fault
  deriving DecidableEq, Repr

/-- Storing stage by stage. `created` is what creating the path gave: a fault, or how the file
answers writes and flushes. -/
inductive Stages (body : Bytes) : (created : Except Fault WriteScript) → Attempt → Prop where
  | uncreated {fault} : Stages body (.error fault) ⟨[], [], some fault⟩
  | unwritten {script answers fault left}
      (h : Writes script.writes body answers (some fault) left) :
      Stages body (.ok script) ⟨answers, [], some fault⟩
  /-- A flush is not repeated, even if it was interrupted. -/
  | flushed {script answers left} (h : Writes script.writes body answers none left) :
      Stages body (.ok script) ⟨answers, [script.flushes.head?.join], script.flushes.head?.join⟩

/-- What an attempt calls. -/
def Attempt.calls (path : String) (attempt : Attempt) : Trace :=
  .created path :: ((accepted attempt.answers).map .wrote ++
    List.replicate attempt.flushes.length .flushed)

/-- What an attempt does: its calls, and the event of its failure if there is one. -/
def Attempt.trace (path : String) (attempt : Attempt) : Trace :=
  attempt.calls path ++
    (attempt.failure.map fun fault => Action.logged (.storeFailed path fault)).toList

section Stages

variable {body : Bytes} {created : Except Fault WriteScript} {attempt : Attempt}

theorem Stages.unique {other : Attempt} (h : Stages body created attempt)
    (ho : Stages body created other) : other = attempt := by
  cases h with
  | uncreated => cases ho with | uncreated => rfl
  | unwritten h =>
      cases ho with
      | unwritten ho =>
          obtain ⟨rfl, hfault, -⟩ := h.unique ho
          rw [Option.some.inj hfault]
      | flushed ho => cases (h.unique ho).2.1
  | flushed h =>
      cases ho with
      | unwritten ho => cases (h.unique ho).2.1
      | flushed ho => rw [(h.unique ho).1]

theorem Stages.flatten_prefix (h : Stages body created attempt) :
    (accepted attempt.answers).flatten <+: body := by
  cases h with
  | uncreated => simp
  | unwritten h | flushed h => exact h.flatten_prefix

/-- The whole body is accepted exactly if no write call failed, provided that there was anything to
write to. -/
theorem Stages.flatten_eq_iff (h : Stages body created attempt) :
    (accepted attempt.answers).flatten = body ↔
      attempt.answers.any WriteAnswer.isFailure = false ∧ (created.isOk ∨ body = []) := by
  cases h with
  | uncreated => simp [Except.isOk, Except.toBool, eq_comm]
  | unwritten h | flushed h =>
      rw [h.flatten_eq_iff, ← Option.not_isSome_iff_eq_none, h.isSome_iff]
      simp [Except.isOk, Except.toBool]

/-- There is one flush exactly if the whole body was written to a created path. -/
theorem Stages.length_flushes (h : Stages body created attempt) :
    attempt.flushes.length =
      if created.isOk ∧ (accepted attempt.answers).flatten = body then 1 else 0 := by
  cases h with
  | uncreated => rfl
  | unwritten h =>
      have hpart := mt h.flatten_eq_iff.mp (by simp)
      simp [hpart]
  | flushed h =>
      have hwhole := h.flatten_eq_iff.mpr rfl
      simp [hwhole, Except.isOk, Except.toBool]

/-- Storing fails exactly if one of its stages does. -/
theorem Stages.isSome_iff (h : Stages body created attempt) :
    attempt.failure.isSome ↔ created.isOk = false ∨
      attempt.answers.any WriteAnswer.isFailure ∨ attempt.flushes.any Option.isSome := by
  cases h with
  | uncreated => simp [Except.isOk, Except.toBool]
  | unwritten h => simp [← h.isSome_iff]
  | flushed h => simp [← h.isSome_iff, Except.isOk, Except.toBool]

/-- No write call follows one that failed, and none follows a path that could not be created. -/
theorem Stages.eq_nil_of_isFailure (h : Stages body created attempt)
    {before after : List WriteAnswer} {answer : WriteAnswer}
    (hanswers : attempt.answers = before ++ answer :: after)
    (hf : answer.isFailure = true) : after = [] := by
  cases h with
  | uncreated => simp at hanswers
  | unwritten h | flushed h =>
      simp only at hanswers
      rw [hanswers] at h
      exact h.eq_nil_of_isFailure hf

end Stages

/-! ## What is seen of an attempt -/

section Trace

variable (path : String) (attempt : Attempt)

theorem course_trace :
    Course (attempt.calls path) (attempt.failure.map (.storeFailed path)) (attempt.trace path) where
  trace_eq := by simp [Attempt.trace, Function.comp_def]
  calls_only := isSome_of_kind? (kind?_storing path (accepted attempt.answers) _)
  failure_debug := by
    intro event hevent
    obtain ⟨fault, -, rfl⟩ := Option.map_eq_some_iff.mp hevent
    rfl

theorem messages_trace :
    (attempt.trace path).messages = (attempt.failure.map fun _ => "store failed").toList := by
  rw [(course_trace path attempt).messages_eq]
  cases attempt.failure <;> rfl

theorem written_trace : (attempt.trace path).written = accepted attempt.answers := by
  have hcreated : Trace.written [.created path] = [] := rfl
  have hflushes : Trace.written (List.replicate attempt.flushes.length .flushed) = [] := by
    simp [Trace.written]
  have hfailure : Trace.written (attempt.failure.map fun fault =>
      Action.logged (.storeFailed path fault)).toList = [] := by
    cases attempt.failure <;> rfl
  rw [Attempt.trace, Attempt.calls, ← List.singleton_append]
  simp only [Trace.written_append, Trace.written_map_wrote, hcreated, hflushes, hfailure,
    List.nil_append, List.append_nil]

theorem created_trace : (attempt.trace path).created = [path] := by
  cases hfailure : attempt.failure <;>
    simp [Attempt.trace, Attempt.calls, Trace.created, hfailure]

theorem count_flushed_trace : (attempt.trace path).count .flushed = attempt.flushes.length := by
  have hwrites : ((accepted attempt.answers).map Action.wrote).count .flushed = 0 := by
    simp [List.count_eq_zero]
  cases hfailure : attempt.failure <;>
    simp [Attempt.trace, Attempt.calls, hfailure, hwrites]

end Trace

/-! ## Storing follows the stages -/

variable {σ : Type} (host : Capabilities σ)

theorem fault_flush (script : WriteScript) :
    (flush script).fault = script.flushes.head?.join := by
  cases h : script.flushes <;> simp [flush, h]

/-- Filling a created path is what an attempt does after creating it. -/
theorem fill_stages (path : String) (script : WriteScript) (body : Bytes) (state : σ) :
    ∃ attempt, Stages body (.ok script) attempt ∧
      (fill host path script body state).value = attempt.failure ∧
      .created path :: (fill host path script body state).trace = attempt.calls path := by
  obtain ⟨answers, hwrites, haccepted, hflushes⟩ :=
    exists_writes script.flushes script.writes body
  rw [← writeAll] at hwrites haccepted hflushes
  -- The flush is reached only if the writing did not fail, so the outcome of it decides the stage.
  cases hfault : (writeAll script body).fault with
  | some fault =>
      rw [hfault] at hwrites
      refine ⟨_, .unwritten hwrites, ?_, ?_⟩
      · simp only [fill, hfault]
      · simp [fill, hfault, haccepted, Attempt.calls]
  | none =>
      rw [hfault] at hwrites
      refine ⟨_, .flushed hwrites, ?_, ?_⟩
      · simp only [fill, hfault, fault_flush, hflushes]
      · simp [fill, hfault, haccepted, Attempt.calls]

theorem store_stages {argument path body : String} (h : splitBody? argument = some (path, body))
    (state : σ) :
    ∃ attempt, Stages (Utf8.encodeString body) (host.createFile path state).1 attempt ∧
      (store host argument state).trace = attempt.trace path := by
  cases hc : (host.createFile path state).1 with
  | error fault => exact ⟨_, .uncreated, by simp [store, h, hc, Attempt.trace, Attempt.calls]⟩
  | ok script =>
      obtain ⟨attempt, hstages, hvalue, hcalls⟩ := fill_stages host path script
        (Utf8.encodeString body) (host.createFile path state).2
      refine ⟨attempt, hstages, ?_⟩
      simp only [store, h, hc, hvalue, Attempt.trace, ← hcalls]

/-- A store command announces itself and then makes an attempt. -/
theorem dispatch_stages {command : Command} {path body : String} (hkind : command.kind = .store)
    (hsplit : splitBody? command.argument = some (path, body)) (state : σ) :
    ∃ attempt, Stages (Utf8.encodeString body) (host.createFile path state).1 attempt ∧
      (dispatch host command state).trace =
        [.began command,
          .logged (.dispatching .store (Utf8.encodeString command.argument).length)] ++
          attempt.trace path := by
  obtain ⟨attempt, hstages, hstore⟩ := store_stages host hsplit state
  exact ⟨attempt, hstages, by simp [dispatch, execute, hkind, hstore]⟩

/-- What an account of storing a body has to be, given what creating the path gave. -/
structure StorageSpec (path : String) (body : Bytes) (created : Except Fault WriteScript)
    (attempt : Attempt) (trace : Trace) : Prop where
  stages : Stages body created attempt
  only : ∀ other, Stages body created other → other = attempt
  /-- At every point of the trace a prefix of the body was accepted. -/
  flatten_prefix : ∀ part, part <+: trace → (Trace.written part).flatten <+: body
  flatten_eq_iff : trace.written.flatten = body ↔
    (∀ answer ∈ attempt.answers, answer.isFailure = false) ∧ (created.isOk ∨ body = [])
  count_flushed : trace.count .flushed =
    if created.isOk ∧ trace.written.flatten = body then 1 else 0
  messages : trace.messages = "dispatching command" ::
    if created.isOk = false ∨ (∃ answer ∈ attempt.answers, answer.isFailure = true) ∨
        ∃ answer ∈ attempt.flushes, answer.isSome = true
      then ["store failed"] else []
  eq_nil_of_isFailure : ∀ before answer after, attempt.answers = before ++ answer :: after →
    answer.isFailure = true → after = []

/-- What a command announces does not show in what is written. -/
theorem storageSpec_of_stages {path : String} {body : Bytes} {created : Except Fault WriteScript}
    {attempt : Attempt} (h : Stages body created attempt) (command : Command) (n : Nat) :
    StorageSpec path body created attempt
      ([.began command, .logged (.dispatching .store n)] ++ attempt.trace path) := by
  have hwritten : Trace.written
      ([.began command, .logged (.dispatching .store n)] ++ attempt.trace path) =
        accepted attempt.answers := written_trace path attempt
  refine ⟨h, fun other ho => h.unique ho, ?_, ?_, ?_, ?_, ?_⟩
  · rintro part ⟨rest, hpart⟩
    rw [← hpart, Trace.written_append] at hwritten
    refine List.IsPrefix.trans ⟨(Trace.written rest).flatten, ?_⟩ h.flatten_prefix
    rw [← hwritten, List.flatten_append]
  · rw [hwritten, h.flatten_eq_iff, List.any_eq_false]
    simp
  · rw [hwritten, ← h.length_flushes, ← count_flushed_trace path attempt]
    rfl
  · have hmessages : Trace.messages
        ([.began command, .logged (.dispatching .store n)] ++ attempt.trace path) =
          "dispatching command" :: (attempt.failure.map fun _ => "store failed").toList := by
      rw [Trace.messages_append, messages_trace]
      rfl
    have hfailure := h.isSome_iff
    simp only [List.any_eq_true] at hfailure
    rw [hmessages]
    cases hf : attempt.failure with
    | none =>
        rw [hf] at hfailure
        rw [if_neg (mt hfailure.mpr Bool.false_ne_true)]
        rfl
    | some fault =>
        rw [hf] at hfailure
        rw [if_pos (hfailure.mp rfl)]
        rfl
  · intro before answer after hanswers hf
    exact h.eq_nil_of_isFailure hanswers hf

/-! ## Bodies that are written in parts -/

/-- Whatever becomes of creating the path, of the write calls and of the flush: what is accepted is
a prefix of the body, and the whole body only if no write call failed; one flush follows a body that
was written, nothing follows a failure, and one event tells of it. -/
theorem dispatch_store_accounted (command : Command) (state : σ) {path body : String} {blank : Char}
    (hkind : command.kind = .store)
    (hargument : command.argument.toList = path.toList ++ blank :: body.toList)
    (hblank : Text.isBlank blank) (hsolid : ∀ c ∈ path.toList, Text.isBlank c = false) :
    (dispatch host command state).value = none ∧
      ∃ attempt,
        StorageSpec path (Utf8.encodeString body) (host.createFile path state).1 attempt
          (dispatch host command state).trace ∧
        (dispatch host command state).trace =
          [.began command,
            .logged (.dispatching .store (Utf8.encodeString command.argument).length)] ++
            attempt.trace path := by
  obtain ⟨attempt, hstages, htrace⟩ :=
    dispatch_stages host hkind (splitBody?_eq_some hargument hblank hsolid) state
  refine ⟨by simp [dispatch, execute, hkind], attempt, ?_, htrace⟩
  rw [htrace]
  exact storageSpec_of_stages hstages command _

/-- Two bytes are accepted, one call is interrupted, and the next one fails: no flush is attempted,
and what was accepted stays accepted. -/
theorem dispatch_store_accounted_broken :
    let script : WriteScript :=
      { writes := [.atMost 2, .fault (.bare .interrupted), .fault (.bare .brokenPipe), .all] }
    let host : Capabilities Unit := Script.capabilities ⟨[("f", { writes := script })], .echo⟩
    let command := Command.parse [0x50, 0x55, 0x54, 0x20, 0x66, 0x20, 0x61, 0x62, 0x63]
    let attempt : Attempt :=
      { answers := [.accepted [0x61, 0x62], .failed (.bare .interrupted),
          .failed (.bare .brokenPipe)]
        flushes := []
        failure := some (.bare .brokenPipe) }
    command.kind = .store ∧ command.argument.toList = "f".toList ++ ' ' :: "abc".toList ∧
      Text.isBlank ' ' ∧ (∀ c ∈ "f".toList, Text.isBlank c = false) ∧
      (dispatch host command ()).value = none ∧
      StorageSpec "f" (Utf8.encodeString "abc") (.ok script) attempt
        (dispatch host command ()).trace ∧
      (dispatch host command ()).trace.written = [[0x61, 0x62]] ∧
      (dispatch host command ()).trace.messages = ["dispatching command", "store failed"] := by
  intro script host command attempt
  have hkind : command.kind = .store := by decide +kernel
  have hargument : command.argument.toList = "f".toList ++ ' ' :: "abc".toList := by
    decide +kernel
  have hblank : Text.isBlank ' ' := by decide
  have hsolid : ∀ c ∈ "f".toList, Text.isBlank c = false := by
    intro c hc
    obtain rfl : c = 'f' := by simpa using hc
    decide
  have hcreated : (host.createFile "f" ()).1 = .ok script := rfl
  have hbody : Utf8.encodeString "abc" = [0x61, 0x62, 0x63] := by decide +kernel
  have hstages : Stages (Utf8.encodeString "abc") (.ok script) attempt := by
    rw [hbody]
    exact .unwritten (.accepted (by decide) rfl (by decide)
      (.repeated (by decide) rfl rfl (.failed (by decide) rfl rfl)))
  obtain ⟨hvalue, found, hspec, htrace⟩ :=
    dispatch_store_accounted host command () hkind hargument hblank hsolid
  rw [hcreated] at hspec
  obtain rfl := hspec.only attempt hstages
  refine ⟨hkind, hargument, hblank, hsolid, hvalue, hspec, ?_, ?_⟩ <;> rw [htrace] <;> rfl

end Dispatch

/-! ## Bodies that are cut -/

/-- The record that stores a body under a path, with one blank between them. -/
def Record.put (path : String) (blank : Char) (body : String) : Bytes :=
  written "PUT" " " (path ++ String.singleton blank ++ body) "\r\n"

namespace Command

variable {path : String} {blank : Char}

/-- The whole of path, blank and body is the argument, up to its cap: blanks and line terminators at
either end of the body belong to it. -/
theorem parse_put (hne : path ≠ "") (hsolid : ∀ c ∈ path.toList, Text.isBlank c = false)
    (blank : Char) (body : String) :
    parse (Record.put path blank body) =
      ofParts CommandKind.store.keyword.toList (path.toList ++ blank :: body.toList) := by
  have hargument : (path ++ String.singleton blank ++ body).toList =
      path.toList ++ blank :: body.toList := by
    simp
  have hhead : ∀ c ∈ (path.toList ++ blank :: body.toList).head?, Text.isBlank c = false := by
    have hpath : path.toList ≠ [] := by simpa using hne
    obtain ⟨first, rest, hfirst⟩ := List.exists_cons_of_ne_nil hpath
    rw [hfirst]
    rintro c ⟨⟩
    exact hsolid first (by rw [hfirst]; exact List.mem_cons_self)
  rw [← hargument] at hhead ⊢
  exact parse_known .store (by decide) _ hhead

theorem kind_put (hne : path ≠ "") (hsolid : ∀ c ∈ path.toList, Text.isBlank c = false)
    (blank : Char) (body : String) : (parse (Record.put path blank body)).kind = .store := by
  rw [parse_put hne hsolid]
  rfl

theorem argument_put (hne : path ≠ "") (hsolid : ∀ c ∈ path.toList, Text.isBlank c = false)
    (blank : Char) (body : String) :
    (parse (Record.put path blank body)).argument.toList =
      (path.toList ++ blank :: body.toList).take 511 := by
  rw [parse_put hne hsolid]
  exact toList_capped 511 _

/-- The cap leaves the path and the blank alone if they fit, and the rest of it is for the body. -/
theorem argument_put_of_le (hne : path ≠ "") (hsolid : ∀ c ∈ path.toList, Text.isBlank c = false)
    (blank : Char) (body : String) (hlength : path.length ≤ 510) :
    (parse (Record.put path blank body)).argument.toList = path.toList ++
      blank :: (String.ofList (body.toList.take (510 - path.length))).toList := by
  have hspace : 511 - path.toList.length = (510 - path.length) + 1 := by
    rw [String.length_toList]
    omega
  have hpath : path.toList.length ≤ 511 := by
    rw [String.length_toList]
    omega
  rw [argument_put hne hsolid, List.take_append, List.take_of_length_le hpath, hspace,
    List.take_succ_cons, String.toList_ofList]

/-- What is left of a body behind a path that fits. -/
theorem splitBody?_put (hne : path ≠ "") (hsolid : ∀ c ∈ path.toList, Text.isBlank c = false)
    (hblank : Text.isBlank blank) (body : String) (hlength : path.length ≤ 510) :
    Dispatch.splitBody? (parse (Record.put path blank body)).argument =
      some (path, String.ofList (body.toList.take (510 - path.length))) :=
  Dispatch.splitBody?_eq_some (argument_put_of_le hne hsolid blank body hlength) hblank hsolid

/-- A path that fills the argument leaves room for no blank. -/
theorem splitBody?_put_of_long (hne : path ≠ "")
    (hsolid : ∀ c ∈ path.toList, Text.isBlank c = false) (blank : Char) (body : String)
    (hlength : 511 ≤ path.length) :
    Dispatch.splitBody? (parse (Record.put path blank body)).argument = none := by
  rcases Dispatch.splitBody?_cases (parse (Record.put path blank body)).argument with
    ⟨-, hsplit⟩ | ⟨front, rest, space, -, hargument, hspace, -⟩
  · exact hsplit
  · rw [argument_put hne hsolid, List.take_append_of_le_length (by rwa [String.length_toList])]
      at hargument
    have hmem : space ∈ path.toList.take 511 := by
      rw [hargument]
      simp
    rw [hsolid space (List.mem_of_mem_take hmem)] at hspace
    cases hspace

end Command

/-- A record that stores a body creates exactly its path, and writes exactly the characters of the
body that the cap on arguments leaves behind the path and the blank, unless creating or writing
fails. A path that leaves no room for the blank creates nothing and writes nothing. -/
theorem dispatch_put_exact {σ : Type} (host : Capabilities σ) (state : σ) {path : String}
    {blank : Char} (body : String) (hne : path ≠ "")
    (hsolid : ∀ c ∈ path.toList, Text.isBlank c = false) (hblank : Text.isBlank blank) :
    let trace := (dispatch host (Command.parse (Record.put path blank body)) state).trace
    let kept := Utf8.encode (body.toList.take (510 - path.length))
    (path.length ≤ 510 → trace.created = [path] ∧
      ∃ attempt, Dispatch.Stages kept (host.createFile path state).1 attempt ∧
        trace.written = accepted attempt.answers ∧
        ((host.createFile path state).1.isOk →
          (∀ answer ∈ attempt.answers, answer.isFailure = false) →
          trace.written.flatten = kept)) ∧
    (511 ≤ path.length → trace.created = [] ∧ trace.written = []) := by
  intro trace kept
  have hkind := Command.kind_put hne hsolid blank body
  refine ⟨fun hlength => ?_, fun hlength => ?_⟩
  · obtain ⟨attempt, hstages, htrace⟩ := Dispatch.dispatch_stages host hkind
      (Command.splitBody?_put hne hsolid hblank body hlength) state
    rw [Utf8.encodeString, String.toList_ofList] at hstages
    have hcreated : trace.created = [path] := by
      simp only [trace, htrace]
      exact Dispatch.created_trace path attempt
    have hwritten : trace.written = accepted attempt.answers := by
      simp only [trace, htrace]
      exact Dispatch.written_trace path attempt
    refine ⟨hcreated, attempt, hstages, hwritten, fun hok hanswers => ?_⟩
    rw [hwritten, hstages.flatten_eq_iff, List.any_eq_false]
    exact ⟨by simpa using hanswers, .inl hok⟩
  · have hsplit := Command.splitBody?_put_of_long hne hsolid blank body hlength
    simp [trace, dispatch, Dispatch.execute, hkind, Dispatch.store, hsplit, Trace.created,
      Trace.written]

/-- Behind a path of 508 characters there is room for two characters of a body, one of them of two
bytes; behind one of 511 there is none. -/
theorem dispatch_put_exact_cut :
    let host : Capabilities Unit := Script.capabilities ⟨[], .echo⟩
    let path := String.ofList (List.replicate 508 'p')
    let long := String.ofList (List.replicate 511 'p')
    let trace := (dispatch host (Command.parse (Record.put path '\t' "é\n!")) ()).trace
    let other := (dispatch host (Command.parse (Record.put long '\t' "é\n!")) ()).trace
    (path ≠ "" ∧ (∀ c ∈ path.toList, Text.isBlank c = false) ∧ Text.isBlank '\t' ∧
      path.length ≤ 510 ∧ trace.created = [path] ∧ trace.written.flatten = [0xC3, 0xA9, 0x0A]) ∧
    long ≠ "" ∧ (∀ c ∈ long.toList, Text.isBlank c = false) ∧ 511 ≤ long.length ∧
      other.created = [] ∧ other.written = [] := by
  intro host path long trace other
  have hsolid : ∀ n, ∀ c ∈ (String.ofList (List.replicate n 'p')).toList,
      Text.isBlank c = false := by
    intro n c hc
    rw [String.toList_ofList] at hc
    rw [List.eq_of_mem_replicate hc]
    rfl
  have hne : ∀ n, String.ofList (List.replicate (n + 1) 'p') ≠ "" := by
    intro n h
    simpa using congrArg String.toList h
  have hlength : ∀ n, (String.ofList (List.replicate n 'p')).length = n := by
    intro n
    simp
  have hblank : Text.isBlank '\t' := by decide
  have hpath : path.length ≤ 510 := Nat.le_trans (Nat.le_of_eq (hlength 508)) (by decide)
  have hlong : 511 ≤ long.length := Nat.le_of_eq (hlength 511).symm
  have hkept : Utf8.encode ("é\n!".toList.take (510 - path.length)) = [0xC3, 0xA9, 0x0A] := by
    have hroom : 510 - path.length = 2 := congrArg (510 - ·) (hlength 508)
    rw [hroom]
    decide +kernel
  obtain ⟨hcreated, attempt, hstages, -, hwhole⟩ :=
    (dispatch_put_exact host () "é\n!" (hne 507) (hsolid 508) hblank).1 hpath
  obtain ⟨hnothing, hunwritten⟩ :=
    (dispatch_put_exact host () "é\n!" (hne 510) (hsolid 511) hblank).2 hlong
  have hfile : (host.createFile path ()).1 = .ok {} := rfl
  have hknown : Dispatch.Stages [0xC3, 0xA9, 0x0A] (.ok {})
      ⟨[.accepted [0xC3, 0xA9, 0x0A]], [none], none⟩ :=
    .flushed (.accepted (by decide) rfl (by decide) .done)
  rw [hkept, hfile] at hstages
  rw [hkept] at hwhole
  obtain rfl := hknown.unique hstages
  refine ⟨⟨hne 507, hsolid 508, hblank, hpath, hcreated, hwhole rfl ?_⟩, hne 510, hsolid 511, hlong,
    hnothing, hunwritten⟩
  simp [WriteAnswer.isFailure]

end SlotServer
