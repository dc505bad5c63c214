import SlotServer.Dispatch

/-!
# Execution is local

Executing a command acts on the machine, feeds the local sink and logs what went wrong. It never
writes to a connection, and after the announcement of its command it announces no other one.
-/

namespace SlotServer

/-- Whether an action belongs to the execution of a command that has begun. -/
def Action.isLocal : Action → Bool
  | began _ | output _ | replied _ => false
  | logged event => event.entry.target == Log.dispatchTarget
  | opened _ | created _ | wrote _ | flushed | ran _ | retrieved _ => true

namespace Dispatch

variable {σ : Type} (host : Capabilities σ)

theorem retrieve_local (path : String) (state : σ) :
    ∀ action ∈ (retrieve host path state).trace, action.isLocal := by
  intro action ha
  rcases List.mem_cons.mp ha with rfl | ha
  · rfl
  · cases ho : (host.openFile path state).1 with
    | error fault =>
        simp only [ho, List.mem_singleton] at ha
        subst ha
        rfl
    | ok script =>
        simp only [ho, List.mem_append, List.mem_map, Option.mem_toList, Option.map_eq_some_iff] at ha
        rcases ha with ⟨chunk, -, rfl⟩ | ⟨fault, -, rfl⟩ <;> rfl

theorem fill_local (path : String) (script : WriteScript) (body : Bytes) (state : σ) :
    ∀ action ∈ (fill host path script body state).trace, action.isLocal := by
  intro action ha
  cases hf : (Transfer.writeAll script body).fault with
  | some fault =>
      simp only [fill, hf, List.mem_map] at ha
      obtain ⟨bytes, -, rfl⟩ := ha
      rfl
  | none =>
      simp only [fill, hf, List.mem_append, List.mem_map, List.mem_singleton] at ha
      rcases ha with ⟨bytes, -, rfl⟩ | rfl <;> rfl

theorem store_local (argument : String) (state : σ) :
    ∀ action ∈ (store host argument state).trace, action.isLocal := by
  intro action ha
  cases hs : splitBody? argument with
  | none =>
      simp only [store, hs, List.mem_singleton] at ha
      subst ha
      rfl
  | some parts =>
      obtain ⟨path, body⟩ := parts
      cases hc : (host.createFile path state).1 with
      | error fault =>
          simp only [store, hs, hc, List.mem_cons, List.not_mem_nil, or_false] at ha
          rcases ha with rfl | rfl <;> rfl
      | ok script =>
          simp only [store, hs, hc, List.mem_append, List.mem_cons, Option.mem_toList,
            Option.map_eq_some_iff] at ha
          rcases ha with (rfl | ha) | ⟨fault, -, rfl⟩
          · rfl
          · exact fill_local host path script _ _ action ha
          · rfl

theorem run_local (commandLine : String) (state : σ) :
    ∀ action ∈ (run host commandLine state).trace, action.isLocal := by
  intro action ha
  cases hr : (host.run commandLine state).1 with
  | error fault =>
      simp only [run, hr, List.mem_cons, List.not_mem_nil, or_false] at ha
      rcases ha with rfl | rfl <;> rfl
  | ok lines =>
      simp only [run, hr, List.mem_singleton] at ha
      subst ha
      rfl

theorem execute_local (command : Command) (state : σ) :
    ∀ action ∈ (execute host command state).trace, action.isLocal := by
  cases hk : command.kind with
  | retrieve => simpa only [execute, hk] using retrieve_local host command.argument state
  | store => simpa only [execute, hk] using store_local host command.argument state
  | run => simpa only [execute, hk] using run_local host command.argument state
  | unknown => simp [execute, hk, Action.isLocal, Log.Event.entry]

/-- Only run commands have an output. -/
theorem execute_value_isSome (command : Command) (state : σ) :
    (execute host command state).value.isSome ↔ command.kind = .run := by
  cases hk : command.kind <;> simp [execute, hk]

end Dispatch

variable {σ : Type} (host : Capabilities σ)

theorem dispatch_value_isSome (command : Command) (state : σ) :
    (dispatch host command state).value.isSome ↔ command.kind = .run :=
  Dispatch.execute_value_isSome host command state

/-- An execution begins its command once and then keeps to the machine. -/
theorem dispatch_begun (command : Command) (state : σ) :
    ∃ rest, (dispatch host command state).trace = .began command :: rest ∧
      ∀ action ∈ rest, action.isLocal := by
  refine ⟨_, rfl, ?_⟩
  intro action ha
  rcases List.mem_cons.mp ha with rfl | ha
  · rfl
  · exact Dispatch.execute_local host command state action ha

end SlotServer
