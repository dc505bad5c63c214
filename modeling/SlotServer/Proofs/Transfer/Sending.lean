import SlotServer.Proofs.Transfer.Accepting

/-!
# Sending

What a stream accepts of a message is a prefix of it, and all of it unless a write call failed. What
becomes of messages that are sent one by one depends on nothing but the messages and the answers of
the stream.
-/

namespace SlotServer.Transfer

/-! ## One message -/

theorem writeSteps_prefix (flushes : List (Option Fault)) (steps : List WriteStep)
    (bytes : Bytes) : (writeSteps flushes steps bytes).accepted.flatten <+: bytes := by
  obtain ⟨answers, hwrites, haccepted, -⟩ := exists_writes flushes steps bytes
  rw [haccepted]
  exact hwrites.flatten_prefix

/-- Writing fails unless every byte is accepted. -/
theorem writeSteps_flatten {flushes : List (Option Fault)} {steps : List WriteStep} {bytes : Bytes}
    (h : (writeSteps flushes steps bytes).fault = none) :
    (writeSteps flushes steps bytes).accepted.flatten = bytes := by
  obtain ⟨answers, hwrites, haccepted, -⟩ := exists_writes flushes steps bytes
  rw [haccepted]
  exact hwrites.flatten_eq_iff.mpr h

theorem send_accepted (script : WriteScript) (bytes : Bytes) :
    (send script bytes).accepted = (writeAll script bytes).accepted := by
  cases h : (writeAll script bytes).fault <;> simp [send, h]

theorem send_prefix (script : WriteScript) (bytes : Bytes) :
    (send script bytes).accepted.flatten <+: bytes := by
  rw [send_accepted]
  exact writeSteps_prefix script.flushes script.writes bytes

/-- A message whose writing succeeds is accepted as a whole, even if the flush after it fails. -/
theorem send_flatten_of_writeAll {script : WriteScript} {bytes : Bytes}
    (h : (writeAll script bytes).fault = none) : (send script bytes).accepted.flatten = bytes := by
  rw [send_accepted]
  exact writeSteps_flatten h

theorem send_flatten {script : WriteScript} {bytes : Bytes} (h : (send script bytes).fault = none) :
    (send script bytes).accepted.flatten = bytes := by
  cases hw : (writeAll script bytes).fault with
  | none => exact send_flatten_of_writeAll hw
  | some fault => simp [send, hw] at h

/-! ## Message after message -/

/-- Sends messages one by one: how later calls will be answered, unless a message fails. -/
def sendAll : WriteScript → List Bytes → Option WriteScript
  | script, [] => some script
  | script, bytes :: more =>
    let sent := send script bytes
    match sent.fault with
    | some _ => none
    | none => sendAll sent.left more

theorem sendAll_cons_of_sent {script : WriteScript} {bytes : Bytes}
    (h : (send script bytes).fault = none) (more : List Bytes) :
    sendAll script (bytes :: more) = sendAll (send script bytes).left more := by
  simp [sendAll, h]

theorem sendAll_cons_of_fault {script : WriteScript} {bytes : Bytes} {fault : Fault}
    (h : (send script bytes).fault = some fault) (more : List Bytes) :
    sendAll script (bytes :: more) = none := by
  simp [sendAll, h]

theorem sendAll_append (script : WriteScript) (first rest : List Bytes) :
    sendAll script (first ++ rest) = (sendAll script first).bind (sendAll · rest) := by
  fun_induction sendAll script first with
  | case1 script => rfl
  | case2 script bytes more sent fault h => simp [sendAll, sent, h]
  | case3 script bytes more sent h ih => simpa [sendAll_cons_of_sent h] using ih

end SlotServer.Transfer
