import SlotServer.Log.Event
import SlotServer.Slots.Lease

/-!
# Events of the slot table

Allocating a slot and dropping a lease are logged; releasing a slot directly is not.
-/

namespace SlotServer

/-- The event that an operation on slots logs, if it logs one. -/
def SlotAnswer.event? : SlotAnswer → Option Log.Event
  | leased _ record => some (.slotAllocated record)
  | givenBack slot => some (.slotReleased slot)
  | stale error => some (.staleLease error)
  | _ => none

end SlotServer
