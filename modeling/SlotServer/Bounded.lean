import SlotServer.Text.Utf8

/-!
# Capped lengths

Text and bytes that flow into a field of limited size are cut at the limit, not refused.
-/

namespace SlotServer

/-- The first `limit` characters of a text, as a string. -/
def capped (limit : Nat) (text : List Char) : String :=
  String.ofList (text.take limit)

@[simp] theorem toList_capped (limit : Nat) (text : List Char) :
    (capped limit text).toList = text.take limit := by
  simp [capped]

theorem length_capped_le (limit : Nat) (text : List Char) :
    (capped limit text).length ≤ limit := by
  rw [← String.length_toList, toList_capped]
  exact List.length_take_le ..

/-- The buffer with `bytes` appended as far as they fit into `capacity`. -/
def appendCapped (capacity : Nat) (buffer bytes : Bytes) : Bytes :=
  buffer ++ bytes.take (capacity - buffer.length)

end SlotServer
