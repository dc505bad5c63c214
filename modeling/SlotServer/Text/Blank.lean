/-!
# White space

The characters with the Unicode property `White_Space`, and cutting text at them. A text is its
first word followed by the rest, which is empty or starts with a blank.
-/

namespace SlotServer.Text

/-- The 25 characters with the Unicode property `White_Space`. -/
def isBlank (c : Char) : Bool :=
  let n := c.toNat
  (0x09 ≤ n && n ≤ 0x0D) || n == 0x20 || n == 0x85 || n == 0xA0 || n == 0x1680 ||
    (0x2000 ≤ n && n ≤ 0x200A) || n == 0x2028 || n == 0x2029 || n == 0x202F || n == 0x205F ||
    n == 0x3000

def dropBlank (text : List Char) : List Char :=
  text.dropWhile isBlank

def firstWord (text : List Char) : List Char :=
  text.takeWhile fun c => !isBlank c

def afterWord (text : List Char) : List Char :=
  text.dropWhile fun c => !isBlank c

/-- Cutting at the first blank loses nothing. -/
theorem firstWord_append_afterWord (text : List Char) :
    firstWord text ++ afterWord text = text :=
  List.takeWhile_append_dropWhile

end SlotServer.Text
