/-!
# Splitting

Lists cut at every occurrence of a separator. There is one part more than there are separators.
-/

namespace SlotServer.Text

/-- The parts of a list between the occurrences of `separator`. -/
def splitAt {α : Type} [DecidableEq α] (separator : α) : List α → List (List α)
  | [] => [[]]
  | c :: rest =>
    if c = separator then [] :: splitAt separator rest
    else
      match splitAt separator rest with
      | [] => [[c]]
      | part :: parts => (c :: part) :: parts

end SlotServer.Text
