/-!
# Similarity of words

How alike two words are, from 0 for nothing in common to 1 for the same word. Characters match if
they are the same and stand at nearly the same place; matching characters in another order count
half.
-/

namespace SlotServer.Text

/-- The places of the characters of `b` that match characters of `a`, which begins at place `i`:
for each character in turn the first place in reach that is not used yet. -/
def matches? (reach : Nat) (b : List Char) (used : List Nat) (i : Nat) :
    List Char → List (Option Nat)
  | [] => []
  | c :: rest =>
    let fits (j : Nat) : Bool :=
      i ≤ j + reach && !used.contains j && b[j]? == some c
    let found := (List.range (min b.length (i + reach + 1))).find? fits
    found :: matches? reach b (found.toList ++ used) (i + 1) rest

def similarity (a b : List Char) : Float :=
  let reach := max a.length b.length / 2 - 1
  let places := matches? reach b [] 0 a
  let used := places.filterMap id
  let inA := (a.zip places).filterMap fun (c, place) => place.map fun _ => c
  let inB := (List.range b.length).filterMap fun j => if used.contains j then b[j]? else none
  let moved := ((inA.zip inB).filter fun (c, d) => c != d).length / 2
  let count := used.length
  if a.isEmpty && b.isEmpty then 1
  else if count = 0 then 0
  else
    let share (n : Nat) (whole : Nat) : Float := Float.ofNat n / Float.ofNat whole
    (share count a.length + share count b.length + share (count - moved) count) / 3

/-- The word most similar to a given one, the last of several, if it is similar enough to be
meant. -/
def mostSimilar? {α : Type} (word : List Char) (candidates : List (List Char × α)) : Option α :=
  let better (best : Option (Float × α)) (candidate : List Char × α) : Option (Float × α) :=
    let score := similarity word candidate.1
    if score > 0.7 && best.all (fun b => b.1 ≤ score) then some (score, candidate.2) else best
  (candidates.foldl better none).map Prod.snd

end SlotServer.Text
