/-!
# Similar words

* `withinEdits`: whether a few edits lead from one word to another.
* `edits?`: the least number of edits up to a limit.
* `similarity?`: the number of edits to a word that is similar enough.
* `closest`: the candidates at the least distance.
-/

namespace Reckoner.Text

variable {α : Type} [DecidableEq α]

/-- Whether at most so many edits lead from one word to another.  An edit puts in, takes
    out or replaces a letter, or swaps two neighbours that no other edit touches. -/
def withinEdits : Nat → List α → List α → Bool
  | limit, [], ys => ys.length ≤ limit
  | limit, xs, [] => xs.length ≤ limit
  | 0, x :: xs, y :: ys => x = y && withinEdits 0 xs ys
  | limit + 1, x :: xs, y :: ys =>
      (x = y && withinEdits (limit + 1) xs ys) ||
        withinEdits limit xs ys ||
        withinEdits limit xs (y :: ys) ||
        withinEdits limit (x :: xs) ys ||
        (match xs, ys with
          | x' :: xs', y' :: ys' => x = y' && x' = y && withinEdits limit xs' ys'
          | _, _ => false)
termination_by _ xs ys => xs.length + ys.length

/-- The least number of edits from one word to another, if it keeps the limit. -/
def edits? (limit : Nat) (xs ys : List α) : Option Nat :=
  (List.range (limit + 1)).find? (withinEdits · xs ys)

/-- Whether two words have more than two fifths in common when so many edits lead from
    one to the other. -/
def isSimilar (edits : Nat) (xs ys : List α) : Bool :=
  let length := max xs.length ys.length
  2 * length < 5 * (length - edits)

/-- The number of edits to a similar word, if it keeps the limit. -/
def similarity? (limit : Nat) (xs ys : List α) : Option Nat :=
  (edits? limit xs ys).filter (isSimilar · xs ys)

/-- The candidates at the least distance; those without a distance are left out. -/
def closest {β : Type} (distance? : β → Option Nat) (candidates : List β) : List β :=
  match (candidates.filterMap distance?).min? with
  | none => []
  | some least => candidates.filter (distance? · = some least)

end Reckoner.Text
