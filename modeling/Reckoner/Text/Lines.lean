/-!
# Lines

* `pieces`: a text cut at its line ends.
* `lines`: the lines of a text; a last line without an end counts if it is not
  empty.

A line ends at a line feed, at a carriage return, or at the two together.
-/

namespace Reckoner.Text

/-- A text cut at its line ends; the last piece has no end. -/
def pieces : List Char → List (List Char)
  | [] => [[]]
  | '\r' :: '\n' :: rest => [] :: pieces rest
  | '\r' :: rest => [] :: pieces rest
  | '\n' :: rest => [] :: pieces rest
  | c :: rest =>
      match pieces rest with
      | [] => [[c]]
      | piece :: more => (c :: piece) :: more

/-- The lines of a text. -/
def lines (s : List Char) : List (List Char) :=
  let all := pieces s
  if all.getLast? = some [] then all.dropLast else all

end Reckoner.Text
