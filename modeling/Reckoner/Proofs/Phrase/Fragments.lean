import Reckoner.Proofs.Phrase.WholeNumerals

/-! # Where a part of a number is read

A numeral has no exponent, no separators, and a digit before its point.  A number that is
written with any of these is not rejected: the search can find a numeral in it.  The pieces
of the phrasings leave two places where that can happen:

* `Capture.IsCutBefore`, `IsCutAfter` — a number goes on beside the numeral of the capture.
* `Phrasing.OpensWithOperand`, `EndsWithOperand` — the phrasings with an open edge.
* `PhraseBook.read_cut_at_edges` — a capture is cut only at an open edge.
-/

namespace Reckoner

/-! ## Cuts -/

/-- How a text ends, last character first, if a numeral right after it may be only the last
    part of a number: with a point, with a digit and a comma, or with a digit and the start of an
    exponent. -/
def cutsBefore : List Trail :=
  [[.only '.'], [.only ',', .digit], [.only 'e', .digit], [.only '+', .only 'e', .digit],
    [.only '-', .only 'e', .digit]]

/-- How a text begins if a numeral right before it may be only the first part of a number:
    with a point or a comma and a digit, or with an exponent. -/
def cutsAfter : List Trail :=
  [[.only '.', .digit], [.only ',', .digit], [.only 'e', .digit], [.only 'e', .only '+', .digit],
    [.only 'e', .only '-', .digit]]

namespace Capture

variable (c : Capture)

def IsCutBefore : Prop :=
  ∃ trail ∈ cutsBefore, trail.Covers c.before.reverse

def IsCutAfter : Prop :=
  ∃ trail ∈ cutsAfter, trail.Covers c.after

instance : Decidable c.IsCutBefore :=
  inferInstanceAs (Decidable (∃ trail ∈ cutsBefore, trail.Covers c.before.reverse))

instance : Decidable c.IsCutAfter :=
  inferInstanceAs (Decidable (∃ trail ∈ cutsAfter, trail.Covers c.after))

end Capture

namespace Phrasing

def OpensWithOperand (p : Phrasing) : Prop :=
  ∃ back, p.pieces = .numeral :: back

/-- Nothing has to follow the last operand. -/
def EndsWithOperand (p : Phrasing) : Prop :=
  ∃ front back, p.pieces = front ++ .numeral :: back ∧ back.all Piece.isOptional = true

end Phrasing

namespace PhraseBook

theorem neverBefore_cut {operation : Operation} {p : Phrasing} (member : p ∈ phrasings operation) :
    ∀ trail ∈ cutsBefore, p.neverBefore trail = true := by
  revert p
  cases operation <;> decide

theorem neverAfter_cut {operation : Operation} {p : Phrasing} (member : p ∈ phrasings operation) :
    ∀ trail ∈ cutsAfter, p.neverAfter trail = true := by
  revert p
  cases operation <;> decide

end PhraseBook

/-! ## Open edges -/

theorem countP_captures_of_optional {pieces : List Piece}
    (optional : pieces.all Piece.isOptional = true) : pieces.countP Piece.captures = 0 := by
  rw [List.countP_eq_zero]
  intro piece member
  have isOptional := List.all_eq_true.mp optional piece member
  cases piece with
  | numeral => cases isOptional
  | blanks => exact Bool.false_ne_true
  | oneOf spellings => exact Bool.false_ne_true

namespace Phrasing.Captures

variable {operation : Operation} {p : Phrasing} {s : List Char} {captures : List Capture}
  {c : Capture} (captured : p.Captures s captures) (known : p ∈ PhraseBook.phrasings operation)
  (member : c ∈ captures)
include captured known member

theorem opens_of_isCutBefore (cut : c.IsCutBefore) :
    captures.head? = some c ∧ p.OpensWithOperand := by
  obtain ⟨i, here⟩ := List.mem_iff_getElem?.mp member
  obtain ⟨_, start, _, front, back, _, split, count, fits⟩ := captured.exists_slot here
  obtain ⟨trail, isCut, covers⟩ := cut
  cases front with
  | nil =>
    obtain rfl : 0 = i := count
    exact ⟨by rw [List.head?_eq_getElem?, here], back, split⟩
  | cons first front =>
    have inside : first :: front ≠ [] := List.cons_ne_nil first front
    exact absurd covers
      (not_covers_before split fits (PhraseBook.neverBefore_cut known trail isCut) inside)

theorem ends_of_isCutAfter (cut : c.IsCutAfter) :
    captures.getLast? = some c ∧ p.EndsWithOperand := by
  obtain ⟨i, here⟩ := List.mem_iff_getElem?.mp member
  obtain ⟨_, start, _, front, back, _, split, count, fits⟩ := captured.exists_slot here
  obtain ⟨trail, isCut, covers⟩ := cut
  by_cases optional : back.all Piece.isOptional = true
  · have last : captures.length - 1 = i := by
      obtain ⟨_, _, _, found⟩ := captured
      rw [(capturesFrom_takes found).length_captures, split, List.countP_append, List.countP_cons,
        countP_captures_of_optional optional, count]
      rfl
    exact ⟨by rw [List.getLast?_eq_getElem?, last, here], front, back, split, optional⟩
  · exact absurd covers
      (not_covers_after split fits (PhraseBook.neverAfter_cut known trail isCut) optional)

end Phrasing.Captures

namespace PhraseBook

/-- A numeral is read up to both its ends.  Where it is only a part of a number, either the
    number goes on before the phrasing that the text is read in, or after it. -/
theorem read_cut_at_edges {text : String} {request : Request}
    (read : standard.read text = .ok (some request)) :
    ∃ operation phrasing captures, request.IsReadFrom text operation phrasing captures ∧
      ∀ c ∈ captures, c.In (Text.lower text.toList) ∧ IsNumeral c.numeral ∧
        (∀ more, more <+: c.after → IsNumeral (c.numeral ++ more) → more = []) ∧
        (∀ more, more <:+ c.before → IsNumeral (more ++ c.numeral) →
          more = [] ∨ c.FollowsMinus phrasing captures) ∧
        (c.IsCutBefore → captures.head? = some c ∧ phrasing.OpensWithOperand) ∧
        (c.IsCutAfter → captures.getLast? = some c ∧ phrasing.EndsWithOperand) := by
  obtain ⟨operation, phrasing, captures, isRead⟩ := exists_isReadFrom read
  have known := mem_phrasings_of_commits isRead.commits
  have captured := isRead.captured
  exact ⟨operation, phrasing, captures, isRead, fun c member =>
    ⟨captured.isIn member, (captured.isWhole known member).isNumeral,
      fun _ => captured.ends known member, fun _ => captured.begins known member,
      captured.opens_of_isCutBefore known member, captured.ends_of_isCutAfter known member⟩⟩

theorem read_cut_at_edges_thousands :
    standard.read "1,000 + 5" =
        .ok (some { operation := "add", operands := [0, 5], question := "1,000 + 5" }) ∧
      ∃ operation phrasing captures,
        Request.IsReadFrom { operation := "add", operands := [0, 5], question := "1,000 + 5" }
            "1,000 + 5" operation phrasing captures ∧
          ∀ c ∈ captures, c.In (Text.lower "1,000 + 5".toList) ∧ IsNumeral c.numeral ∧
            (∀ more, more <+: c.after → IsNumeral (c.numeral ++ more) → more = []) ∧
            (∀ more, more <:+ c.before → IsNumeral (more ++ c.numeral) →
              more = [] ∨ c.FollowsMinus phrasing captures) ∧
            (c.IsCutBefore → captures.head? = some c ∧ phrasing.OpensWithOperand) ∧
            (c.IsCutAfter → captures.getLast? = some c ∧ phrasing.EndsWithOperand) :=
  have read : standard.read "1,000 + 5" =
      .ok (some { operation := "add", operands := [0, 5], question := "1,000 + 5" }) := by
    decide +kernel
  ⟨read, read_cut_at_edges read⟩

end PhraseBook

/-! ## Cuts that occur -/

namespace PhraseBook

/-- The phrasing that is tried before all others. -/
def sum : Phrasing :=
  between ["+", "plus", "add"]

theorem isReadFrom_sum {text : String} {captures : List Capture}
    (captured : sum.Captures (Text.lower text.toList) captures) :
    Request.IsReadFrom
      { operation := "add", operands := captures.map Capture.value, question := text }
      text .add sum captures where
  question := rfl
  named := rfl
  commits :=
    { group_first := ⟨[], Operation.all.tail.map group, rfl, nofun⟩
      phrasing_first := ⟨[], _, rfl, nofun⟩ }
  captured := captured
  operands := by
    have notReversed : sum ≠ subtractFrom := by decide
    rw [if_neg notReversed]
    exact (List.append_nil _).symm

/-- The text is read as a sum of these operands, and one of its captures is cut. -/
def ReadsCutSum (text : String) (operands : List Binary64) (cut : Capture → Prop) : Prop :=
  ∃ captures,
    standard.read text = .ok (some { operation := "add", operands, question := text }) ∧
      Request.IsReadFrom { operation := "add", operands, question := text } text .add sum captures ∧
        ∃ c ∈ captures, cut c

theorem readsCutSum_of_captures? {text : String} {operands : List Binary64} {cut : Capture → Prop}
    (read : standard.read text = .ok (some { operation := "add", operands, question := text }))
    (captured : ∃ captures ∈ sum.captures? (Text.lower text.toList),
      captures.map Capture.value = operands ∧ ∃ c ∈ captures, cut c) :
    ReadsCutSum text operands cut := by
  obtain ⟨captures, found, rfl, cut⟩ := captured
  exact ⟨captures, read, isReadFrom_sum (Phrasing.captures?_sound found), cut⟩

/-- A number that is no numeral is read from its last numeral on where it comes first, and up
    to the end of its first numeral where it comes last. -/
theorem read_part_of_number :
    (∀ answer ∈ [(".5 + 3", [5, 3]), ("1,000 + 5", [0, 5]), ("1e5 + 3", [5, 3])],
      ReadsCutSum answer.1 answer.2 Capture.IsCutBefore) ∧
    ∀ answer ∈ [("2 + 1.0.5", [2, 1]), ("2 + 1,000", [2, 1]), ("2 + 1e5", [2, 1])],
      ReadsCutSum answer.1 answer.2 Capture.IsCutAfter := by
  constructor
  · intro answer member
    refine readsCutSum_of_captures? ?_ ?_
    · revert answer
      decide +kernel
    · revert answer
      decide +kernel
  · intro answer member
    refine readsCutSum_of_captures? ?_ ?_
    · revert answer
      decide +kernel
    · revert answer
      decide +kernel

end PhraseBook

end Reckoner
