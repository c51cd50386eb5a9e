import Reckoner.Proofs.Phrase.Certain
import Reckoner.Proofs.Phrase.Neighbours

/-! # How much of a number is read

No phrasing asks for a boundary at either end of a numeral.  That a request still holds the
whole numerals of its text follows from the search: it begins at the leftmost place, and each
piece takes all that it can.

* `Capture.FitsBetween.ends` — no digit, and no fraction, is left out after a capture.
* `Phrasing.Captures.begins` — no digit, and no sign, is left out before a capture.
* `PhraseBook.read_captures` — the numerals of a request.
-/

namespace Reckoner

/-! ## Numerals that go on -/

theorem IsUnsigned.cons_digit {c : Char} {s : List Char} (unsigned : IsUnsigned s)
    (digit : isDigit c = true) : IsUnsigned (c :: s) := by
  obtain ⟨d, whole, fraction, rfl, first, wholeDigits, fractional⟩ := unsigned
  exact ⟨c, d :: whole, fraction, rfl, digit, List.forall_mem_cons.mpr ⟨first, wholeDigits⟩,
    fractional⟩

theorem IsUnsigned.concat_digit {c : Char} {s : List Char} (unsigned : IsUnsigned s)
    (digit : isDigit c = true) : IsUnsigned (s ++ [c]) := by
  obtain ⟨d, whole, fraction, rfl, first, wholeDigits, fractional⟩ := unsigned
  rcases fractional with rfl | ⟨run, rfl, runDigits⟩
  · refine ⟨d, whole ++ [c], [], by simp, first, ?_, .inl rfl⟩
    simpa [digit, or_imp, forall_and] using wholeDigits
  · refine ⟨d, whole, '.' :: (run ++ [c]), by simp, first, wholeDigits, .inr ⟨_, rfl, ?_⟩⟩
    simpa [digit, or_imp, forall_and] using runDigits

theorem IsNumeral.concat_digit {c : Char} {s : List Char} (numeral : IsNumeral s)
    (digit : isDigit c = true) : IsNumeral (s ++ [c]) := by
  rcases numeral with unsigned | ⟨_, rfl, unsigned⟩
  · exact .inl (unsigned.concat_digit digit)
  · exact .inr ⟨_, rfl, unsigned.concat_digit digit⟩

/-- What comes after the first character of a numeral are digits and points. -/
theorem IsNumeral.part_of_not_first {x y : List Char} {c : Char} (numeral : IsNumeral (x ++ c :: y))
    (notFirst : x ≠ []) : isDigitOrPoint c = true := by
  obtain ⟨d, rest, split, _, others⟩ := numeral.characters
  obtain ⟨e, x, rfl⟩ := List.exists_cons_of_ne_nil notFirst
  obtain ⟨rfl, rfl⟩ := List.cons.inj split
  exact others c (by simp)

theorem IsNumeral.part_or_sign {s : List Char} {c : Char} (numeral : IsNumeral s)
    (member : c ∈ s) : isDigitOrPoint c = true ∨ c = '-' := by
  obtain ⟨d, rest, rfl, first, others⟩ := numeral.characters
  rcases List.mem_cons.mp member with rfl | later
  · exact first.imp_left isDigitOrPoint_of_isDigit
  · exact .inl (others c later)

theorem IsNumeral.ne_nil {s : List Char} (numeral : IsNumeral s) : s ≠ [] := by
  obtain ⟨c, rest, rfl, _⟩ := numeral.characters
  exact List.cons_ne_nil c rest

/-! ## The longest numeral comes first -/

theorem restsOfRun_sorted {p : Char → Bool} {s : List Char} {after : List (List Char)}
    (sorted : after.Pairwise fun r t => r.length < t.length)
    (longer : ∀ r ∈ after, s.length < r.length) :
    (restsOfRun p s after).Pairwise fun r t => r.length < t.length := by
  induction s generalizing after with
  | nil => exact .cons longer sorted
  | cons c s ih =>
    have extended := List.Pairwise.cons longer sorted
    rw [restsOfRun]
    split
    · refine ih extended fun r member => ?_
      rcases List.mem_cons.mp member with rfl | earlier
      · exact Nat.lt_succ_self _
      · exact Nat.lt_of_succ_lt (longer r earlier)
    · exact extended

theorem restsOfUnsigned_sorted {s : List Char} {after : List (List Char)}
    (sorted : after.Pairwise fun r t => r.length < t.length)
    (longer : ∀ r ∈ after, s.length ≤ r.length) :
    (restsOfUnsigned s after).Pairwise fun r t => r.length < t.length := by
  fun_induction restsOfUnsigned s after with
  | case1 after => exact sorted
  | case2 c after digit => exact .cons (fun r member => longer r member) sorted
  | case3 c after digit fraction =>
    have extended := List.Pairwise.cons (fun r member => longer r member) sorted
    refine restsOfRun_sorted extended fun r member => ?_
    rcases List.mem_cons.mp member with rfl | earlier
    · exact Nat.lt_succ_self _
    · exact Nat.lt_of_succ_lt (longer r earlier)
  | case4 c after digit d tail notPoint dDigit ih =>
    refine ih (.cons (fun r member => longer r member) sorted) fun r member => ?_
    rcases List.mem_cons.mp member with rfl | earlier
    · exact Nat.le_refl _
    · exact Nat.le_of_succ_le (longer r earlier)
  | case5 c after digit d tail notPoint notDigit =>
    exact .cons (fun r member => longer r member) sorted
  | case6 c s after notDigit => exact sorted

theorem rests_numeral_sorted (s : List Char) :
    (Piece.numeral.rests s).Pairwise fun r t => r.length < t.length := by
  have sorted (t : List Char) : (restsOfUnsigned t []).Pairwise fun r t => r.length < t.length :=
    restsOfUnsigned_sorted .nil nofun
  rcases s with _ | ⟨c, s⟩
  · exact .nil
  · by_cases sign : c = '-'
    · subst sign
      exact sorted s
    · rw [rests_numeral_cons sign]
      exact sorted (c :: s)

/-! ## Where captures end -/

/-- The numeral of a capture does not go on after it. -/
theorem Capture.FitsBetween.ends {c : Capture} {p : Phrasing} {start more : List Char}
    {front back : List Piece} (fits : c.FitsBetween start front back)
    (split : p.pieces = front ++ .numeral :: back) (never : p.neverAfter [.digitOrPoint] = true)
    (goesOn : more <+: c.after) (numeral : IsNumeral (c.numeral ++ more)) : more = [] := by
  obtain ⟨rest, rightAfter⟩ := goesOn
  by_cases optional : back.all Piece.isOptional = true
  · -- The end that was taken is the first, and leaves the least.
    obtain ⟨others, ends⟩ := List.head?_eq_some_iff.mp (fits.greedy optional)
    have isEnd : rest ∈ Piece.numeral.rests (c.numeral ++ c.after) :=
      mem_numeral_rests.mpr ⟨c.numeral ++ more, numeral, by rw [← rightAfter, List.append_assoc]⟩
    have sorted := rests_numeral_sorted (c.numeral ++ c.after)
    rw [ends] at isEnd sorted
    have least : c.after.length ≤ rest.length := by
      rcases List.mem_cons.mp isEnd with rfl | later
      · exact Nat.le_refl _
      · exact Nat.le_of_lt (List.rel_of_pairwise_cons sorted later)
    rw [← rightAfter, List.length_append] at least
    exact List.length_eq_zero_iff.mp (by omega)
  · cases more with
    | nil => rfl
    | cons d more =>
      have part : isDigitOrPoint d = true := numeral.part_of_not_first fits.isNumeral.ne_nil
      have covers : Trail.Covers [.digitOrPoint] c.after := by
        rw [← rightAfter]
        exact ⟨part, trivial⟩
      exact absurd covers (Phrasing.not_covers_after split fits never optional)

/-! ## Where captures begin -/

theorem Phrasing.Captures.exists_slot {p : Phrasing} {s : List Char} {captures : List Capture}
    (captured : p.Captures s captures) {i : Nat} {c : Capture} (here : captures[i]? = some c) :
    c.In s ∧ ∃ start rest front back, p.LeftmostIn s start rest ∧
      p.pieces = front ++ .numeral :: back ∧ front.countP Piece.captures = i ∧
      c.FitsBetween start front back := by
  obtain ⟨start, rest, leftmost, found⟩ := captured
  obtain ⟨isIn, front, back, split, count, fits⟩ := (capturesFrom_takes found).exists_slot here
  exact ⟨leftmost.parts ▸ isIn, start, rest, front, back, leftmost, split, count, fits⟩

/-- A numeral that opens a phrasing begins no later than the leftmost fit. -/
theorem Phrasing.LeftmostIn.begins {p : Phrasing} {s start rest more : List Char} {c : Capture}
    {back : List Piece} (leftmost : p.LeftmostIn s start rest)
    (opens : p.pieces = .numeral :: back) (anywhere : p.atBoundary = false) (isIn : c.In s)
    (fits : c.FitsBetween start [] back) (goesOn : more <:+ c.before)
    (numeral : IsNumeral (more ++ c.numeral)) : more = [] := by
  obtain ⟨earlier, rightBefore⟩ := goesOn
  obtain ⟨y, inBack, remainder, rightAfter⟩ := fits.after
  have atStart : c.before = start := by
    obtain ⟨x, nothing, split⟩ := fits.before
    rw [split, mem_language_nil.mp nothing, List.append_nil]
  have starts : p.StartsAt earlier (more ++ c.numeral ++ c.after) := by
    refine ⟨fun asks => absurd asks (by simp [anywhere]), more ++ c.numeral ++ y, remainder, ?_, ?_⟩
    · rw [opens]
      exact mem_language_cons.mpr ⟨_, mem_numeral_language.mpr numeral, y, inBack, rfl⟩
    · rw [← rightAfter, ← List.append_assoc]
  have parts : s = earlier ++ (more ++ c.numeral ++ c.after) := by
    rw [isIn, ← rightBefore]
    simp
  have bound := leftmost.leftmost earlier _ parts starts
  rw [← atStart, ← rightBefore, List.length_append] at bound
  exact List.length_eq_zero_iff.mp (by omega)

namespace PhraseBook

/-- The phrasing of which the operator can be a minus sign. -/
def difference : Phrasing :=
  between ["-", "minus", "subtract"]

/-- The two captures around an operator, and all that stands between them. -/
theorem takes_between {operators : List String} {start s : List Char} {captures : List Capture}
    (takes : Takes (between operators).pieces start s captures) :
    ∃ first second operator gap later, captures = [first, second] ∧ operator ∈ operators ∧
      (∀ b ∈ gap, Text.isBlank b = true) ∧ (∀ b ∈ later, Text.isBlank b = true) ∧
      second.before = first.before ++ first.numeral ++ gap ++ operator.toList ++ later := by
  obtain _ | ⟨_, _, takes⟩ := takes
  obtain _ | ⟨gap, _, takes⟩ := takes
  obtain _ | ⟨⟨operator, member, rfl⟩, _, takes⟩ := takes
  obtain _ | ⟨later, _, takes⟩ := takes
  obtain _ | ⟨_, _, takes⟩ := takes
  obtain _ | _ := takes
  exact ⟨_, _, operator, _, _, rfl, member, mem_blanks_language.mp gap,
    mem_blanks_language.mp later, rfl⟩

end PhraseBook

/-- The sign before the capture is the operator between it and the capture that comes first. -/
def Capture.FollowsMinus (c : Capture) (phrasing : Phrasing) (captures : List Capture) : Prop :=
  phrasing = PhraseBook.difference ∧ ∃ first gap, captures = [first, c] ∧
    (∀ b ∈ gap, Text.isBlank b = true) ∧
      c.before = first.before ++ first.numeral ++ gap ++ ['-']

theorem Phrasing.Captures.followsMinus {s : List Char} {captures : List Capture}
    (captured : PhraseBook.difference.Captures s captures) {i : Nat} {c : Capture}
    (here : captures[i]? = some c) (inside : i ≠ 0) (sign : c.before.getLast? = some '-') :
    c.FollowsMinus PhraseBook.difference captures := by
  obtain ⟨start, rest, _, found⟩ := captured
  obtain ⟨first, second, operator, gap, later, rfl, member, blank, laterBlank, rightBefore⟩ :=
    PhraseBook.takes_between (capturesFrom_takes found)
  obtain rfl : second = c := by
    obtain _ | _ | i := i
    · exact absurd rfl inside
    · exact Option.some.inj here
    · cases here
  refine ⟨rfl, first, gap, rfl, blank, ?_⟩
  -- A sign is no blank, and the other operators do not end in one.
  rw [rightBefore] at sign
  rcases List.eq_nil_or_concat later with rfl | ⟨later, b, rfl⟩
  · simp only [List.mem_cons, List.not_mem_nil, or_false] at member
    rcases member with rfl | rfl | rfl
    · simpa using rightBefore
    · simp at sign
    · simp at sign
  · have isSign : b = '-' := by simpa [← List.append_assoc] using sign
    have contrary := laterBlank b (by simp)
    rw [isSign] at contrary
    cases contrary

/-! ## The phrasings of the standard book -/

namespace PhraseBook

section Table

variable {operation : Operation} {p : Phrasing} (member : p ∈ phrasings operation)
include member

theorem neverAfter_part : p.neverAfter [.digitOrPoint] = true := by
  revert p
  cases operation <;> decide

theorem neverBefore_part : p.neverBefore [.digitOrPoint] = true := by
  revert p
  cases operation <;> decide

theorem neverBefore_sign (other : p ≠ difference) : p.neverBefore [.only '-'] = true := by
  revert p
  cases operation <;> decide

theorem one_or_two_captures :
    p.pieces.countP Piece.captures = 1 ∨ p.pieces.countP Piece.captures = 2 := by
  revert p
  cases operation <;> decide

theorem anywhere_of_opens (opens : p.pieces.head? = some .numeral) : p.atBoundary = false := by
  revert p
  cases operation <;> decide

end Table

end PhraseBook

/-! ## The numerals of a request -/

/-- No digit of the numeral is left out, and no sign of it: a sign before a numeral without one
    is the operator of a difference. -/
structure Capture.IsWhole (c : Capture) (phrasing : Phrasing) (captures : List Capture) :
    Prop where
  isNumeral : IsNumeral c.numeral
  digit_after : Stops isDigit c.after
  digit_before : IsUnsigned c.numeral → Stops isDigit c.before.reverse
  sign_before : IsUnsigned c.numeral → c.before.getLast? = some '-' →
    c.FollowsMinus phrasing captures

namespace Phrasing.Captures

variable {operation : Operation} {p : Phrasing} {s : List Char} {captures : List Capture}
  {c : Capture} (captured : p.Captures s captures)
include captured

theorem pairwise : captures.Pairwise Capture.Precedes := by
  obtain ⟨_, _, _, found⟩ := captured
  exact (capturesFrom_takes found).pairwise

theorem length_eq (known : p ∈ PhraseBook.phrasings operation) :
    captures.length = 1 ∨ captures.length = 2 := by
  obtain ⟨_, _, _, found⟩ := captured
  rw [(capturesFrom_takes found).length_captures]
  exact PhraseBook.one_or_two_captures known

theorem isIn (member : c ∈ captures) : c.In s := by
  obtain ⟨i, here⟩ := List.mem_iff_getElem?.mp member
  exact (captured.exists_slot here).1

variable (known : p ∈ PhraseBook.phrasings operation) (member : c ∈ captures)
include known member

/-- The numeral of a capture does not begin before it, unless with the sign that is taken for
    the operator. -/
theorem begins {more : List Char} (goesOn : more <:+ c.before)
    (numeral : IsNumeral (more ++ c.numeral)) : more = [] ∨ c.FollowsMinus p captures := by
  obtain ⟨i, here⟩ := List.mem_iff_getElem?.mp member
  obtain ⟨isIn, start, rest, front, back, leftmost, split, count, fits⟩ := captured.exists_slot here
  rcases front with _ | ⟨first, front⟩
  · have opens : p.pieces.head? = some .numeral := by rw [split]; rfl
    exact .inl (leftmost.begins split (PhraseBook.anywhere_of_opens known opens) isIn fits goesOn
      numeral)
  rcases List.eq_nil_or_concat more with rfl | ⟨more, d, rfl⟩
  · exact .inl rfl
  right
  obtain ⟨earlier, rightBefore⟩ := goesOn
  have last : c.before.reverse = d :: (earlier ++ more).reverse := by
    rw [← rightBefore]
    simp
  have inside : first :: front ≠ [] := List.cons_ne_nil first front
  rcases numeral.part_or_sign (c := d) (by simp) with part | rfl
  · have covers : Trail.Covers [.digitOrPoint] c.before.reverse := last ▸ ⟨part, trivial⟩
    exact absurd covers
      (not_covers_before split fits (PhraseBook.neverBefore_part known) inside)
  by_cases isDifference : p = PhraseBook.difference
  · subst isDifference
    have notFirst : i ≠ 0 := by
      obtain ⟨rfl, _⟩ := List.cons.inj split
      simp [← count, Piece.captures]
    refine captured.followsMinus here notFirst ?_
    simpa using congrArg List.head? last
  · have covers : Trail.Covers [.only '-'] c.before.reverse := last ▸ ⟨rfl, trivial⟩
    exact absurd covers
      (not_covers_before split fits (PhraseBook.neverBefore_sign known isDifference) inside)

theorem ends {more : List Char} (goesOn : more <+: c.after)
    (numeral : IsNumeral (c.numeral ++ more)) : more = [] := by
  obtain ⟨i, here⟩ := List.mem_iff_getElem?.mp member
  obtain ⟨_, _, _, _, _, _, split, _, fits⟩ := captured.exists_slot here
  exact fits.ends split (PhraseBook.neverAfter_part known) goesOn numeral

theorem isWhole : c.IsWhole p captures := by
  obtain ⟨i, here⟩ := List.mem_iff_getElem?.mp member
  obtain ⟨_, _, _, _, _, _, _, _, fits⟩ := captured.exists_slot here
  refine { isNumeral := fits.isNumeral, digit_after := ?_, digit_before := ?_, sign_before := ?_ }
  · intro d first
    by_contra digit
    obtain ⟨rest, rightAfter⟩ := List.head?_eq_some_iff.mp first
    have goesOn : [d] <+: c.after := ⟨rest, rightAfter.symm⟩
    cases captured.ends known member goesOn (fits.isNumeral.concat_digit (by simpa using digit))
  · intro unsigned d last
    by_contra digit
    rw [List.head?_reverse] at last
    obtain ⟨earlier, rightBefore⟩ := List.getLast?_eq_some_iff.mp last
    have goesOn : [d] <:+ c.before := ⟨earlier, rightBefore.symm⟩
    have longer : IsNumeral ([d] ++ c.numeral) := .inl (unsigned.cons_digit (by simpa using digit))
    rcases captured.begins known member goesOn longer with empty | ⟨_, first, gap, _, _, split⟩
    · cases empty
    · -- Where the sign is the operator, no digit comes last.
      obtain rfl : '-' = d := by simpa [split] using last
      exact digit rfl
  · intro unsigned last
    obtain ⟨earlier, rightBefore⟩ := List.getLast?_eq_some_iff.mp last
    have goesOn : ['-'] <:+ c.before := ⟨earlier, rightBefore.symm⟩
    have longer : IsNumeral (['-'] ++ c.numeral) := .inr ⟨c.numeral, rfl, unsigned⟩
    exact (captured.begins known member goesOn longer).resolve_left (List.cons_ne_nil _ _)

end Phrasing.Captures

namespace PhraseBook

/-- A request is made of one numeral of its text, or of two that do not overlap, and none of
    their digits or signs is left out. -/
theorem read_captures {text : String} {request : Request}
    (read : standard.read text = .ok (some request)) :
    ∃ operation phrasing captures, request.IsReadFrom text operation phrasing captures ∧
      (captures.length = 1 ∨ captures.length = 2) ∧ captures.Pairwise Capture.Precedes ∧
        ∀ c ∈ captures, c.In (Text.lower text.toList) ∧ c.IsWhole phrasing captures := by
  obtain ⟨operation, phrasing, captures, isRead⟩ := exists_isReadFrom read
  have known := mem_phrasings_of_commits isRead.commits
  have captured := isRead.captured
  exact ⟨operation, phrasing, captures, isRead, captured.length_eq known, captured.pairwise,
    fun c member => ⟨captured.isIn member, captured.isWhole known member⟩⟩

theorem read_captures_difference :
    standard.read "12-3" =
        .ok (some { operation := "subtract", operands := [12, 3], question := "12-3" }) ∧
      ∃ operation phrasing captures,
        Request.IsReadFrom
            { operation := "subtract", operands := [12, 3], question := "12-3" }
            "12-3" operation phrasing captures ∧
          (captures.length = 1 ∨ captures.length = 2) ∧ captures.Pairwise Capture.Precedes ∧
            ∀ c ∈ captures, c.In (Text.lower "12-3".toList) ∧ c.IsWhole phrasing captures :=
  have read : standard.read "12-3" =
      .ok (some { operation := "subtract", operands := [12, 3], question := "12-3" }) := by
    decide +kernel
  ⟨read, read_captures read⟩

end PhraseBook

end Reckoner
