import Reckoner.Phrase.Reading
import Reckoner.Proofs.Phrase.Grammar

/-! # What the search for phrasings finds

A question is searched phrasing by phrasing, and each phrasing from left to right.
No greedy or earlier choice of a piece loses a match, so the search commits to the
first phrasing that occurs at all, where it first occurs:

* `Spells` — a text of the language of some pieces, with its numerals.
* `matchPieces_spells`, `matchPieces_isSome` — matching is sound and complete.
* `Phrasing.StartsAt`, `OccursIn` — where a phrasing begins, and whether it does.
* `Phrasing.find?_leftmost` — the fit that is found is the leftmost.
* `PhraseBook.Commits` — the group, the phrasing and the place of the fit that a
  book finds.
-/

namespace Reckoner

/-! ## Matching at one place -/

/-- `Spells pieces x numerals` says that `x` fits the pieces, one after another, and
    that the numerals among the parts of `x` are `numerals`. -/
inductive Spells : List Piece → List Char → List (List Char) → Prop where
  | nil : Spells [] [] []
  | cons {piece : Piece} {pieces : List Piece} {part x : List Char}
      {numerals : List (List Char)} :
      part ∈ piece.language → Spells pieces x numerals →
        Spells (piece :: pieces) (part ++ x)
          (if piece.captures then part :: numerals else numerals)

theorem mem_language_iff {pieces : List Piece} {x : List Char} :
    x ∈ language pieces ↔ ∃ numerals, Spells pieces x numerals := by
  induction pieces generalizing x with
  | nil =>
    rw [mem_language_nil]
    constructor
    · rintro rfl
      exact ⟨[], .nil⟩
    · rintro ⟨_, spelt⟩
      cases spelt
      rfl
  | cons piece pieces ih =>
    rw [mem_language_cons]
    constructor
    · rintro ⟨part, fits, rest, inRest, rfl⟩
      obtain ⟨numerals, spelt⟩ := ih.mp inRest
      exact ⟨_, .cons fits spelt⟩
    · rintro ⟨_, spelt⟩
      cases spelt with
      | cons fits spelt => exact ⟨_, fits, _, ih.mpr ⟨_, spelt⟩, rfl⟩

theorem Spells.length_numerals {pieces : List Piece} {x : List Char}
    {numerals : List (List Char)} (spelt : Spells pieces x numerals) :
    numerals.length = pieces.countP Piece.captures := by
  induction spelt with
  | nil => rfl
  | @cons piece pieces part x numerals _ _ ih =>
    by_cases captures : piece.captures = true <;> simp [captures, ih]

theorem takenBefore_append (part rest : List Char) : takenBefore (part ++ rest) rest = part := by
  simp [takenBefore]

theorem matchPieces_spells {pieces : List Piece} {s : List Char} {numerals : List (List Char)}
    (found : matchPieces pieces s = some numerals) :
    ∃ x rest, s = x ++ rest ∧ Spells pieces x numerals := by
  induction pieces generalizing s numerals with
  | nil =>
    simp only [matchPieces, Option.some.injEq] at found
    exact ⟨[], s, rfl, found ▸ .nil⟩
  | cons piece pieces ih =>
    -- The match goes on from one of the places where the first piece may end.
    obtain ⟨middle, member, matched⟩ := List.exists_of_findSome?_eq_some found
    obtain ⟨later, matchedLater, rfl⟩ := Option.map_eq_some_iff.mp matched
    obtain ⟨part, fits, rfl⟩ := Piece.mem_rests.mp member
    obtain ⟨x, rest, rfl, spelt⟩ := ih matchedLater
    refine ⟨part ++ x, rest, by simp, ?_⟩
    rw [takenBefore_append]
    exact .cons fits spelt

/-- Whatever choices come first, some way to fit the pieces is found if there is
    one. -/
theorem matchPieces_isSome {pieces : List Piece} {x : List Char} {numerals : List (List Char)}
    (spelt : Spells pieces x numerals) (rest : List Char) :
    (matchPieces pieces (x ++ rest)).isSome = true := by
  induction spelt with
  | nil => rfl
  | @cons piece pieces part x numerals fits _ ih =>
    have ends : x ++ rest ∈ piece.rests (part ++ x ++ rest) :=
      Piece.mem_rests.mpr ⟨part, fits, by simp⟩
    -- One end from which the rest fits is enough: the search tries them all.
    rw [matchPieces, List.findSome?_isSome_iff]
    exact ⟨x ++ rest, ends, by simpa using ih⟩

/-! ## Phrasings in a text -/

namespace Phrasing

/-- A text of the phrasing begins between `before` and `after`, at a word boundary
    if the phrasing asks for one. -/
def StartsAt (p : Phrasing) (before after : List Char) : Prop :=
  (p.atBoundary = true → atWordBoundary before.getLast? after.head? = true) ∧
    ∃ x rest, x ∈ language p.pieces ∧ after = x ++ rest

/-- A text of the phrasing begins somewhere in `s`. -/
def OccursIn (p : Phrasing) (s : List Char) : Prop :=
  ∃ before after, s = before ++ after ∧ p.StartsAt before after

/-- `before` and `after` part `s` at the leftmost place where the phrasing begins. -/
structure LeftmostIn (p : Phrasing) (s before after : List Char) : Prop where
  parts : s = before ++ after
  starts : p.StartsAt before after
  leftmost : ∀ earlier later, s = earlier ++ later → p.StartsAt earlier later →
    before.length ≤ earlier.length

theorem fit?_isSome {p : Phrasing} {before after : List Char} :
    (p.fit? before.getLast? after).isSome = true ↔ p.StartsAt before after := by
  have matches_iff : (matchPieces p.pieces after).isSome = true ↔
      ∃ x rest, x ∈ language p.pieces ∧ after = x ++ rest := by
    constructor
    · intro found
      obtain ⟨numerals, found⟩ := Option.isSome_iff_exists.mp found
      obtain ⟨x, rest, rfl, spelt⟩ := matchPieces_spells found
      exact ⟨x, rest, mem_language_iff.mpr ⟨numerals, spelt⟩, rfl⟩
    · rintro ⟨x, rest, fits, rfl⟩
      obtain ⟨numerals, spelt⟩ := mem_language_iff.mp fits
      exact matchPieces_isSome spelt rest
  simp only [fit?, StartsAt, ← matches_iff]
  cases p.atBoundary <;> cases atWordBoundary before.getLast? after.head? <;> simp

theorem fit?_eq_none {p : Phrasing} {before after : List Char} :
    p.fit? before.getLast? after = none ↔ ¬ p.StartsAt before after := by
  rw [← fit?_isSome, Option.not_isSome_iff_eq_none]

theorem fit?_spells {p : Phrasing} {before : Option Char} {after : List Char}
    {numerals : List (List Char)} (found : p.fit? before after = some numerals) :
    ∃ x rest, after = x ++ rest ∧ Spells p.pieces x numerals := by
  unfold fit? at found
  split at found
  · cases found
  · exact matchPieces_spells found

/-- The search goes past a place only if the phrasing does not begin there. -/
theorem findAfter?_leftmost {p : Phrasing} {before after : List Char}
    {numerals : List (List Char)} (found : p.findAfter? before.getLast? after = some numerals) :
    ∃ skipped rest, after = skipped ++ rest ∧
      p.fit? (before ++ skipped).getLast? rest = some numerals ∧
      ∀ earlier later, after = earlier ++ later → p.StartsAt (before ++ earlier) later →
        skipped.length ≤ earlier.length := by
  induction after generalizing before with
  | nil =>
    rw [findAfter?] at found
    exact ⟨[], [], rfl, by simpa using found, fun _ _ _ _ => Nat.zero_le _⟩
  | cons c after ih =>
    rw [findAfter?] at found
    cases here : p.fit? before.getLast? (c :: after) with
    | some _ =>
      rw [here] at found
      exact ⟨[], c :: after, rfl, by simpa [here] using found, fun _ _ _ _ => Nat.zero_le _⟩
    | none =>
      simp only [here] at found
      have onwards : p.findAfter? (before ++ [c]).getLast? after = some numerals := by
        simpa using found
      obtain ⟨skipped, rest, rfl, fits, leftmost⟩ := ih onwards
      refine ⟨c :: skipped, rest, rfl, by simpa using fits, ?_⟩
      -- A place at the start was refused, and any other lies in the part searched next.
      intro earlier later split starts
      cases earlier with
      | nil =>
        rw [List.nil_append] at split
        rw [← split, List.append_nil] at starts
        exact absurd starts (fit?_eq_none.mp here)
      | cons d earlier =>
        obtain ⟨rfl, tails⟩ := List.cons.inj split
        have bound := leftmost earlier later tails (by simpa using starts)
        simpa using bound

theorem findAfter?_isSome {p : Phrasing} {before skipped rest : List Char}
    (starts : p.StartsAt (before ++ skipped) rest) :
    (p.findAfter? before.getLast? (skipped ++ rest)).isSome = true := by
  induction skipped generalizing before with
  | nil =>
    rw [List.append_nil, ← fit?_isSome] at starts
    cases rest with
    | nil => exact starts
    | cons c rest =>
      obtain ⟨numerals, fits⟩ := Option.isSome_iff_exists.mp starts
      simp [findAfter?, fits]
  | cons c skipped ih =>
    rw [List.cons_append, findAfter?]
    cases p.fit? before.getLast? (c :: (skipped ++ rest)) with
    | some _ => rfl
    | none =>
      have onwards : p.StartsAt (before ++ [c] ++ skipped) rest := by simpa using starts
      simpa using ih onwards

theorem find?_eq_findAfter? (p : Phrasing) (s : List Char) :
    p.find? s = p.findAfter? ([] : List Char).getLast? s := rfl

theorem find?_isSome {p : Phrasing} {s : List Char} :
    (p.find? s).isSome = true ↔ p.OccursIn s := by
  constructor
  · intro found
    obtain ⟨numerals, found⟩ := Option.isSome_iff_exists.mp found
    rw [find?_eq_findAfter?] at found
    obtain ⟨before, after, rfl, fits, _⟩ := findAfter?_leftmost found
    exact ⟨before, after, rfl, fit?_isSome.mp (by simpa using congrArg Option.isSome fits)⟩
  · rintro ⟨before, after, rfl, starts⟩
    have fromStart : p.StartsAt ([] ++ before) after := by simpa using starts
    exact findAfter?_isSome fromStart

theorem find?_eq_none {p : Phrasing} {s : List Char} : p.find? s = none ↔ ¬ p.OccursIn s := by
  rw [← find?_isSome, Option.not_isSome_iff_eq_none]

theorem find?_leftmost {p : Phrasing} {s : List Char} {numerals : List (List Char)}
    (found : p.find? s = some numerals) :
    ∃ before x after, p.LeftmostIn s before (x ++ after) ∧ Spells p.pieces x numerals := by
  rw [find?_eq_findAfter?] at found
  obtain ⟨before, _, rfl, fits, leftmost⟩ := findAfter?_leftmost found
  obtain ⟨x, after, rfl, spelt⟩ := fit?_spells fits
  rw [List.nil_append] at fits
  have starts := fit?_isSome.mp (congrArg Option.isSome fits)
  exact ⟨before, x, after, ⟨rfl, starts, by simpa using leftmost⟩, spelt⟩

end Phrasing

/-! ## Phrase books -/

theorem PhraseGroup.firstFit?_eq_none {group : PhraseGroup} {s : List Char} :
    group.firstFit? s = none ↔ ∀ p ∈ group.phrasings, ¬ p.OccursIn s := by
  simp only [firstFit?, List.findSome?_eq_none_iff, Option.map_eq_none_iff,
    Phrasing.find?_eq_none]

namespace PhraseBook

/-- Of all phrasings of the book that occur in `s`, `phrasing` of `group` is the
    first, group by group and phrasing by phrasing. -/
structure Commits (book : PhraseBook) (s : List Char) (group : PhraseGroup)
    (phrasing : Phrasing) : Prop where
  group_first : ∃ earlier later, book.groups = earlier ++ group :: later ∧
    ∀ other ∈ earlier, ∀ p ∈ other.phrasings, ¬ p.OccursIn s
  phrasing_first : ∃ earlier later, group.phrasings = earlier ++ phrasing :: later ∧
    ∀ p ∈ earlier, ¬ p.OccursIn s

theorem firstFit?_eq_none {book : PhraseBook} {s : List Char} :
    book.firstFit? s = none ↔
      ∀ group ∈ book.groups, ∀ p ∈ group.phrasings, ¬ p.OccursIn s := by
  simp only [firstFit?, List.findSome?_eq_none_iff, PhraseGroup.firstFit?_eq_none]

theorem firstFit?_commits {book : PhraseBook} {s : List Char} {fit : Fit}
    (found : book.firstFit? s = some fit) :
    ∃ group before x after, fit.operation = group.operation ∧
      book.Commits s group fit.phrasing ∧
      fit.phrasing.LeftmostIn s before (x ++ after) ∧
      Spells fit.phrasing.pieces x fit.numerals := by
  -- Both searches stop at their first success, so what they passed does not occur.
  obtain ⟨earlier, group, later, groups, fitting, skipped⟩ := List.findSome?_eq_some_iff.mp found
  obtain ⟨before, phrasing, rest, phrasings, made, passed⟩ :=
    List.findSome?_eq_some_iff.mp fitting
  obtain ⟨numerals, foundHere, rfl⟩ := Option.map_eq_some_iff.mp made
  obtain ⟨start, x, after, leftmost, spelt⟩ := Phrasing.find?_leftmost foundHere
  have commits : book.Commits s group phrasing :=
    { group_first :=
        ⟨earlier, later, groups, fun other member =>
          PhraseGroup.firstFit?_eq_none.mp (skipped other member)⟩
      phrasing_first :=
        ⟨before, rest, phrasings, fun p member =>
          Phrasing.find?_eq_none.mp (Option.map_eq_none_iff.mp (passed p member))⟩ }
  exact ⟨group, start, x, after, rfl, commits, leftmost, spelt⟩

theorem understands_iff {book : PhraseBook} {text : String} :
    book.understands text = true ↔
      ∃ group ∈ book.groups, ∃ p ∈ group.phrasings, p.OccursIn (Text.lower text.toList) := by
  rw [understands, ← not_iff_not, Option.not_isSome_iff_eq_none, firstFit?_eq_none]
  push Not
  rfl

/-- A question is understood exactly if a text of the declared language of some
    phrasing begins somewhere in it.  It is then read by the first phrasing of the
    first group of which that is so, where that phrasing first begins. -/
theorem reading_follows_grammar (book : PhraseBook) (text : String) :
    (book.understands text = true ↔
      ∃ group ∈ book.groups, ∃ p ∈ group.phrasings, p.OccursIn (Text.lower text.toList)) ∧
    (book.understands text = true →
      ∃ group phrasing before x after numerals,
        book.Commits (Text.lower text.toList) group phrasing ∧
        phrasing.LeftmostIn (Text.lower text.toList) before (x ++ after) ∧
        Spells phrasing.pieces x numerals ∧
        book.read text =
          (Fit.operands { operation := group.operation, phrasing, numerals }).map fun operands =>
            some
              { operation := group.operation
                operands := completeOperands group.operation operands
                question := text }) := by
  refine ⟨understands_iff, fun understood => ?_⟩
  obtain ⟨fit, found⟩ := Option.isSome_iff_exists.mp understood
  obtain ⟨group, before, x, after, named, commits, leftmost, spelt⟩ := firstFit?_commits found
  refine ⟨group, fit.phrasing, before, x, after, fit.numerals, commits, leftmost, spelt, ?_⟩
  simp only [read, found, ← named]

/-- The standard book reads a square root, and not the square before it. -/
theorem reading_follows_grammar_root :
    standard.understands "Square root of -2.5" = true ∧
      ∃ group phrasing before x after numerals,
        standard.Commits (Text.lower "Square root of -2.5".toList) group phrasing ∧
        phrasing.LeftmostIn (Text.lower "Square root of -2.5".toList) before (x ++ after) ∧
        Spells phrasing.pieces x numerals ∧
        standard.read "Square root of -2.5" =
          (Fit.operands { operation := group.operation, phrasing, numerals }).map fun operands =>
            some
              { operation := group.operation
                operands := completeOperands group.operation operands
                question := "Square root of -2.5" } :=
  have understood : standard.understands "Square root of -2.5" = true := by decide +kernel
  ⟨understood, (reading_follows_grammar standard "Square root of -2.5").2 understood⟩

end PhraseBook

end Reckoner
