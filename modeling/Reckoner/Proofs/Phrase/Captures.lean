import Reckoner.Proofs.Phrase.Operands

/-! # Where the numerals of a fit stand

A fit tells which numerals it captures.  Here it also tells where in the text they stand,
and which numeral of the phrasing captured each of them:

* `Capture` — a numeral in a text, with what stands before and after it.
* `capturesFrom`, `Phrasing.Captures` — the captures of a fit, and of the leftmost fit.
* `Takes`, `capturesFrom_takes` — a piece that needs nothing after it takes all that it can.
* `Takes.exists_slot` — the place of a capture in the phrasing.
* `Request.IsReadFrom`, `PhraseBook.exists_isReadFrom` — a request is made of captures.
-/

namespace Reckoner

/-! ## Captures -/

/-- A numeral in a text. -/
structure Capture where
  before : List Char
  numeral : List Char
  after : List Char
deriving DecidableEq

namespace Capture

def In (c : Capture) (s : List Char) : Prop :=
  s = c.before ++ c.numeral ++ c.after

/-- The first numeral ends before the second begins. -/
def Precedes (c d : Capture) : Prop :=
  c.before ++ c.numeral <+: d.before

def value (c : Capture) : Binary64 :=
  Binary64.read c.numeral

end Capture

/-- What the first way to fit the pieces to the start of `s` captures, where `s` follows
    `before`. -/
def capturesFrom : List Piece → (before s : List Char) → Option (List Capture)
  | [], _, _ => some []
  | piece :: pieces, before, s =>
      (piece.rests s).findSome? fun rest =>
        (capturesFrom pieces (before ++ takenBefore s rest) rest).map fun captures =>
          if piece.captures then ⟨before, takenBefore s rest, rest⟩ :: captures else captures

/-- The captures are the numerals that matching finds. -/
theorem capturesFrom_numerals (pieces : List Piece) (before s : List Char) :
    (capturesFrom pieces before s).map (·.map Capture.numeral) = matchPieces pieces s := by
  induction pieces generalizing before s with
  | nil => rfl
  | cons piece pieces ih =>
    rw [capturesFrom, matchPieces, List.map_findSome?]
    congr 1
    funext rest
    rw [← ih (before ++ takenBefore s rest) rest, Function.comp_apply, Option.map_map,
      Option.map_map]
    congr 1
    funext captures
    cases piece.captures <;> rfl

/-! ## Fits with their places -/

/-- Whether nothing at all fits the piece. -/
def Piece.isOptional : Piece → Bool
  | blanks => true
  | oneOf spellings => spellings.contains ""
  | numeral => false

/-- `Takes pieces before s captures` says that the pieces, one after another, take the start
    of `s`, which follows `before`.  A piece that only optional ones follow ends at the first
    place where it can end. -/
inductive Takes : List Piece → (before s : List Char) → List Capture → Prop where
  | nil {before s : List Char} : Takes [] before s []
  | cons {piece : Piece} {pieces : List Piece} {before part rest : List Char}
      {captures : List Capture} :
      part ∈ piece.language →
        (pieces.all Piece.isOptional = true → (piece.rests (part ++ rest)).head? = some rest) →
          Takes pieces (before ++ part) rest captures →
            Takes (piece :: pieces) before (part ++ rest)
              (if piece.captures then ⟨before, part, rest⟩ :: captures else captures)

theorem spells_nil_of_optional {pieces : List Piece}
    (optional : pieces.all Piece.isOptional = true) : Spells pieces [] [] := by
  induction pieces with
  | nil => exact .nil
  | cons piece pieces ih =>
    obtain ⟨here, later⟩ := Bool.and_eq_true_iff.mp (List.all_cons ▸ optional)
    have spelt := ih later
    cases piece with
    | blanks =>
      have nothing : [] ∈ Piece.blanks.language := mem_blanks_language.mpr nofun
      exact .cons nothing spelt
    | oneOf spellings =>
      have nothing : [] ∈ (Piece.oneOf spellings).language :=
        ⟨"", by simpa [Piece.isOptional] using here, rfl⟩
      exact .cons nothing spelt
    | numeral => cases here

theorem capturesFrom_isSome_of_optional {pieces : List Piece}
    (optional : pieces.all Piece.isOptional = true) (before s : List Char) :
    (capturesFrom pieces before s).isSome = true := by
  have matched := matchPieces_isSome (spells_nil_of_optional optional) s
  rwa [List.nil_append, ← capturesFrom_numerals pieces before s, Option.isSome_map] at matched

theorem capturesFrom_takes {pieces : List Piece} {before s : List Char} {captures : List Capture}
    (found : capturesFrom pieces before s = some captures) : Takes pieces before s captures := by
  induction pieces generalizing before s captures with
  | nil =>
    cases found
    exact .nil
  | cons piece pieces ih =>
    obtain ⟨skipped, rest, later, ends, fits, failed⟩ := List.findSome?_eq_some_iff.mp found
    obtain ⟨others, foundLater, rfl⟩ := Option.map_eq_some_iff.mp fits
    have isEnd : rest ∈ piece.rests s := by simp [ends]
    obtain ⟨part, inPiece, rfl⟩ := Piece.mem_rests.mp isEnd
    rw [takenBefore_append] at foundLater ⊢
    refine .cons inPiece (fun optional => ?_) (ih foundLater)
    -- What follows fits anywhere, so no earlier end was tried in vain.
    cases skipped with
    | nil => rw [ends]; rfl
    | cons first skipped =>
      have refused := Option.map_eq_none_iff.mp (failed first List.mem_cons_self)
      have fitted := capturesFrom_isSome_of_optional optional
        (before ++ takenBefore (part ++ rest) first) first
      simp [refused] at fitted

/-! ## The captures of a fit -/

/-- The capture stands where a numeral of the pieces does that `front` comes before and
    `back` after, in a fit that begins after `start`. -/
structure Capture.FitsBetween (c : Capture) (start : List Char) (front back : List Piece) :
    Prop where
  before : ∃ x ∈ language front, c.before = start ++ x
  isNumeral : IsNumeral c.numeral
  after : ∃ y ∈ language back, y <+: c.after
  greedy : back.all Piece.isOptional = true →
    (Piece.numeral.rests (c.numeral ++ c.after)).head? = some c.after

theorem Capture.FitsBetween.cons {c : Capture} {start part : List Char} {piece : Piece}
    {front back : List Piece} (fits : c.FitsBetween (start ++ part) front back)
    (taken : part ∈ piece.language) : c.FitsBetween start (piece :: front) back where
  before := by
    obtain ⟨x, inFront, split⟩ := fits.before
    exact ⟨part ++ x, mem_language_cons.mpr ⟨part, taken, x, inFront, rfl⟩, by simp [split]⟩
  isNumeral := fits.isNumeral
  after := fits.after
  greedy := fits.greedy

namespace Takes

variable {pieces : List Piece} {before s : List Char} {captures : List Capture}

theorem exists_prefix (takes : Takes pieces before s captures) :
    ∃ y ∈ language pieces, y <+: s := by
  induction takes with
  | nil => exact ⟨[], mem_language_nil.mpr rfl, List.nil_prefix⟩
  | @cons piece pieces before part rest captures fits _ _ ih =>
    obtain ⟨y, inPieces, isPrefix⟩ := ih
    exact ⟨part ++ y, mem_language_cons.mpr ⟨part, fits, y, inPieces, rfl⟩,
      (List.prefix_append_right_inj part).mpr isPrefix⟩

theorem length_captures (takes : Takes pieces before s captures) :
    captures.length = pieces.countP Piece.captures := by
  induction takes with
  | nil => rfl
  | @cons piece pieces before part rest captures _ _ _ ih =>
    cases isCaptured : piece.captures <;> simp [isCaptured, ih]

/-- Each capture is that of a numeral of the pieces, and the first is that of the first. -/
theorem exists_slot (takes : Takes pieces before s captures) {i : Nat} {c : Capture}
    (here : captures[i]? = some c) :
    c.In (before ++ s) ∧ ∃ front back, pieces = front ++ .numeral :: back ∧
      front.countP Piece.captures = i ∧ c.FitsBetween before front back := by
  induction takes generalizing i with
  | nil => cases here
  | @cons piece pieces before part rest captures fits greedy later ih =>
    have shifted {j : Nat} (there : captures[j]? = some c) :
        c.In (before ++ (part ++ rest)) ∧ ∃ front back, pieces = front ++ .numeral :: back ∧
          front.countP Piece.captures = j ∧ c.FitsBetween before (piece :: front) back := by
      obtain ⟨isIn, front, back, split, count, between⟩ := ih there
      rw [← List.append_assoc]
      exact ⟨isIn, front, back, split, count, between.cons fits⟩
    cases isCaptured : piece.captures with
    | false =>
      rw [isCaptured] at here
      obtain ⟨isIn, front, back, rfl, count, between⟩ := shifted here
      exact ⟨isIn, piece :: front, back, rfl, by simp [isCaptured, count], between⟩
    | true =>
      obtain rfl : piece = .numeral := by cases piece <;> first | rfl | cases isCaptured
      cases i with
      | zero =>
        cases here
        exact ⟨(List.append_assoc ..).symm, [], pieces, rfl, rfl,
          { before := ⟨[], mem_language_nil.mpr rfl, by simp⟩
            isNumeral := mem_numeral_language.mp fits
            after := later.exists_prefix
            greedy := greedy }⟩
      | succ j =>
        obtain ⟨isIn, front, back, rfl, count, between⟩ := shifted here
        exact ⟨isIn, .numeral :: front, back, rfl, by simp [isCaptured, count], between⟩

theorem pairwise (takes : Takes pieces before s captures) :
    captures.Pairwise Capture.Precedes := by
  induction takes with
  | nil => exact .nil
  | @cons piece pieces before part rest captures _ _ later ih =>
    cases isCaptured : piece.captures with
    | false => exact ih
    | true =>
      refine List.pairwise_cons.mpr ⟨fun d member => ?_, ih⟩
      obtain ⟨j, there⟩ := List.mem_iff_getElem?.mp member
      obtain ⟨_, front, back, _, _, between⟩ := later.exists_slot there
      obtain ⟨x, _, split⟩ := between.before
      exact ⟨x, split.symm⟩

end Takes

/-! ## The captures of a phrasing -/

/-- What the phrasing captures in `s`, where it fits first. -/
def Phrasing.Captures (p : Phrasing) (s : List Char) (captures : List Capture) : Prop :=
  ∃ before after, p.LeftmostIn s before after ∧ capturesFrom p.pieces before after = some captures

theorem Phrasing.find?_captures {p : Phrasing} {s : List Char} {numerals : List (List Char)}
    (found : p.find? s = some numerals) :
    ∃ captures, p.Captures s captures ∧ captures.map Capture.numeral = numerals := by
  rw [find?_eq_findAfter?] at found
  obtain ⟨before, after, rfl, fits, leftmost⟩ := findAfter?_leftmost found
  rw [List.nil_append] at fits
  have starts := fit?_isSome.mp (congrArg Option.isSome fits)
  have matched : matchPieces p.pieces after = some numerals := by
    unfold fit? at fits
    split at fits
    · cases fits
    · exact fits
  rw [← capturesFrom_numerals p.pieces before after] at matched
  obtain ⟨captures, found, numerals⟩ := Option.map_eq_some_iff.mp matched
  exact ⟨captures, ⟨before, after, ⟨rfl, starts, by simpa using leftmost⟩, found⟩, numerals⟩

/-- Where the phrasing fits first in `s`, and what it captures there. -/
def Phrasing.captures? (p : Phrasing) (s : List Char) : Option (List Capture) :=
  ((List.range (s.length + 1)).find? fun n => (p.fit? (s.take n).getLast? (s.drop n)).isSome).bind
    fun n => capturesFrom p.pieces (s.take n) (s.drop n)

theorem Phrasing.captures?_sound {p : Phrasing} {s : List Char} {captures : List Capture}
    (found : p.captures? s = some captures) : p.Captures s captures := by
  obtain ⟨n, first, found⟩ := Option.bind_eq_some_iff.mp found
  obtain ⟨fits, _, skipped⟩ := List.find?_range_eq_some.mp first
  refine ⟨s.take n, s.drop n, ⟨(List.take_append_drop n s).symm, fit?_isSome.mp fits, ?_⟩, found⟩
  intro earlier later split starts
  by_contra sooner
  have before : earlier.length < n := by
    rw [List.length_take] at sooner
    omega
  have refused := skipped earlier.length before
  rw [split, List.take_left, List.drop_left, fit?_isSome.mpr starts] at refused
  cases refused

namespace PhraseBook

theorem find?_of_firstFit? {book : PhraseBook} {s : List Char} {fit : Fit}
    (found : book.firstFit? s = some fit) : fit.phrasing.find? s = some fit.numerals := by
  obtain ⟨group, _, fits⟩ := List.exists_of_findSome?_eq_some found
  obtain ⟨phrasing, _, fits⟩ := List.exists_of_findSome?_eq_some fits
  obtain ⟨numerals, captured, rfl⟩ := Option.map_eq_some_iff.mp fits
  exact captured

/-- The phrasing whose operands are written in the reverse of their order. -/
def subtractFrom : Phrasing :=
  { linked ["subtract"] ["from"] with isReversed := true }

theorem isReversed_iff {operation : Operation} {p : Phrasing} (member : p ∈ phrasings operation) :
    p.isReversed = true ↔ p = subtractFrom := by
  revert p
  cases operation <;> decide

end PhraseBook

/-! ## Requests and captures -/

/-- The operands that an operation has without their being written: a square has the
    exponent two, and a cube three. -/
def Operation.unwritten : Operation → List Binary64
  | square => [2]
  | cube => [3]
  | _ => []

theorem Operation.impliedExponent?_toList (operation : Operation) :
    operation.impliedExponent?.toList = operation.unwritten := by
  cases operation <;> rfl

/-- The request asks for the operation in whose phrasing the text is read, on the numbers of
    what this phrasing captures. -/
structure Request.IsReadFrom (request : Request) (text : String) (operation : Operation)
    (phrasing : Phrasing) (captures : List Capture) : Prop where
  question : request.question = text
  named : request.operation = operation.name
  commits : PhraseBook.standard.Commits (Text.lower text.toList) (PhraseBook.group operation)
    phrasing
  captured : phrasing.Captures (Text.lower text.toList) captures
  operands : request.operands =
    (if phrasing = PhraseBook.subtractFrom then (captures.map Capture.value).reverse
      else captures.map Capture.value) ++ operation.unwritten

namespace PhraseBook

theorem mem_phrasings_of_commits {s : List Char} {operation : Operation} {phrasing : Phrasing}
    (commits : standard.Commits s (group operation) phrasing) : phrasing ∈ phrasings operation := by
  obtain ⟨_, _, inGroup, _⟩ := commits.phrasing_first
  show phrasing ∈ (group operation).phrasings
  simp [inGroup]

theorem exists_isReadFrom {text : String} {request : Request}
    (read : standard.read text = .ok (some request)) :
    ∃ operation phrasing captures, request.IsReadFrom text operation phrasing captures := by
  obtain ⟨fit, operands, found, taken, rfl⟩ := exists_fit_of_read read
  obtain ⟨operation, named, commits, member, count⟩ := standard_firstFit? found
  obtain ⟨captures, captured, numerals⟩ := Phrasing.find?_captures (find?_of_firstFit? found)
  rw [← Fit.length_operands taken] at count
  refine ⟨operation, fit.phrasing, captures,
    { question := rfl, named, commits, captured, operands := ?_ }⟩
  have values : captures.map Capture.value = fit.numerals.map Binary64.read := by
    rw [← numerals, List.map_map]
    rfl
  show completeOperands fit.operation operands = _
  rw [named, completeOperands_of_captured count, operation.impliedExponent?_toList,
    (Fit.operands_eq_ok taken).1, values]
  simp only [isReversed_iff member]

end PhraseBook

end Reckoner
