import Reckoner.Proofs.Phrase.Operands
import Reckoner.Proofs.Phrase.Sketch

/-! # What is certain to be found

A sketch can settle how every one of its texts is read: no phrasing that comes
earlier may occur in it, and the first that may occur is certain to be found, with
numerals that are known by their places:

* `restsOfRun_stops`, `restsOfUnsigned_stops` — a piece first takes all that it can.
* `matchSketch?_sound` — pieces that are certain to fit a sketch fit its texts.
* `Phrasing.findSketch?_sound` — the same of a phrasing at its leftmost place.
* `PhraseBook.read_of_sketch` — the request that every text of a sketch makes.
-/

namespace Reckoner

/-! ## Greedy pieces -/

/-- No character with `p` comes first. -/
def Stops (p : Char → Bool) (s : List Char) : Prop :=
  ∀ c, s.head? = some c → p c = false

theorem restsOfRun_stops {p : Char → Bool} {run rest : List Char} {after : List (List Char)}
    (all : ∀ c ∈ run, p c = true) (stops : Stops p rest) :
    ∃ more, restsOfRun p (run ++ rest) after = rest :: more := by
  induction run generalizing after with
  | nil =>
    cases rest with
    | nil => exact ⟨after, rfl⟩
    | cons c rest =>
      have notHolds : p c = false := stops c rfl
      exact ⟨after, by simp [restsOfRun, notHolds]⟩
  | cons c run ih =>
    obtain ⟨holds, others⟩ := List.forall_mem_cons.mp all
    rw [List.cons_append, restsOfRun, if_pos holds]
    exact ih others

theorem Stops.mono {p q : Char → Bool} {s : List Char} (stops : Stops q s)
    (weaker : ∀ c, p c = true → q c = true) : Stops p s := by
  intro c isHead
  by_contra holds
  have contrary := weaker c (by simpa using holds)
  simp [stops c isHead] at contrary

theorem restsOfUnsigned_stops {x rest : List Char} {after : List (List Char)}
    (unsigned : IsUnsigned x) (stops : Stops isDigitOrPoint rest) :
    ∃ more, restsOfUnsigned (x ++ rest) after = rest :: more := by
  obtain ⟨c, whole, fraction, rfl, digit, wholeDigits, fractional⟩ := unsigned
  induction whole generalizing c after with
  | nil =>
    -- After its digits the numeral ends, or takes a point and the digits after it.
    rcases fractional with rfl | ⟨run, rfl, runDigits⟩
    · cases rest with
      | nil => exact ⟨after, by simp [restsOfUnsigned, digit]⟩
      | cons d rest =>
        have notIn : isDigitOrPoint d = false := stops d rfl
        obtain ⟨notDigit, notPoint⟩ : isDigit d = false ∧ d ≠ '.' := by
          simpa [isDigitOrPoint] using notIn
        exact ⟨after, by simp [restsOfUnsigned, digit, notDigit]⟩
    · have stopsDigits : Stops isDigit rest := stops.mono fun _ => isDigitOrPoint_of_isDigit
      obtain ⟨more, ends⟩ := restsOfRun_stops runDigits stopsDigits
      refine ⟨more, ?_⟩
      simpa [restsOfUnsigned, digit] using ends
  | cons d whole ih =>
    obtain ⟨first, others⟩ := List.forall_mem_cons.mp wholeDigits
    have notPoint : d ≠ '.' := by
      rintro rfl
      cases first
    obtain ⟨more, ends⟩ := ih d first others
    refine ⟨more, ?_⟩
    simpa [restsOfUnsigned, digit, first, notPoint] using ends

theorem rests_numeral_stops {x rest : List Char} (numeral : IsNumeral x)
    (stops : Stops isDigitOrPoint rest) :
    ∃ more, Piece.numeral.rests (x ++ rest) = rest :: more := by
  rcases numeral with unsigned | ⟨_, rfl, unsigned⟩
  · obtain ⟨c, tail, rfl, digit, _⟩ := unsigned.characters
    have notSign : c ≠ '-' := by
      rintro rfl
      cases digit
    rw [List.cons_append, rests_numeral_cons notSign, ← List.cons_append]
    exact restsOfUnsigned_stops unsigned stops
  · exact restsOfUnsigned_stops unsigned stops

/-! ## Matching a sketch -/

def Sketch.skipGap : Sketch → Sketch
  | .gap :: sketch => sketch
  | sketch => sketch

def Sketch.dropWord? : List Char → Sketch → Option Sketch
  | [], sketch => some sketch
  | c :: word, .char d :: sketch => if c = d then dropWord? word sketch else none
  | _, _ => none

/-- The first spelling that the texts of a sketch are certain to go on from, if no
    earlier one may fit: `certain` says what is captured after it, and `possible`
    whether anything may be. -/
def firstSpelling? (certain : Sketch → Option (List Place)) (possible : Sketch → Bool)
    (sketch : Sketch) : List String → Option (List Place)
  | [] => none
  | spelling :: others =>
      match (sketch.dropWord? spelling.toList).bind certain with
      | some places => some places
      | none =>
          if (advanceWord spelling.toList sketch).any possible then none
          else firstSpelling? certain possible sketch others

/-- The places of the numerals that the pieces capture in every text of a sketch, as
    far as that is certain. -/
def matchSketch? : List Piece → Sketch → Option (List Place)
  | [], _ => some []
  | .blanks :: pieces, sketch =>
      if (advance .blank sketch.skipGap).isEmpty then matchSketch? pieces sketch.skipGap
      else none
  | .oneOf spellings :: pieces, sketch =>
      firstSpelling? (matchSketch? pieces) (mayMatch pieces) sketch spellings
  | .numeral :: pieces, .numeral place :: sketch =>
      if (advance .digitOrPoint sketch).isEmpty then
        (matchSketch? pieces sketch).map (place :: ·)
      else none
  | .numeral :: _, _ => none

/-- A piece that takes a part, and with it all that it can. -/
theorem matchPieces_of_rests {piece : Piece} {pieces : List Piece} {part rest : List Char}
    {more : List (List Char)} {numerals : List (List Char)}
    (ends : piece.rests (part ++ rest) = rest :: more)
    (found : matchPieces pieces rest = some numerals) :
    matchPieces (piece :: pieces) (part ++ rest) =
      some (if piece.captures then part :: numerals else numerals) := by
  rw [matchPieces, ends, List.findSome?_cons, found]
  simp only [Option.map_some, takenBefore_append]

theorem matchPieces_oneOf_cons {spelling : String} {others : List String} {pieces : List Piece}
    {s : List Char} :
    matchPieces (.oneOf (spelling :: others) :: pieces) s =
      (if spelling.toList.isPrefixOf s then matchPieces pieces (s.drop spelling.length)
        else none).or (matchPieces (.oneOf others :: pieces) s) := by
  simp only [matchPieces, Piece.rests, Piece.captures, Bool.false_eq_true, if_false,
    Option.map_id', List.filterMap_cons]
  by_cases fits : spelling.toList.isPrefixOf s = true
  · simp only [fits, if_true, List.findSome?_cons]
    cases matchPieces pieces (s.drop spelling.length) <;> rfl
  · rw [if_neg fits]
    simp [fits]

section Sound

variable {operands : Place → List Char}

theorem Sketch.skipGap_covers {sketch : Sketch} {s : List Char}
    (covers : sketch.Covers operands s) :
    ∃ part rest, s = part ++ rest ∧ (∀ c ∈ part, Text.isBlank c = true) ∧
      sketch.skipGap.Covers operands rest := by
  unfold skipGap
  split
  next sketch =>
    obtain ⟨part, rest, rfl, blank, others⟩ := covers
    exact ⟨part, rest, rfl, blank, others⟩
  · exact ⟨[], s, rfl, by simp, covers⟩

theorem Sketch.dropWord?_covers {sketch after : Sketch} {word s : List Char}
    (drops : sketch.dropWord? word = some after) (covers : sketch.Covers operands s) :
    ∃ rest, s = word ++ rest ∧ after.Covers operands rest := by
  fun_induction dropWord? word sketch generalizing s with
  | case1 sketch =>
    cases drops
    exact ⟨s, rfl, covers⟩
  | case2 c word sketch ih =>
    obtain ⟨_, rest, rfl, rfl, others⟩ := covers
    obtain ⟨rest, rfl, covers⟩ := ih drops others
    exact ⟨rest, rfl, covers⟩
  | case3 => cases drops
  | case4 => cases drops

variable (numerals : ∀ place, IsNumeral (operands place))
include numerals

theorem stops_of_advance {sketch : Sketch} {k : CharClass} {s : List Char}
    (noMore : (advance k sketch).isEmpty = true) (covers : sketch.Covers operands s) :
    Stops k.holds s := by
  intro c isHead
  obtain ⟨rest, rfl⟩ := List.head?_eq_some_iff.mp isHead
  by_contra holds
  obtain ⟨next, member, _⟩ := advance_sound numerals covers (by simpa using holds)
  rw [List.isEmpty_iff.mp noMore] at member
  cases member

theorem matchPieces_eq_none {sketch : Sketch} {pieces : List Piece} {s : List Char}
    (impossible : ¬ mayMatch pieces sketch = true) (covers : sketch.Covers operands s) :
    matchPieces pieces s = none := by
  by_contra found
  obtain ⟨captured, found⟩ := Option.ne_none_iff_exists'.mp found
  obtain ⟨x, rest, rfl, spelt⟩ := matchPieces_spells found
  exact impossible (mayMatch_sound numerals covers (mem_language_iff.mpr ⟨captured, spelt⟩))

theorem firstSpelling?_sound {pieces : List Piece} {sketch : Sketch} {spellings : List String}
    {s : List Char} {places : List Place}
    (sound : ∀ {sketch : Sketch} {s : List Char} {places : List Place},
      matchSketch? pieces sketch = some places → sketch.Covers operands s →
        matchPieces pieces s = some (places.map operands))
    (certain : firstSpelling? (matchSketch? pieces) (mayMatch pieces) sketch spellings =
      some places)
    (covers : sketch.Covers operands s) :
    matchPieces (.oneOf spellings :: pieces) s = some (places.map operands) := by
  induction spellings with
  | nil => cases certain
  | cons spelling others ih =>
    rw [matchPieces_oneOf_cons]
    rw [firstSpelling?] at certain
    split at certain
    next here matched =>
      -- This spelling comes next, and the pieces after it fit.
      cases certain
      obtain ⟨after, drops, matched⟩ := Option.bind_eq_some_iff.mp matched
      obtain ⟨rest, rfl, coversRest⟩ := Sketch.dropWord?_covers drops covers
      have isPrefix : spelling.toList.isPrefixOf (spelling.toList ++ rest) = true := by simp
      rw [if_pos isPrefix, ← String.length_toList, List.drop_left, sound matched coversRest]
      rfl
    next =>
      split at certain
      · cases certain
      next impossible =>
        -- Wherever this spelling comes next, the pieces after it do not fit.
        have skipped : (if spelling.toList.isPrefixOf s then
            matchPieces pieces (s.drop spelling.length) else none) = none := by
          split
          next fits =>
            obtain ⟨rest, rfl⟩ := List.isPrefixOf_iff_prefix.mp fits
            obtain ⟨next, member, covers⟩ := advanceWord_sound numerals covers
            rw [← String.length_toList, List.drop_left]
            refine matchPieces_eq_none numerals (fun possible => ?_) covers
            exact impossible (List.any_eq_true.mpr ⟨next, member, possible⟩)
          next => rfl
        rw [skipped, Option.none_or]
        exact ih certain

theorem matchSketch?_sound {pieces : List Piece} {sketch : Sketch} {s : List Char}
    {places : List Place} (certain : matchSketch? pieces sketch = some places)
    (covers : sketch.Covers operands s) :
    matchPieces pieces s = some (places.map operands) := by
  induction pieces generalizing sketch s places with
  | nil =>
    cases certain
    rfl
  | cons piece pieces ih =>
    cases piece with
    | blanks =>
      obtain ⟨noMore, certain⟩ : (advance .blank sketch.skipGap).isEmpty = true ∧
          matchSketch? pieces sketch.skipGap = some places := by
        simpa [matchSketch?] using certain
      obtain ⟨part, rest, rfl, blank, covers⟩ := Sketch.skipGap_covers covers
      -- No blank comes after the gap, so all of it is taken at first.
      obtain ⟨more, ends⟩ := restsOfRun_stops blank (stops_of_advance numerals noMore covers)
      exact matchPieces_of_rests ends (ih certain covers)
    | oneOf spellings => exact firstSpelling?_sound numerals ih certain covers
    | numeral =>
      cases sketch with
      | nil => cases certain
      | cons symbol sketch =>
        cases symbol with
        | char c => cases certain
        | gap => cases certain
        | digits => cases certain
        | numeral place =>
          obtain ⟨noMore, later, certainLater, rfl⟩ :
              (advance .digitOrPoint sketch).isEmpty = true ∧
                ∃ later, matchSketch? pieces sketch = some later ∧ place :: later = places := by
            simpa [matchSketch?] using certain
          obtain ⟨_, rest, rfl, rfl, covers⟩ := covers
          obtain ⟨more, ends⟩ :=
            rests_numeral_stops (numerals place) (stops_of_advance numerals noMore covers)
          exact matchPieces_of_rests ends (ih certainLater covers)

end Sound

/-! ## Phrasings and books -/

namespace Phrasing

def isBoundary (before after : Option Symbol) : Bool :=
  match isWordSymbol? before, isWordSymbol? after with
  | some wordBefore, some wordAfter => wordBefore != wordAfter
  | _, _ => false

/-- The places of the numerals that the phrasing captures at the start of every text of
    a sketch, as far as that is certain. -/
def fitSketch? (p : Phrasing) (before : Option Symbol) (sketch : Sketch) :
    Option (List Place) :=
  if p.atBoundary && !isBoundary before sketch.head? then none
  else matchSketch? p.pieces sketch

/-- The places of the numerals of the leftmost fit in every text of a sketch, as far as
    that is certain.  Only fixed characters are gone past. -/
def findSketch? (p : Phrasing) : (before : Option Symbol) → Sketch → Option (List Place)
  | before, [] => p.fitSketch? before []
  | before, symbol :: sketch =>
      if p.mayStart before (symbol :: sketch) then p.fitSketch? before (symbol :: sketch)
      else
        match symbol with
        | .char c => p.findSketch? (some (.char c)) sketch
        | _ => none

end Phrasing

structure SketchFit where
  operation : String
  phrasing : Phrasing
  places : List Place
deriving DecidableEq

/-- The places of the operands, in the order of the operation. -/
def SketchFit.inOrder (fit : SketchFit) : List Place :=
  if fit.phrasing.isReversed then fit.places.reverse else fit.places

/-- The first of some phrasings that may occur in a sketch, if it is certain to be
    found. -/
def firstSketchFit? (sketch : Sketch) : List (String × Phrasing) → Option SketchFit
  | [] => none
  | (operation, phrasing) :: others =>
      if phrasing.mayOccur sketch then
        (phrasing.findSketch? none sketch).map fun places => { operation, phrasing, places }
      else firstSketchFit? sketch others

namespace PhraseBook

def entries (book : PhraseBook) : List (String × Phrasing) :=
  book.groups.flatMap fun group => group.phrasings.map fun phrasing => (group.operation, phrasing)

theorem firstFit?_eq_findSome? (book : PhraseBook) (s : List Char) :
    book.firstFit? s = book.entries.findSome? fun entry =>
      (entry.2.find? s).map fun numerals =>
        { operation := entry.1, phrasing := entry.2, numerals } := by
  obtain ⟨groups⟩ := book
  simp only [firstFit?, entries]
  induction groups with
  | nil => rfl
  | cons group groups ih =>
    rw [List.findSome?_cons, List.flatMap_cons, List.findSome?_append, List.findSome?_map, ih]
    simp only [PhraseGroup.firstFit?, Function.comp_def]
    cases List.findSome? _ group.phrasings <;> rfl

end PhraseBook

section Sound

variable {operands : Place → List Char} (numerals : ∀ place, IsNumeral (operands place))
include numerals

theorem Phrasing.fitSketch?_sound {p : Phrasing} {before : Option Symbol} {sketch : Sketch}
    {b : Option Char} {s : List Char} {places : List Place}
    (certain : p.fitSketch? before sketch = some places) (covers : sketch.Covers operands s)
    (agrees : Agrees before b) : p.fit? b s = some (places.map operands) := by
  obtain ⟨bounded, certain⟩ : ¬ (p.atBoundary && !isBoundary before sketch.head?) = true ∧
      matchSketch? p.pieces sketch = some places := by
    simpa [fitSketch?] using certain
  have boundary : (p.atBoundary && !atWordBoundary b s.head?) = false := by
    cases asks : p.atBoundary with
    | false => rfl
    | true =>
      have isBoundary : isBoundary before sketch.head? = true := by simpa [asks] using bounded
      unfold Phrasing.isBoundary at isBoundary
      split at isBoundary
      next wordBefore wordAfter knownBefore knownAfter =>
        simpa [atWordBoundary, agrees _ knownBefore, agrees_head? covers _ knownAfter]
          using isBoundary
      next => cases isBoundary
  rw [fit?, boundary]
  exact matchSketch?_sound numerals certain covers

theorem Phrasing.findSketch?_sound {p : Phrasing} {before : Option Symbol} {sketch : Sketch}
    {earlier s : List Char} {places : List Place}
    (certain : p.findSketch? before sketch = some places) (covers : sketch.Covers operands s)
    (agrees : Agrees before earlier.getLast?) :
    p.findAfter? earlier.getLast? s = some (places.map operands) := by
  induction sketch generalizing before earlier s with
  | nil =>
    cases covers
    have empty : Sketch.Covers operands [] [] := rfl
    exact fitSketch?_sound numerals certain empty agrees
  | cons symbol sketch ih =>
    unfold findSketch? at certain
    split at certain
    next =>
      have fits := fitSketch?_sound numerals certain covers agrees
      cases s with
      | nil => exact fits
      | cons c s => rw [findAfter?, fits]
    next impossible =>
      split at certain
      next c =>
        -- The phrasing cannot start here, so the search goes on past the character.
        have absent : p.fit? earlier.getLast? s = none :=
          fit?_eq_none.mpr fun starts =>
            impossible (mayStart_sound numerals covers agrees starts)
        obtain ⟨_, rest, rfl, rfl, covers⟩ := covers
        have agreesNext : Agrees (some (.char c)) (earlier ++ [c]).getLast? := by
          intro known isKnown
          simpa [isWordSymbol?] using isKnown
        have onwards := ih certain covers agreesNext
        rw [List.getLast?_concat] at onwards
        rw [List.singleton_append] at absent ⊢
        rw [findAfter?, absent]
        exact onwards
      next => cases certain

theorem firstSketchFit?_sound {sketch : Sketch} {entries : List (String × Phrasing)}
    {s : List Char} {fit : SketchFit} (certain : firstSketchFit? sketch entries = some fit)
    (covers : sketch.Covers operands s) :
    (entries.findSome? fun entry =>
      (entry.2.find? s).map fun numerals =>
        ({ operation := entry.1, phrasing := entry.2, numerals } : Fit)) =
      some
        { operation := fit.operation
          phrasing := fit.phrasing
          numerals := fit.places.map operands } := by
  induction entries with
  | nil => cases certain
  | cons entry others ih =>
    obtain ⟨operation, phrasing⟩ := entry
    rw [firstSketchFit?] at certain
    rw [List.findSome?_cons]
    split at certain
    next =>
      obtain ⟨places, fits, rfl⟩ := Option.map_eq_some_iff.mp certain
      have atStart : Agrees none ([] : List Char).getLast? := fun _ => Option.some.inj
      have found : phrasing.find? s = some (places.map operands) :=
        phrasing.findSketch?_sound numerals fits covers atStart
      rw [found]
      rfl
    next impossible =>
      -- What may not occur in the sketch is not found in the text.
      have absent : phrasing.find? s = none :=
        Phrasing.find?_eq_none.mpr
          (phrasing.not_occursIn numerals covers (by simpa using impossible))
      rw [absent]
      exact ih certain

/-- The request that every text of a sketch makes whose operands are finite. -/
theorem PhraseBook.read_of_sketch {book : PhraseBook} {sketch : Sketch} {fit : SketchFit}
    {text : String} (certain : firstSketchFit? sketch book.entries = some fit)
    (covers : sketch.Covers operands (Text.lower text.toList))
    (finite : ∀ place, (Binary64.read (operands place)).isFinite = true) :
    book.read text =
      .ok (some
        { operation := fit.operation
          operands := completeOperands fit.operation
            (fit.inOrder.map fun place => Binary64.read (operands place))
          question := text }) := by
  have found := (book.firstFit?_eq_findSome? _).trans
    (firstSketchFit?_sound numerals certain covers)
  have captured : (fit.places.map operands).mapM readOperand =
      .ok (fit.places.map fun place => Binary64.read (operands place)) := by
    rw [mapM_readOperand, List.map_map]
    refine ⟨rfl, fun x member => ?_⟩
    obtain ⟨place, _, rfl⟩ := List.mem_map.mp member
    exact finite place
  simp only [read, found, Fit.operands, captured, SketchFit.inOrder]
  cases fit.phrasing.isReversed with
  | false => rfl
  | true => simp [Except.map, List.map_reverse, bind, Except.bind, pure, Except.pure]

end Sound

end Reckoner
