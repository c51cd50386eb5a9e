import Reckoner.Proofs.Phrase.Search

/-! # Where phrasings may occur

A sketch stands for all texts of one form: fixed characters, gaps of any blanks, and
numerals that are not known.  A phrasing is searched for in all of these texts at
once.  The search can report an occurrence that no text has, but it misses none:

* `Sketch.Covers` — the texts of a sketch.
* `Piece.ends_sound` — a piece that fits a text also fits its sketch.
* `mayMatch_sound` — pieces that fit a text may match its sketch.
* `Phrasing.not_occursIn` — a phrasing that may not occur in a sketch occurs in none
  of its texts.
-/

namespace Reckoner

/-! ## Sketches -/

/-- The operands that a form of question leaves open. -/
inductive Place where
  | first
  | second
deriving DecidableEq, Repr

inductive Symbol where
  | char (c : Char)
  | gap
  | numeral (place : Place)
  /-- What is left of a numeral of which characters were taken: any digits and
      points. -/
  | digits
deriving DecidableEq, Repr

/-- The form of a text. -/
abbrev Sketch := List Symbol

def isDigitOrPoint (c : Char) : Bool :=
  isDigit c || c == '.'

/-- The texts that a symbol stands for. -/
def Symbol.Covers (operands : Place → List Char) : Symbol → List Char → Prop
  | char c, s => s = [c]
  | gap, s => ∀ c ∈ s, Text.isBlank c = true
  | numeral place, s => s = operands place
  | digits, s => ∀ c ∈ s, isDigitOrPoint c = true

/-- The texts of a sketch, given the numerals at its places. -/
def Sketch.Covers (operands : Place → List Char) : Sketch → List Char → Prop
  | [], s => s = []
  | symbol :: sketch, s =>
      ∃ part rest, s = part ++ rest ∧ symbol.Covers operands part ∧
        Covers operands sketch rest

section Covers

variable {operands : Place → List Char}

theorem Sketch.Covers.append {front back : Sketch} {s t : List Char}
    (covers : Covers operands front s) (later : Covers operands back t) :
    Covers operands (front ++ back) (s ++ t) := by
  induction front generalizing s with
  | nil =>
    cases covers
    exact later
  | cons symbol front ih =>
    obtain ⟨part, rest, rfl, covered, others⟩ := covers
    exact ⟨part, rest ++ t, by simp, covered, ih others⟩

/-- A cut of a text goes through its first symbol, or comes after it. -/
theorem Sketch.covers_cons_append {symbol : Symbol} {sketch : Sketch} {x y : List Char}
    (covers : Covers operands (symbol :: sketch) (x ++ y)) :
    (∃ part rest, y = part ++ rest ∧ symbol.Covers operands (x ++ part) ∧
        Covers operands sketch rest) ∨
      ∃ part rest, x = part ++ rest ∧ symbol.Covers operands part ∧
        Covers operands sketch (rest ++ y) := by
  obtain ⟨part, rest, split, covered, others⟩ := covers
  rcases List.append_eq_append_iff.mp split with ⟨through, rfl, rfl⟩ | ⟨past, rfl, rfl⟩
  · exact .inl ⟨through, rest, rfl, covered, others⟩
  · exact .inr ⟨part, past, rfl, covered, others⟩

theorem IsUnsigned.characters {s : List Char} (unsigned : IsUnsigned s) :
    ∃ c rest, s = c :: rest ∧ isDigit c = true ∧ ∀ d ∈ rest, isDigitOrPoint d = true := by
  obtain ⟨c, whole, fraction, rfl, digit, wholeDigits, fractional⟩ := unsigned
  refine ⟨c, whole ++ fraction, rfl, digit, ?_⟩
  intro d member
  rcases List.mem_append.mp member with inWhole | inFraction
  · simp [isDigitOrPoint, wholeDigits d inWhole]
  · rcases fractional with rfl | ⟨run, rfl, runDigits⟩
    · cases inFraction
    · rcases List.mem_cons.mp inFraction with rfl | inRun
      · rfl
      · simp [isDigitOrPoint, runDigits d inRun]

theorem IsNumeral.characters {s : List Char} (numeral : IsNumeral s) :
    ∃ c rest, s = c :: rest ∧ (isDigit c = true ∨ c = '-') ∧
      ∀ d ∈ rest, isDigitOrPoint d = true := by
  rcases numeral with unsigned | ⟨_, rfl, unsigned⟩
  · obtain ⟨c, rest, rfl, digit, others⟩ := unsigned.characters
    exact ⟨c, rest, rfl, .inl digit, others⟩
  · obtain ⟨c, rest, rfl, digit, others⟩ := unsigned.characters
    refine ⟨'-', c :: rest, rfl, .inr rfl, List.forall_mem_cons.mpr ⟨?_, others⟩⟩
    simp [isDigitOrPoint, digit]

end Covers

/-! ## One symbol -/

/-- The characters that a piece asks for one at a time. -/
inductive CharClass where
  | only (c : Char)
  | blank
  | digit
  | digitOrPoint
deriving DecidableEq, Repr

def CharClass.holds : CharClass → Char → Bool
  | only c, d => d == c
  | blank, d => Text.isBlank d
  | digit, d => isDigit d
  | digitOrPoint, d => isDigitOrPoint d

namespace Symbol

def starts : Symbol → Char → Bool
  | char c, d => d == c
  | gap, d => Text.isBlank d
  | numeral _, d => isDigit d || d == '-'
  | digits, d => isDigitOrPoint d

/-- Whether a symbol may start with a character of the class. -/
def meets : Symbol → CharClass → Bool
  | symbol, .only c => symbol.starts c
  | char c, k => k.holds c
  | gap, k => k == .blank
  | numeral _, k => k != .blank
  | digits, k => k != .blank

/-- What is left of a symbol once characters were taken from its text. -/
def left : Symbol → Sketch
  | char _ => []
  | gap => [gap]
  | numeral _ => [digits]
  | digits => [digits]

def mayBeEmpty : Symbol → Bool
  | char _ => false
  | gap => true
  | numeral _ => false
  | digits => true

end Symbol

/-- The characters of numerals lie between the minus sign and the digit nine. -/
theorem toNat_bounds {c : Char} (inNumeral : isDigitOrPoint c = true ∨ c = '-') :
    45 ≤ c.toNat ∧ c.toNat ≤ 57 := by
  rcases inNumeral with digitOrPoint | rfl
  · rcases Bool.or_eq_true_iff.mp digitOrPoint with digit | point
    · simp only [isDigit, Bool.and_eq_true, decide_eq_true_eq] at digit
      omega
    · rw [eq_of_beq point]
      decide
  · decide

theorem not_isBlank {c : Char} (inNumeral : isDigitOrPoint c = true ∨ c = '-') :
    ¬ Text.isBlank c = true := by
  have bounds := toNat_bounds inNumeral
  simp only [Text.isBlank, Bool.and_eq_true, Bool.or_eq_true, decide_eq_true_eq, beq_iff_eq]
  omega

theorem isDigitOrPoint_of_isDigit {c : Char} (digit : isDigit c = true) :
    isDigitOrPoint c = true := by
  simp [isDigitOrPoint, digit]

section Sound

variable {operands : Place → List Char} (numerals : ∀ place, IsNumeral (operands place))
include numerals

theorem Symbol.starts_of_covers {symbol : Symbol} {c : Char} {s : List Char}
    (covers : symbol.Covers operands (c :: s)) : symbol.starts c = true := by
  cases symbol with
  | char d => simpa [Covers, starts] using (List.cons.inj covers).1
  | gap => exact covers c List.mem_cons_self
  | numeral place =>
    obtain ⟨d, rest, split, first, _⟩ := (numerals place).characters
    obtain ⟨rfl, rfl⟩ := List.cons.inj (covers.trans split)
    simpa [starts] using first
  | digits => exact covers c List.mem_cons_self

theorem Symbol.meets_of_covers {symbol : Symbol} {c : Char} {s : List Char} {k : CharClass}
    (covers : symbol.Covers operands (c :: s)) (holds : k.holds c = true) :
    symbol.meets k = true := by
  have starts := starts_of_covers numerals covers
  cases symbol with
  | char d =>
    obtain rfl : c = d := eq_of_beq starts
    cases k with
    | only e =>
      obtain rfl : c = e := eq_of_beq holds
      exact starts
    | blank => exact holds
    | digit => exact holds
    | digitOrPoint => exact holds
  | gap =>
    cases k with
    | only d => exact eq_of_beq holds ▸ starts
    | blank => rfl
    | digit => exact absurd starts (not_isBlank (.inl (isDigitOrPoint_of_isDigit holds)))
    | digitOrPoint => exact absurd starts (not_isBlank (.inl holds))
  | numeral place =>
    cases k with
    | only d => exact eq_of_beq holds ▸ starts
    | blank =>
      have inNumeral : isDigitOrPoint c = true ∨ c = '-' :=
        (Bool.or_eq_true_iff.mp starts).imp isDigitOrPoint_of_isDigit eq_of_beq
      exact absurd holds (not_isBlank inNumeral)
    | digit => rfl
    | digitOrPoint => rfl
  | digits =>
    cases k with
    | only d => exact eq_of_beq holds ▸ starts
    | blank => exact absurd holds (not_isBlank (.inl starts))
    | digit => rfl
    | digitOrPoint => rfl

theorem Symbol.left_covers {symbol : Symbol} {c : Char} {taken part : List Char}
    (covers : symbol.Covers operands (c :: taken ++ part)) :
    Sketch.Covers operands symbol.left part := by
  have alone {only : Symbol} (covered : only.Covers operands part) :
      Sketch.Covers operands [only] part :=
    ⟨part, [], by simp, covered, rfl⟩
  cases symbol with
  | char d =>
    obtain ⟨rfl, empty⟩ := List.cons.inj covers
    exact (List.append_eq_nil_iff.mp empty).2
  | gap => exact alone fun d member => covers d (List.mem_append_right _ member)
  | numeral place =>
    obtain ⟨d, rest, split, _, others⟩ := (numerals place).characters
    obtain ⟨rfl, rfl⟩ := List.cons.inj (covers.trans split)
    exact alone fun e member => others e (List.mem_append_right _ member)
  | digits => exact alone fun d member => covers d (List.mem_append_right _ member)

theorem Symbol.mayBeEmpty_of_covers {symbol : Symbol} (covers : symbol.Covers operands []) :
    symbol.mayBeEmpty = true := by
  cases symbol with
  | char c => cases covers
  | gap => rfl
  | numeral place =>
    obtain ⟨c, rest, split, _⟩ := (numerals place).characters
    cases covers.trans split
  | digits => rfl

end Sound

/-! ## Pieces in a sketch -/

/-- What may be left of a sketch after one character. -/
def advance (k : CharClass) : Sketch → List Sketch
  | [] => []
  | symbol :: sketch =>
      (if symbol.meets k then [symbol.left ++ sketch] else []) ++
        if symbol.mayBeEmpty then advance k sketch else []

/-- What may be left of a sketch after any number of characters. -/
def advanceRun (k : CharClass) : Sketch → List Sketch
  | [] => [[]]
  | symbol :: sketch =>
      (symbol :: sketch) ::
        ((if symbol.meets k then [symbol.left ++ sketch] else []) ++
          if symbol.meets k || symbol.mayBeEmpty then advanceRun k sketch else [])

def advanceWord : List Char → Sketch → List Sketch
  | [], sketch => [sketch]
  | c :: word, sketch => (advance (.only c) sketch).flatMap (advanceWord word)

def advanceUnsigned (sketch : Sketch) : List Sketch :=
  (advance .digit sketch).flatMap (advanceRun .digitOrPoint)

/-- What may be left of a sketch after a piece. -/
def Piece.ends : Piece → Sketch → List Sketch
  | blanks, sketch => advanceRun .blank sketch
  | oneOf spellings, sketch =>
      spellings.flatMap fun spelling => advanceWord spelling.toList sketch
  | numeral, sketch =>
      advanceUnsigned sketch ++ (advance (.only '-') sketch).flatMap advanceUnsigned

/-- Whether pieces may fit, one after another, the start of a text of the sketch. -/
def mayMatch : List Piece → Sketch → Bool
  | [], _ => true
  | piece :: pieces, sketch => (piece.ends sketch).any (mayMatch pieces)

section Sound

variable {operands : Place → List Char} (numerals : ∀ place, IsNumeral (operands place))
include numerals

theorem advance_sound {sketch : Sketch} {k : CharClass} {c : Char} {rest : List Char}
    (covers : sketch.Covers operands (c :: rest)) (holds : k.holds c = true) :
    ∃ next ∈ advance k sketch, next.Covers operands rest := by
  induction sketch with
  | nil => cases covers
  | cons symbol sketch ih =>
    obtain ⟨part, after, split, covered, others⟩ := covers
    simp only [advance, List.mem_append]
    -- The character is the first of this symbol, or the symbol is empty and it comes
    -- later.
    cases part with
    | nil =>
      rw [List.nil_append] at split
      rw [← split] at others
      obtain ⟨next, member, onward⟩ := ih others
      refine ⟨next, .inr ?_, onward⟩
      rw [if_pos (symbol.mayBeEmpty_of_covers numerals covered)]
      exact member
    | cons d part =>
      obtain ⟨rfl, rfl⟩ := List.cons.inj split
      refine ⟨symbol.left ++ sketch, .inl ?_, ?_⟩
      · rw [if_pos (symbol.meets_of_covers numerals covered holds)]
        exact List.mem_singleton_self _
      · have firstTaken : symbol.Covers operands (c :: [] ++ part) := covered
        exact (Symbol.left_covers numerals firstTaken).append others

theorem advanceRun_sound {sketch : Sketch} {k : CharClass} {x rest : List Char}
    (covers : sketch.Covers operands (x ++ rest)) (holds : ∀ c ∈ x, k.holds c = true) :
    ∃ next ∈ advanceRun k sketch, next.Covers operands rest := by
  induction sketch generalizing x with
  | nil =>
    refine ⟨[], List.mem_singleton_self _, ?_⟩
    exact (List.append_eq_nil_iff.mp covers).2
  | cons symbol sketch ih =>
    simp only [advanceRun, List.mem_cons, List.mem_append]
    rcases Sketch.covers_cons_append covers with
      ⟨part, after, rfl, covered, others⟩ | ⟨part, after, rfl, covered, others⟩
    · -- The run ends in the text of the symbol, or did not begin.
      cases x with
      | nil => exact ⟨symbol :: sketch, .inl rfl, part, after, rfl, covered, others⟩
      | cons c x =>
        refine ⟨symbol.left ++ sketch, .inr (.inl ?_), ?_⟩
        · rw [if_pos (symbol.meets_of_covers numerals covered (holds c List.mem_cons_self))]
          exact List.mem_singleton_self _
        · exact (Symbol.left_covers numerals covered).append others
    · -- The run takes the whole text of the symbol.
      obtain ⟨next, member, onward⟩ :=
        ih others fun c member => holds c (List.mem_append_right _ member)
      refine ⟨next, .inr (.inr ?_), onward⟩
      have passable : (symbol.meets k || symbol.mayBeEmpty) = true := by
        cases part with
        | nil => simp [symbol.mayBeEmpty_of_covers numerals covered]
        | cons c part =>
          simp [symbol.meets_of_covers numerals covered (holds c (by simp))]
      rw [if_pos passable]
      exact member

theorem advanceWord_sound {sketch : Sketch} {word rest : List Char}
    (covers : sketch.Covers operands (word ++ rest)) :
    ∃ next ∈ advanceWord word sketch, next.Covers operands rest := by
  induction word generalizing sketch with
  | nil => exact ⟨sketch, List.mem_singleton_self _, covers⟩
  | cons c word ih =>
    have holds : (CharClass.only c).holds c = true := beq_self_eq_true c
    obtain ⟨middle, taken, covers⟩ := advance_sound numerals covers holds
    obtain ⟨next, member, covers⟩ := ih covers
    exact ⟨next, List.mem_flatMap.mpr ⟨middle, taken, member⟩, covers⟩

theorem advanceUnsigned_sound {sketch : Sketch} {x rest : List Char}
    (covers : sketch.Covers operands (x ++ rest)) (unsigned : IsUnsigned x) :
    ∃ next ∈ advanceUnsigned sketch, next.Covers operands rest := by
  obtain ⟨c, more, rfl, digit, others⟩ := unsigned.characters
  have holds : CharClass.digit.holds c = true := digit
  obtain ⟨middle, taken, covers⟩ := advance_sound numerals covers holds
  have holdMore : ∀ d ∈ more, CharClass.digitOrPoint.holds d = true := others
  obtain ⟨next, member, covers⟩ := advanceRun_sound numerals covers holdMore
  exact ⟨next, List.mem_flatMap.mpr ⟨middle, taken, member⟩, covers⟩

/-- Where a piece ends in a text of a sketch, it ends in the sketch. -/
theorem Piece.ends_sound {piece : Piece} {sketch : Sketch} {x rest : List Char}
    (covers : sketch.Covers operands (x ++ rest)) (fits : x ∈ piece.language) :
    ∃ next ∈ piece.ends sketch, next.Covers operands rest := by
  cases piece with
  | blanks => exact advanceRun_sound numerals covers (mem_blanks_language.mp fits)
  | oneOf spellings =>
    obtain ⟨spelling, member, rfl⟩ := fits
    obtain ⟨next, ending, covers⟩ := advanceWord_sound numerals covers
    exact ⟨next, List.mem_flatMap.mpr ⟨spelling, member, ending⟩, covers⟩
  | numeral =>
    simp only [ends, List.mem_append]
    rcases mem_numeral_language.mp fits with unsigned | ⟨unsigned, rfl, isUnsigned⟩
    · obtain ⟨next, member, covers⟩ := advanceUnsigned_sound numerals covers unsigned
      exact ⟨next, .inl member, covers⟩
    · have sign : (CharClass.only '-').holds '-' = true := rfl
      obtain ⟨middle, taken, covers⟩ := advance_sound numerals covers sign
      obtain ⟨next, member, covers⟩ := advanceUnsigned_sound numerals covers isUnsigned
      exact ⟨next, .inr (List.mem_flatMap.mpr ⟨middle, taken, member⟩), covers⟩

theorem mayMatch_sound {pieces : List Piece} {sketch : Sketch} {x rest : List Char}
    (covers : sketch.Covers operands (x ++ rest)) (fits : x ∈ language pieces) :
    mayMatch pieces sketch = true := by
  induction pieces generalizing sketch x with
  | nil => rfl
  | cons piece pieces ih =>
    obtain ⟨part, inPiece, later, inPieces, rfl⟩ := mem_language_cons.mp fits
    rw [List.append_assoc] at covers
    obtain ⟨next, member, covers⟩ := Piece.ends_sound numerals covers inPiece
    exact List.any_eq_true.mpr ⟨next, member, ih covers inPieces⟩

end Sound

/-! ## Places in a sketch -/

/-- Whether a word character stands at a place, if that is known: there is none at
    the ends of a text, and a gap or a numeral does not tell. -/
def isWordSymbol? : Option Symbol → Option Bool
  | none => some false
  | some (.char c) => some (isWordChar c)
  | some _ => none

/-- What comes before each place of a sketch, and what is left from there.  The place
    inside a symbol is the one after it if the symbol is a fixed character. -/
def Sketch.places : Option Symbol → Sketch → List (Option Symbol × Sketch)
  | before, [] => [(before, [])]
  | before, symbol :: sketch =>
      (before, symbol :: sketch) :: (some symbol, symbol.left ++ sketch) ::
        places (some symbol) sketch

def mayBeBoundary (before after : Option Symbol) : Bool :=
  isWordSymbol? before == none || isWordSymbol? before != isWordSymbol? after

namespace Phrasing

def mayStart (p : Phrasing) (before : Option Symbol) (sketch : Sketch) : Bool :=
  (!p.atBoundary || mayBeBoundary before sketch.head?) && mayMatch p.pieces sketch

/-- Whether the phrasing may occur in a text of the sketch. -/
def mayOccur (p : Phrasing) (sketch : Sketch) : Bool :=
  (Sketch.places none sketch).any fun place => p.mayStart place.1 place.2

end Phrasing

/-- What is known of the symbol at a place is true of the character there. -/
def Agrees (symbol? : Option Symbol) (c? : Option Char) : Prop :=
  ∀ known, isWordSymbol? symbol? = some known → c?.any isWordChar = known

theorem atWordBoundary_sound {before after : Option Symbol} {b a : Option Char}
    (agreesBefore : Agrees before b) (agreesAfter : Agrees after a)
    (boundary : atWordBoundary b a = true) : mayBeBoundary before after = true := by
  unfold mayBeBoundary
  cases knownBefore : isWordSymbol? before with
  | none => rfl
  | some wordBefore =>
    cases knownAfter : isWordSymbol? after with
    | none => rfl
    | some wordAfter =>
      simpa [atWordBoundary, agreesBefore _ knownBefore, agreesAfter _ knownAfter] using boundary

section Sound

variable {operands : Place → List Char}

theorem Symbol.eq_singleton {symbol : Symbol} {s : List Char} {known : Bool}
    (covers : symbol.Covers operands s) (isKnown : isWordSymbol? (some symbol) = some known) :
    ∃ c, s = [c] ∧ isWordChar c = known := by
  cases symbol with
  | char c => exact ⟨c, covers, Option.some.inj isKnown⟩
  | gap => cases isKnown
  | numeral place => cases isKnown
  | digits => cases isKnown

theorem agrees_getLast? {symbol : Symbol} {earlier x part : List Char}
    (covers : symbol.Covers operands (x ++ part)) (taken : x = [] → part = []) :
    Agrees (some symbol) (earlier ++ x).getLast? := by
  intro known isKnown
  -- Only a fixed character is known, and to take anything of it is to take it whole.
  obtain ⟨c, alone, wordChar⟩ := symbol.eq_singleton covers isKnown
  have whole : x = [c] := by
    cases x with
    | nil => simp [taken rfl] at alone
    | cons d x =>
      obtain ⟨rfl, empty⟩ := List.cons.inj alone
      rw [(List.append_eq_nil_iff.mp empty).1]
  simp [whole, wordChar]

theorem agrees_head? {sketch : Sketch} {s : List Char} (covers : sketch.Covers operands s) :
    Agrees sketch.head? s.head? := by
  intro known isKnown
  cases sketch with
  | nil =>
    cases covers
    cases isKnown
    rfl
  | cons symbol sketch =>
    obtain ⟨part, rest, rfl, covered, _⟩ := covers
    obtain ⟨c, rfl, wordChar⟩ := symbol.eq_singleton covered isKnown
    exact wordChar

variable (numerals : ∀ place, IsNumeral (operands place))
include numerals

/-- Each place of a text is a place of its sketch. -/
theorem Sketch.places_sound {sketch : Sketch} {before : Option Symbol} {earlier x y : List Char}
    (covers : sketch.Covers operands (x ++ y)) (agrees : Agrees before earlier.getLast?) :
    ∃ place ∈ Sketch.places before sketch,
      Agrees place.1 (earlier ++ x).getLast? ∧ place.2.Covers operands y := by
  induction sketch generalizing before earlier x with
  | nil =>
    obtain ⟨rfl, rfl⟩ := List.append_eq_nil_iff.mp covers
    refine ⟨(before, []), List.mem_singleton_self _, ?_, rfl⟩
    simpa using agrees
  | cons symbol sketch ih =>
    simp only [Sketch.places, List.mem_cons]
    rcases Sketch.covers_cons_append covers with
      ⟨part, after, rfl, covered, others⟩ | ⟨part, after, rfl, covered, others⟩
    · -- The place is before the symbol, or inside what it stands for.
      cases x with
      | nil =>
        refine ⟨(before, symbol :: sketch), .inl rfl, ?_, part, after, rfl, covered, others⟩
        simpa using agrees
      | cons c x =>
        refine ⟨(some symbol, symbol.left ++ sketch), .inr (.inl rfl), ?_, ?_⟩
        · exact agrees_getLast? covered nofun
        · exact (Symbol.left_covers numerals covered).append others
    · -- The place comes after the symbol, and its last character is what stands before.
      have wholly : symbol.Covers operands (part ++ []) := by simpa using covered
      have onwards : Agrees (some symbol) (earlier ++ part).getLast? :=
        agrees_getLast? wholly fun _ => rfl
      obtain ⟨place, member, agreesThere, covers⟩ := ih others onwards
      refine ⟨place, .inr (.inr member), ?_, covers⟩
      rw [← List.append_assoc]
      exact agreesThere

theorem Phrasing.mayStart_sound {p : Phrasing} {before : Option Symbol} {sketch : Sketch}
    {earlier s : List Char} (covers : sketch.Covers operands s)
    (agrees : Agrees before earlier.getLast?) (starts : p.StartsAt earlier s) :
    p.mayStart before sketch = true := by
  obtain ⟨boundary, x, rest, fits, rfl⟩ := starts
  rw [mayStart, Bool.and_eq_true]
  constructor
  · cases asks : p.atBoundary with
    | false => rfl
    | true => exact atWordBoundary_sound agrees (agrees_head? covers) (boundary asks)
  · exact mayMatch_sound numerals covers fits

/-- A phrasing that may not occur in a sketch occurs in none of its texts. -/
theorem Phrasing.not_occursIn {p : Phrasing} {sketch : Sketch} {s : List Char}
    (covers : sketch.Covers operands s) (impossible : p.mayOccur sketch = false) :
    ¬ p.OccursIn s := by
  rintro ⟨earlier, later, rfl, starts⟩
  have atStart : Agrees none ([] : List Char).getLast? := fun known isKnown =>
    Option.some.inj isKnown
  obtain ⟨place, member, agrees, covers⟩ := Sketch.places_sound numerals covers atStart
  have possible : p.mayOccur sketch = true :=
    List.any_eq_true.mpr ⟨place, member, mayStart_sound numerals covers agrees starts⟩
  exact absurd possible (by simp [impossible])

end Sound

end Reckoner
