import Reckoner.Proofs.Phrase.Captures
import Reckoner.Proofs.Phrase.Sketch
import Mathlib.Data.List.Zip

/-! # What may stand next to a capture

The pieces before a numeral of a phrasing tell how the text before the numeral ends, and the
pieces after it how the text goes on.  So a phrasing alone can settle that some text never
stands next to what it captures:

* `Trail`, `Trail.Covers` — what is known of the first characters of a text.
* `trailsAfter`, `leads` — how a text ends that fits some pieces, and how it begins.
* `Phrasing.neverBefore`, `neverAfter` — the check of a phrasing, with its soundness.
-/

namespace Reckoner

/-! ## Trails -/

namespace CharClass

/-- Whether no character is of both classes. -/
def excludes : CharClass → CharClass → Bool
  | only c, k => !k.holds c
  | k, only c => !k.holds c
  | blank, k => k != .blank
  | k, blank => k != .blank
  | _, _ => false

theorem holds_only {c d : Char} : (only c).holds d = true ↔ d = c := by
  rw [holds, beq_iff_eq]

theorem excludes_only_left (c : Char) (k : CharClass) : (only c).excludes k = !k.holds c := rfl

theorem excludes_only_right (c : Char) (k : CharClass) : k.excludes (only c) = !k.holds c := by
  cases k with
  | only d =>
    rw [excludes_only_left, holds, holds, BEq.comm]
  | blank => rfl
  | digit => rfl
  | digitOrPoint => rfl

theorem not_holds_both {k l : CharClass} (excluded : k.excludes l = true) {c : Char}
    (first : k.holds c = true) (second : l.holds c = true) : False := by
  have digitNotBlank {d : Char} (digit : isDigit d = true) : ¬ Text.isBlank d = true :=
    not_isBlank (.inl (isDigitOrPoint_of_isDigit digit))
  have partNotBlank {d : Char} (part : isDigitOrPoint d = true) : ¬ Text.isBlank d = true :=
    not_isBlank (.inl part)
  cases k with
  | only d =>
    obtain rfl := holds_only.mp first
    simp [excludes_only_left, second] at excluded
  | blank =>
    cases l with
    | only d =>
      obtain rfl := holds_only.mp second
      simp [excludes_only_right, first] at excluded
    | blank => cases excluded
    | digit => exact digitNotBlank second first
    | digitOrPoint => exact partNotBlank second first
  | digit =>
    cases l with
    | only d =>
      obtain rfl := holds_only.mp second
      simp [excludes_only_right, first] at excluded
    | blank => exact digitNotBlank first second
    | digit => cases excluded
    | digitOrPoint => cases excluded
  | digitOrPoint =>
    cases l with
    | only d =>
      obtain rfl := holds_only.mp second
      simp [excludes_only_right, first] at excluded
    | blank => exact partNotBlank first second
    | digit => cases excluded
    | digitOrPoint => cases excluded

end CharClass

/-- What is known of the first characters of a text, or of the last ones, the last first. -/
abbrev Trail := List CharClass

namespace Trail

def Covers : Trail → List Char → Prop
  | [], _ => True
  | _ :: _, [] => False
  | k :: trail, c :: s => k.holds c = true ∧ Covers trail s

instance decidableCovers : (trail : Trail) → (s : List Char) → Decidable (trail.Covers s)
  | [], _ => isTrue trivial
  | _ :: _, [] => isFalse id
  | k :: trail, c :: s =>
      have := decidableCovers trail s
      inferInstanceAs (Decidable (k.holds c = true ∧ Covers trail s))

def spelling (s : List Char) : Trail :=
  s.map .only

/-- Whether the trails have no text in common. -/
def excludes : Trail → Trail → Bool
  | k :: trail, l :: other => k.excludes l || excludes trail other
  | _, _ => false

theorem covers_spelling {trail : Trail} {s : List Char} (covers : trail.Covers s)
    (word : List Char) : (spelling word ++ trail).Covers (word ++ s) := by
  induction word with
  | nil => exact covers
  | cons c word ih => exact ⟨beq_self_eq_true c, ih⟩

theorem not_covers_both {trail other : Trail} (excluded : trail.excludes other = true)
    {s : List Char} (covers : trail.Covers s) : ¬ other.Covers s := by
  intro coversOther
  induction trail generalizing other s with
  | nil => cases excluded
  | cons k trail ih =>
    cases other with
    | nil => cases excluded
    | cons l other =>
      cases s with
      | nil => exact covers
      | cons c s =>
        rcases Bool.or_eq_true_iff.mp excluded with here | later
        · exact CharClass.not_holds_both here covers.1 coversOther.1
        · exact ih later covers.2 coversOther.2

end Trail

/-! ## The edges of a fit -/

/-- How a text may end, last character first, after a piece follows on what the trail
    knows. -/
def Piece.trails (trail : Trail) : Piece → List Trail
  | blanks => [trail, [.blank]]
  | oneOf spellings =>
      spellings.map fun spelling => Trail.spelling spelling.toList.reverse ++ trail
  | numeral => [[.digitOrPoint]]

/-- How a text may end that fits the pieces, whatever comes before it. -/
def trailsAfter (pieces : List Piece) : List Trail :=
  pieces.foldl (fun known piece => known.flatMap piece.trails) [[]]

/-- How a text may begin that fits the pieces, whatever comes after it. -/
def leads : List Piece → List Trail
  | [] => [[]]
  | .blanks :: pieces => [.blank] :: leads pieces
  | .oneOf spellings :: pieces =>
      spellings.flatMap fun spelling =>
        (leads pieces).map fun lead => Trail.spelling spelling.toList ++ lead
  | .numeral :: _ => [[.digit], [.only '-']]

theorem IsUnsigned.getLast? {s : List Char} (unsigned : IsUnsigned s) :
    ∃ c, s.getLast? = some c ∧ isDigitOrPoint c = true := by
  obtain ⟨c, rest, rfl, digit, others⟩ := unsigned.characters
  rcases List.eq_nil_or_concat rest with rfl | ⟨rest, d, rfl⟩
  · exact ⟨c, rfl, isDigitOrPoint_of_isDigit digit⟩
  · rw [List.concat_eq_append] at others ⊢
    exact ⟨d, by rw [← List.cons_append, List.getLast?_concat], others d (by simp)⟩

theorem IsNumeral.getLast? {s : List Char} (numeral : IsNumeral s) :
    ∃ c, s.getLast? = some c ∧ isDigitOrPoint c = true := by
  rcases numeral with unsigned | ⟨_, rfl, unsigned⟩
  · exact unsigned.getLast?
  · obtain ⟨c, last, holds⟩ := unsigned.getLast?
    obtain ⟨start, rfl⟩ := List.getLast?_eq_some_iff.mp last
    exact ⟨c, by rw [← List.cons_append, List.getLast?_concat], holds⟩

theorem Piece.trails_sound {piece : Piece} {trail : Trail} {before part : List Char}
    (covers : trail.Covers before.reverse) (fits : part ∈ piece.language) :
    ∃ next ∈ piece.trails trail, next.Covers (before ++ part).reverse := by
  cases piece with
  | blanks =>
    have blank := mem_blanks_language.mp fits
    rcases List.eq_nil_or_concat part with rfl | ⟨part, c, rfl⟩
    · exact ⟨trail, by simp [trails], by simpa using covers⟩
    · refine ⟨[.blank], by simp [trails], ?_⟩
      rw [List.concat_eq_append, ← List.append_assoc, List.reverse_append]
      exact ⟨blank c (by simp), trivial⟩
  | oneOf spellings =>
    obtain ⟨spelling, member, rfl⟩ := fits
    refine ⟨_, List.mem_map_of_mem member, ?_⟩
    rw [List.reverse_append]
    exact Trail.covers_spelling covers _
  | numeral =>
    obtain ⟨c, last, holds⟩ := (mem_numeral_language.mp fits).getLast?
    refine ⟨[.digitOrPoint], by simp [trails], ?_⟩
    obtain ⟨start, rfl⟩ := List.getLast?_eq_some_iff.mp last
    rw [← List.append_assoc, List.reverse_append]
    exact ⟨holds, trivial⟩

theorem trailsAfter_sound {pieces : List Piece} {before x : List Char}
    (fits : x ∈ language pieces) :
    ∃ trail ∈ trailsAfter pieces, trail.Covers (before ++ x).reverse := by
  -- Piece by piece, one of the trails that are known covers what is taken so far.
  have onwards : ∀ {known : List Trail} {before x : List Char}, x ∈ language pieces →
      (∃ trail ∈ known, trail.Covers before.reverse) →
        ∃ trail ∈ pieces.foldl (fun known piece => known.flatMap piece.trails) known,
          trail.Covers (before ++ x).reverse := by
    clear fits
    induction pieces with
    | nil =>
      intro known before x fits covered
      rw [mem_language_nil.mp fits, List.append_nil]
      exact covered
    | cons piece pieces ih =>
      intro known before x fits ⟨trail, member, covers⟩
      obtain ⟨part, inPiece, later, inPieces, rfl⟩ := mem_language_cons.mp fits
      obtain ⟨next, isNext, coversNext⟩ := Piece.trails_sound covers inPiece
      rw [← List.append_assoc]
      exact ih inPieces ⟨next, List.mem_flatMap.mpr ⟨trail, member, isNext⟩, coversNext⟩
  exact onwards fits ⟨[], List.mem_singleton_self _, trivial⟩

theorem leads_sound {pieces : List Piece} {y rest : List Char} (fits : y ∈ language pieces) :
    ∃ lead ∈ leads pieces, lead.Covers (y ++ rest) := by
  induction pieces generalizing y with
  | nil => exact ⟨[], List.mem_singleton_self _, trivial⟩
  | cons piece pieces ih =>
    obtain ⟨part, inPiece, later, inPieces, rfl⟩ := mem_language_cons.mp fits
    obtain ⟨lead, member, covers⟩ := ih inPieces
    rw [List.append_assoc]
    cases piece with
    | blanks =>
      cases part with
      | nil => exact ⟨lead, List.mem_cons_of_mem _ member, covers⟩
      | cons c part =>
        have blank := mem_blanks_language.mp inPiece c List.mem_cons_self
        exact ⟨[.blank], List.mem_cons_self, blank, trivial⟩
    | oneOf spellings =>
      obtain ⟨spelling, isSpelling, rfl⟩ := inPiece
      exact ⟨_, List.mem_flatMap.mpr ⟨spelling, isSpelling, List.mem_map_of_mem member⟩,
        Trail.covers_spelling covers _⟩
    | numeral =>
      obtain ⟨c, part, rfl, first, _⟩ := (mem_numeral_language.mp inPiece).characters
      rcases first with digit | rfl
      · exact ⟨[.digit], List.mem_cons_self, digit, trivial⟩
      · exact ⟨[.only '-'], by simp [leads], rfl, trivial⟩

/-! ## The numerals of a phrasing -/

/-- What comes before and after each numeral of some pieces. -/
def slots (pieces : List Piece) : List (List Piece × List Piece) :=
  (pieces.inits.zip pieces.tails).filterMap fun cut =>
    match cut with
    | (front, .numeral :: back) => some (front, back)
    | _ => none

theorem mem_slots {pieces front back : List Piece} (split : pieces = front ++ .numeral :: back) :
    (front, back) ∈ slots pieces :=
  List.mem_filterMap.mpr ⟨(front, .numeral :: back), List.mem_zip_inits_tails.mpr split.symm, rfl⟩

namespace Phrasing

/-- Whether what the trail covers, last character first, never stands before a numeral of the
    phrasing that does not open it. -/
def neverBefore (p : Phrasing) (trail : Trail) : Bool :=
  (slots p.pieces).all fun slot =>
    slot.1.isEmpty || (trailsAfter slot.1).all (·.excludes trail)

/-- Whether what the trail covers never stands after a numeral of the phrasing that something
    has to follow. -/
def neverAfter (p : Phrasing) (trail : Trail) : Bool :=
  (slots p.pieces).all fun slot =>
    slot.2.all Piece.isOptional || (leads slot.2).all (·.excludes trail)

end Phrasing

section Sound

variable {p : Phrasing} {c : Capture} {start : List Char} {front back : List Piece}
  (split : p.pieces = front ++ .numeral :: back) (fits : c.FitsBetween start front back)
  {trail : Trail}
include split fits

theorem Phrasing.not_covers_before (never : p.neverBefore trail = true) (inside : front ≠ []) :
    ¬ trail.Covers c.before.reverse := by
  have checked := List.all_eq_true.mp never _ (mem_slots split)
  obtain ⟨x, inFront, rightBefore⟩ := fits.before
  obtain ⟨known, member, covers⟩ : ∃ known ∈ trailsAfter front, known.Covers (start ++ x).reverse :=
    trailsAfter_sound inFront
  rw [rightBefore]
  have excluded : known.excludes trail = true := by
    simp only [List.isEmpty_eq_false_iff.mpr inside, Bool.false_or] at checked
    exact List.all_eq_true.mp checked known member
  exact Trail.not_covers_both excluded covers

theorem Phrasing.not_covers_after (never : p.neverAfter trail = true)
    (required : ¬ back.all Piece.isOptional = true) : ¬ trail.Covers c.after := by
  have checked := List.all_eq_true.mp never _ (mem_slots split)
  obtain ⟨y, inBack, rest, rightAfter⟩ := fits.after
  obtain ⟨known, member, covers⟩ : ∃ known ∈ leads back, known.Covers (y ++ rest) :=
    leads_sound inBack
  rw [← rightAfter]
  have excluded : known.excludes trail = true := by
    simp only [required, Bool.false_or] at checked
    exact List.all_eq_true.mp checked known member
  exact Trail.not_covers_both excluded covers

end Sound

end Reckoner
