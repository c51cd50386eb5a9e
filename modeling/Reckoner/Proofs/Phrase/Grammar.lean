import Reckoner.Phrase.Phrasing
import Mathlib.Computability.Language

/-! # The grammar of phrasings

Each piece of a phrasing declares a language, and a phrasing the product of the
languages of its pieces.  A piece is taken greedily, but the places where it may end
are exactly those that its language allows:

* `Piece.language`, `language` — the declared languages.
* `IsNumeral`, `mem_numeral_language` — the texts of a numeral, part by part.
* `Piece.mem_rests` — a piece ends where a text of its language does.
-/

namespace Reckoner

open scoped Computability

/-! ## Declared languages -/

def single (p : Char → Bool) : Language Char :=
  {s | ∃ c, p c = true ∧ s = [c]}

/-- The texts that fit a piece: any run of blanks, one of the spellings, or a
    numeral of a minus sign or none, one or more digits, a point or none, and any
    digits. -/
def Piece.language : Piece → Language Char
  | blanks => (single Text.isBlank)∗
  | oneOf spellings => {s | ∃ spelling ∈ spellings, s = spelling.toList}
  | numeral =>
      (1 + {['-']}) * (single isDigit * (single isDigit)∗) * (1 + {['.']}) *
        (single isDigit)∗

/-- The texts that fit some pieces, one after another. -/
def language (pieces : List Piece) : Language Char :=
  (pieces.map Piece.language).prod

theorem mem_language_nil {s : List Char} : s ∈ language [] ↔ s = [] := by
  rw [language, List.map_nil, List.prod_nil, Language.mem_one]

theorem mem_language_cons {piece : Piece} {pieces : List Piece} {s : List Char} :
    s ∈ language (piece :: pieces) ↔
      ∃ part ∈ piece.language, ∃ later ∈ language pieces, part ++ later = s := by
  rw [language, List.map_cons, List.prod_cons, Language.mem_mul]
  rfl

theorem mem_kstar_single {p : Char → Bool} {s : List Char} :
    s ∈ (single p)∗ ↔ ∀ c ∈ s, p c = true := by
  rw [Language.mem_kstar]
  constructor
  · rintro ⟨parts, rfl, fits⟩ c member
    obtain ⟨part, inParts, inPart⟩ := List.mem_flatten.mp member
    obtain ⟨d, holds, rfl⟩ := fits part inParts
    rw [List.mem_singleton.mp inPart]
    exact holds
  · intro all
    -- The text is the product of its characters.
    refine ⟨s.map ([·]), ?_, ?_⟩
    · induction s with
      | nil => rfl
      | cons c s ih =>
        simpa using ih fun d member => all d (List.mem_cons_of_mem c member)
    · intro part member
      obtain ⟨c, inText, rfl⟩ := List.mem_map.mp member
      exact ⟨c, all c inText, rfl⟩

theorem mem_blanks_language {s : List Char} :
    s ∈ Piece.blanks.language ↔ ∀ c ∈ s, Text.isBlank c = true :=
  mem_kstar_single

theorem mem_oneOf_language {spellings : List String} {s : List Char} :
    s ∈ (Piece.oneOf spellings).language ↔ ∃ spelling ∈ spellings, s = spelling.toList :=
  Iff.rfl

/-! ## Numerals -/

/-- What may follow the first digits of a numeral: nothing, or a point and any
    digits. -/
def IsFraction (s : List Char) : Prop :=
  s = [] ∨ ∃ digits, s = '.' :: digits ∧ ∀ c ∈ digits, isDigit c = true

/-- A numeral without a sign. -/
def IsUnsigned (s : List Char) : Prop :=
  ∃ c whole fraction,
    s = c :: (whole ++ fraction) ∧ isDigit c = true ∧
      (∀ d ∈ whole, isDigit d = true) ∧ IsFraction fraction

/-- A numeral: a minus sign or none, digits, and then maybe a point and maybe
    digits after it. -/
def IsNumeral (s : List Char) : Prop :=
  IsUnsigned s ∨ ∃ unsigned, s = '-' :: unsigned ∧ IsUnsigned unsigned

theorem mem_optional {c : Char} {s : List Char} :
    s ∈ (1 + {[c]} : Language Char) ↔ s = [] ∨ s = [c] :=
  Iff.rfl

theorem mem_unsigned_language {s : List Char} :
    s ∈ single isDigit * (single isDigit)∗ * (1 + {['.']}) * (single isDigit)∗ ↔
      IsUnsigned s := by
  simp only [Language.mem_mul, mem_kstar_single, mem_optional]
  constructor
  · rintro ⟨_, ⟨_, ⟨_, ⟨c, digit, rfl⟩, whole, wholeDigits, rfl⟩, point, pointed, rfl⟩,
      fraction, fractionDigits, rfl⟩
    rcases pointed with rfl | rfl
    · -- Without a point, the digits after it belong to the whole part.
      refine ⟨c, whole ++ fraction, [], by simp, digit, ?_, .inl rfl⟩
      intro d member
      rcases List.mem_append.mp member with inWhole | inFraction
      · exact wholeDigits d inWhole
      · exact fractionDigits d inFraction
    · exact ⟨c, whole, '.' :: fraction, by simp, digit, wholeDigits,
        .inr ⟨fraction, rfl, fractionDigits⟩⟩
  · rintro ⟨c, whole, _, rfl, digit, wholeDigits, rfl | ⟨fraction, rfl, fractionDigits⟩⟩
    · exact ⟨_, ⟨_, ⟨[c], ⟨c, digit, rfl⟩, whole, wholeDigits, rfl⟩, [], .inl rfl, rfl⟩,
        [], by simp, by simp⟩
    · exact ⟨_, ⟨_, ⟨[c], ⟨c, digit, rfl⟩, whole, wholeDigits, rfl⟩, ['.'], .inr rfl, rfl⟩,
        fraction, fractionDigits, by simp⟩

theorem mem_numeral_language {s : List Char} :
    s ∈ Piece.numeral.language ↔ IsNumeral s := by
  have regrouped : Piece.numeral.language =
      (1 + {['-']}) *
        (single isDigit * (single isDigit)∗ * (1 + {['.']}) * (single isDigit)∗) := by
    simp only [Piece.language, mul_assoc]
  rw [regrouped, Language.mem_mul]
  simp only [mem_optional, mem_unsigned_language]
  constructor
  · rintro ⟨sign, signed, unsigned, fits, rfl⟩
    rcases signed with rfl | rfl
    · exact .inl fits
    · exact .inr ⟨unsigned, rfl, fits⟩
  · rintro (fits | ⟨unsigned, rfl, fits⟩)
    · exact ⟨[], .inl rfl, s, fits, rfl⟩
    · exact ⟨['-'], .inr rfl, unsigned, fits, rfl⟩

/-! ## Where pieces end -/

theorem mem_restsOfRun {p : Char → Bool} {s rest : List Char} {after : List (List Char)} :
    rest ∈ restsOfRun p s after ↔
      rest ∈ after ∨ ∃ run, (∀ c ∈ run, p c = true) ∧ s = run ++ rest := by
  -- The tails found so far are carried along in `after`.
  induction s generalizing after with
  | nil =>
    simp only [restsOfRun, List.mem_cons]
    constructor
    · rintro (rfl | member)
      · exact .inr ⟨[], by simp, rfl⟩
      · exact .inl member
    · rintro (member | ⟨run, _, split⟩)
      · exact .inr member
      · exact .inl (List.append_eq_nil_iff.mp split.symm).2
  | cons c s ih =>
    by_cases holds : p c = true
    · rw [restsOfRun, if_pos holds, ih, List.mem_cons]
      constructor
      · rintro ((rfl | member) | ⟨run, all, rfl⟩)
        · exact .inr ⟨[], by simp, rfl⟩
        · exact .inl member
        · exact .inr ⟨c :: run, by simpa [holds] using all, rfl⟩
      · rintro (member | ⟨run, all, split⟩)
        · exact .inl (.inr member)
        · cases run with
          | nil => exact .inl (.inl split.symm)
          | cons d run =>
            obtain ⟨rfl, rfl⟩ := List.cons.inj split
            exact .inr ⟨run, fun e member => all e (List.mem_cons_of_mem c member), rfl⟩
    · rw [restsOfRun, if_neg holds, List.mem_cons]
      constructor
      · rintro (rfl | member)
        · exact .inr ⟨[], by simp, rfl⟩
        · exact .inl member
      · rintro (member | ⟨run, all, split⟩)
        · exact .inr member
        · cases run with
          | nil => exact .inl split.symm
          | cons d run =>
            obtain ⟨rfl, rfl⟩ := List.cons.inj split
            exact absurd (all c List.mem_cons_self) holds

/-- A numeral without a sign takes a digit, and then ends, goes on with a digit,
    or goes on with a point and any digits. -/
theorem unsigned_cons_iff {c : Char} {s rest : List Char} :
    (∃ x, IsUnsigned x ∧ c :: s = x ++ rest) ↔
      isDigit c = true ∧
        (s = rest ∨ (∃ x, IsUnsigned x ∧ s = x ++ rest) ∨
          ∃ run, (∀ d ∈ run, isDigit d = true) ∧ s = '.' :: (run ++ rest)) := by
  constructor
  · rintro ⟨_, ⟨d, whole, fraction, rfl, digit, wholeDigits, fractional⟩, split⟩
    obtain ⟨rfl, rfl⟩ := List.cons.inj split
    refine ⟨digit, ?_⟩
    -- Either there is another digit, and a numeral without the first one, or the
    -- fraction comes at once.
    cases whole with
    | cons e whole =>
      obtain ⟨first, others⟩ := List.forall_mem_cons.mp wholeDigits
      exact .inr (.inl ⟨_, ⟨e, whole, fraction, rfl, first, others, fractional⟩, rfl⟩)
    | nil =>
      rcases fractional with rfl | ⟨run, rfl, runDigits⟩
      · exact .inl rfl
      · exact .inr (.inr ⟨run, runDigits, rfl⟩)
  · rintro ⟨digit, rfl | ⟨_, ⟨d, whole, fraction, rfl, first, others, fractional⟩, rfl⟩ |
      ⟨run, runDigits, rfl⟩⟩
    · exact ⟨[c], ⟨c, [], [], rfl, digit, by simp, .inl rfl⟩, rfl⟩
    · exact ⟨c :: d :: (whole ++ fraction),
        ⟨c, d :: whole, fraction, rfl, digit, List.forall_mem_cons.mpr ⟨first, others⟩,
          fractional⟩, rfl⟩
    · exact ⟨c :: '.' :: run, ⟨c, [], '.' :: run, rfl, digit, by simp, .inr ⟨run, rfl, runDigits⟩⟩,
        rfl⟩

theorem not_unsigned_nil {rest : List Char} : ¬ ∃ x, IsUnsigned x ∧ [] = x ++ rest := by
  rintro ⟨x, ⟨c, whole, fraction, rfl, _⟩, split⟩
  cases split

theorem mem_restsOfUnsigned {s rest : List Char} {after : List (List Char)} :
    rest ∈ restsOfUnsigned s after ↔ rest ∈ after ∨ ∃ x, IsUnsigned x ∧ s = x ++ rest := by
  fun_induction restsOfUnsigned s after with
  | case1 after => simp only [not_unsigned_nil, or_false]
  | case2 c after digit =>
    simp only [unsigned_cons_iff, digit, not_unsigned_nil, List.mem_cons]
    grind
  | case3 c after digit fraction =>
    -- After the point only digits may follow, so the rest is that of a run.
    have noNumeral : ¬ ∃ x, IsUnsigned x ∧ '.' :: fraction = x ++ rest := by
      rw [unsigned_cons_iff]
      exact fun starts => absurd starts.1 (by decide)
    simp only [unsigned_cons_iff (c := c), digit, noNumeral, mem_restsOfRun, List.mem_cons,
      List.cons.injEq, true_and, false_or]
    grind
  | case4 c after digit d tail notPoint dDigit ih =>
    rw [ih, unsigned_cons_iff (c := c)]
    grind
  | case5 c after digit d tail notPoint notDigit =>
    have noNumeral : ¬ ∃ x, IsUnsigned x ∧ d :: tail = x ++ rest := by
      rw [unsigned_cons_iff]
      exact fun starts => notDigit starts.1
    simp only [unsigned_cons_iff (c := c), digit, noNumeral, List.mem_cons]
    grind
  | case6 c s after notDigit =>
    have noNumeral : ¬ ∃ x, IsUnsigned x ∧ c :: s = x ++ rest := by
      rw [unsigned_cons_iff]
      exact fun starts => notDigit starts.1
    simp only [noNumeral, or_false]

theorem mem_signed_iff {s rest : List Char} :
    (∃ x, IsNumeral x ∧ s = x ++ rest) ↔
      (∃ x, IsUnsigned x ∧ s = x ++ rest) ∨
        ∃ unsigned, s = '-' :: unsigned ∧ ∃ x, IsUnsigned x ∧ unsigned = x ++ rest := by
  constructor
  · rintro ⟨_, fits | ⟨x, rfl, fits⟩, rfl⟩
    · exact .inl ⟨_, fits, rfl⟩
    · exact .inr ⟨x ++ rest, rfl, x, fits, rfl⟩
  · rintro (⟨x, fits, rfl⟩ | ⟨_, rfl, x, fits, rfl⟩)
    · exact ⟨x, .inl fits, rfl⟩
    · exact ⟨'-' :: x, .inr ⟨x, rfl, fits⟩, rfl⟩

/-- Without a sign, the second clause of `rests` applies. -/
theorem rests_numeral_cons {c : Char} (notSign : c ≠ '-') (s : List Char) :
    Piece.numeral.rests (c :: s) = restsOfUnsigned (c :: s) [] := by
  simp [Piece.rests, notSign]

theorem mem_numeral_rests {s rest : List Char} :
    rest ∈ Piece.numeral.rests s ↔ ∃ x, IsNumeral x ∧ s = x ++ rest := by
  rw [mem_signed_iff]
  rcases s with _ | ⟨c, s⟩
  · simp only [Piece.rests, mem_restsOfUnsigned, not_unsigned_nil]
    simp
  · by_cases sign : c = '-'
    · subst sign
      have noUnsigned : ¬ ∃ x, IsUnsigned x ∧ '-' :: s = x ++ rest := by
        rw [unsigned_cons_iff]
        exact fun starts => absurd starts.1 (by decide)
      simp only [Piece.rests, mem_restsOfUnsigned, noUnsigned, List.not_mem_nil, false_or,
        List.cons.injEq, true_and, exists_eq_left']
    · simp only [rests_numeral_cons sign, mem_restsOfUnsigned, sign, List.not_mem_nil,
        List.cons.injEq, false_and, exists_false, false_or, or_false]

/-- A piece ends where a text of its language does. -/
theorem Piece.mem_rests {piece : Piece} {s rest : List Char} :
    rest ∈ piece.rests s ↔ ∃ x ∈ piece.language, s = x ++ rest := by
  cases piece with
  | blanks => simp only [rests, mem_restsOfRun, mem_blanks_language, List.not_mem_nil, false_or]
  | numeral => simp only [mem_numeral_rests, mem_numeral_language]
  | oneOf spellings =>
    simp only [rests, List.mem_filterMap, mem_oneOf_language, Option.ite_none_right_eq_some,
      Option.some.injEq, List.isPrefixOf_iff_prefix, ← String.length_toList]
    constructor
    · rintro ⟨spelling, member, ⟨tail, rfl⟩, rfl⟩
      exact ⟨spelling.toList, ⟨spelling, member, rfl⟩, by rw [List.drop_left]⟩
    · rintro ⟨_, ⟨spelling, member, rfl⟩, rfl⟩
      exact ⟨spelling, member, List.prefix_append .., by rw [List.drop_left]⟩

end Reckoner
