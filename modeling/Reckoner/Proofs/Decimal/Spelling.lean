import Reckoner.Proofs.Binary64.Whole
import Reckoner.Proofs.Decimal.Digits
import Reckoner.Proofs.Decimal.Notation
import Reckoner.Proofs.Text.Runs
import Mathlib.Data.Nat.Digits.Defs

/-! # How numbers are spelt

A text stands for a number if it is spelt in one of four ways: by nothing at all, in the digits of
a marked base, as an infinity, or in decimal notation with or without a sign, a point and an
exponent.  Blanks around it do not count.

* `wholeInBase?_eq_some_iff` — the digits of a base are read exactly where they are written.
* `Binary64.Spelling`, `Binary64.StandsFor` — what a text stands for.
* `Binary64.read_eq_iff`, `read_eq_nan_iff` — a text is read as what it stands for, and as NaN if
  that is nothing.
* `Binary64.read_wholeChars` — a written whole number is read as the number nearest to it.
-/

namespace Reckoner

/-! ## Digits of a base -/

/-- The values of digits in a base, most significant first. -/
def AreDigits (base : Nat) (s : List Char) (values : List Nat) : Prop :=
  s.map digitValue? = values.map some ∧ ∀ d ∈ values, d < base

theorem areDigits_cons_iff {base : Nat} {c : Char} {s : List Char} {values : List Nat} :
    AreDigits base (c :: s) values ↔
      ∃ d later, values = d :: later ∧ digitValue? c = some d ∧ d < base ∧
        AreDigits base s later := by
  cases values with
  | nil => simp [AreDigits]
  | cons d later =>
    simp only [AreDigits, List.map_cons, List.cons.injEq, List.forall_mem_cons]
    constructor
    · rintro ⟨⟨here, others⟩, small, allSmall⟩
      exact ⟨d, later, ⟨rfl, rfl⟩, here, small, others, allSmall⟩
    · rintro ⟨_, _, ⟨rfl, rfl⟩, here, small, others, allSmall⟩
      exact ⟨⟨here, others⟩, small, allSmall⟩

/-- One digit more of a number in a base. -/
def addDigit? (base : Nat) (n? : Option Nat) (c : Char) : Option Nat :=
  match n?, digitValue? c with
  | some n, some d => if d < base then some (base * n + d) else none
  | _, _ => none

theorem foldl_addDigit?_none (base : Nat) (s : List Char) :
    s.foldl (addDigit? base) none = none := by
  induction s with
  | nil => rfl
  | cons c s ih => exact ih

theorem foldl_addDigit?_eq_some_iff {base : Nat} {s : List Char} {m n : Nat} :
    s.foldl (addDigit? base) (some m) = some n ↔
      ∃ values, AreDigits base s values ∧ n = Nat.ofDigits base (values.reverse ++ [m]) := by
  -- The number that has been read so far stands before all the digits to come.
  induction s generalizing m with
  | nil =>
    constructor
    · rintro ⟨⟩
      exact ⟨[], ⟨rfl, by simp⟩, by simp⟩
    · rintro ⟨values, ⟨same, -⟩, rfl⟩
      cases values with
      | nil => simp
      | cons d later => cases same
  | cons c s ih =>
    rw [List.foldl_cons]
    cases isDigit : digitValue? c with
    | none =>
      have none : addDigit? base (some m) c = none := by simp [addDigit?, isDigit]
      rw [none, foldl_addDigit?_none]
      simp [areDigits_cons_iff, isDigit]
    | some d =>
      by_cases small : d < base
      · have next : addDigit? base (some m) c = some (base * m + d) := by
          simp [addDigit?, isDigit, small]
        rw [next, ih]
        have shifted (later : List Nat) :
            Nat.ofDigits base (later.reverse ++ [base * m + d]) =
              Nat.ofDigits base ((d :: later).reverse ++ [m]) := by
          rw [List.reverse_cons, List.append_assoc, Nat.ofDigits_append, Nat.ofDigits_append]
          simp [Nat.ofDigits_cons, Nat.add_comm d]
        constructor
        · rintro ⟨later, areDigits, rfl⟩
          exact ⟨d :: later, areDigits_cons_iff.mpr ⟨d, later, rfl, isDigit, small, areDigits⟩,
            shifted later⟩
        · rintro ⟨_, areDigits, rfl⟩
          obtain ⟨e, later, rfl, same, -, others⟩ := areDigits_cons_iff.mp areDigits
          obtain rfl := Option.some.inj (isDigit.symm.trans same)
          exact ⟨later, others, (shifted later).symm⟩
      · have none : addDigit? base (some m) c = none := by simp [addDigit?, isDigit, small]
        rw [none, foldl_addDigit?_none]
        simp [areDigits_cons_iff, isDigit, small]

/-- A text is read in a base exactly if it has digits of the base, and nothing else. -/
theorem wholeInBase?_eq_some_iff {base : Nat} {s : List Char} {n : Nat} :
    wholeInBase? base s = some n ↔
      s ≠ [] ∧ ∃ values, AreDigits base s values ∧ n = Nat.ofDigits base values.reverse := by
  have fold : wholeInBase? base s =
      if s.isEmpty then none else s.foldl (addDigit? base) (some 0) := rfl
  rw [fold, Option.ite_none_left_eq_some, List.isEmpty_iff, foldl_addDigit?_eq_some_iff]
  simp only [Nat.ofDigits_append_zero]

/-! ## Marked bases -/

namespace Binary64

/-- The marks of bases behind a zero. -/
def markedBases : List (Char × Nat) :=
  [('x', 16), ('X', 16), ('o', 8), ('O', 8), ('b', 2), ('B', 2)]

def baseOf? (mark : Char) : Option Nat :=
  if mark == 'x' || mark == 'X' then some 16
  else if mark == 'o' || mark == 'O' then some 8
  else if mark == 'b' || mark == 'B' then some 2
  else none

/-- A mark goes on with no decimal notation, and it is no blank. -/
theorem plain_of_mark {mark : Char} {base : Nat} (isMark : (mark, base) ∈ markedBases) :
    isDigit mark = false ∧ mark ∉ ['.', 'e', 'E'] ∧ Text.isBlank mark = false := by
  have all : ∀ entry ∈ markedBases, isDigit entry.1 = false ∧ entry.1 ∉ ['.', 'e', 'E'] ∧
      Text.isBlank entry.1 = false := by decide
  exact all _ isMark

theorem baseOf?_eq_some_iff {mark : Char} {base : Nat} :
    baseOf? mark = some base ↔ (mark, base) ∈ markedBases := by
  constructor
  · intro based
    unfold baseOf? at based
    simp only [Bool.or_eq_true, beq_iff_eq] at based
    split_ifs at based with isMark isMark isMark <;> cases based <;>
      rcases isMark with rfl | rfl <;> decide
  · intro isMark
    have all : ∀ entry ∈ markedBases, baseOf? entry.1 = some entry.2 := by decide
    exact all _ isMark

theorem readMarked?_eq_some_iff {s : List Char} {x : Binary64} :
    readMarked? s = some x ↔
      ∃ mark base digits values, s = '0' :: mark :: digits ∧ (mark, base) ∈ markedBases ∧
        digits ≠ [] ∧ AreDigits base digits values ∧
          x = ofNat (Nat.ofDigits base values.reverse) := by
  have marked (mark : Char) (digits : List Char) : readMarked? ('0' :: mark :: digits) =
      (baseOf? mark).bind fun base => (wholeInBase? base digits).map ofNat := by
    simp only [readMarked?, baseOf?]
  constructor
  · intro reads
    unfold readMarked? at reads
    split at reads
    next mark digits =>
      obtain ⟨base, based, reads⟩ := Option.bind_eq_some_iff.mp reads
      obtain ⟨n, whole, isNearest⟩ := Option.map_eq_some_iff.mp reads
      obtain ⟨nonempty, values, areDigits, rfl⟩ := wholeInBase?_eq_some_iff.mp whole
      exact ⟨mark, base, digits, values, rfl, baseOf?_eq_some_iff.mp based, nonempty, areDigits,
        isNearest.symm⟩
    next => cases reads
  · rintro ⟨mark, base, digits, values, rfl, isMark, nonempty, areDigits, isNearest⟩
    have whole : wholeInBase? base digits = some (Nat.ofDigits base values.reverse) :=
      wholeInBase?_eq_some_iff.mpr ⟨nonempty, values, areDigits, rfl⟩
    rw [marked, baseOf?_eq_some_iff.mpr isMark, Option.bind_some, whole, Option.map_some,
      isNearest]

/-- Decimal notation does not go on with a mark. -/
theorem read?_marked {mark : Char} {base : Nat} (isMark : (mark, base) ∈ markedBases)
    (digits : List Char) : Numeral.read? ('0' :: mark :: digits) = none := by
  obtain ⟨noDigit, plain, -⟩ := plain_of_mark isMark
  simp only [List.mem_cons, List.not_mem_nil, or_false, not_or] at plain
  obtain ⟨notPoint, lower, upper⟩ := plain
  have stops : ∀ c ∈ (mark :: digits).head?, isDigit c = false ∧ c ≠ '.' := by
    rintro c ⟨⟩
    exact ⟨noDigit, notPoint⟩
  have noExponent : Numeral.exponentOf? (mark :: digits) = none := by
    simp [Numeral.exponentOf?, lower, upper]
  have zero : ∀ c ∈ ['0'], isDigit c = true := by simp [isDigit]
  show Numeral.readUnsigned? false (['0'] ++ mark :: digits) = none
  rw [Numeral.readUnsigned?_whole zero stops, Numeral.assemble?, noExponent]

/-! ## Whole texts -/

/-- What a text stands for that has no blanks at its ends. -/
inductive Spelling : List Char → Binary64 → Prop where
  | empty : Spelling [] (zero false)
  | marked {mark : Char} {base : Nat} {digits : List Char} {values : List Nat} :
      (mark, base) ∈ markedBases → digits ≠ [] → AreDigits base digits values →
        Spelling ('0' :: mark :: digits) (ofNat (Nat.ofDigits base values.reverse))
  | infinity {sign : List Char} {negative : Bool} :
      Numeral.Sign sign negative → Spelling (sign ++ "Infinity".toList) (infinite negative)
  | decimal {sign body digits part : List Char} {negative : Bool} {places : Nat}
      {exponent : Int} :
      Numeral.Sign sign negative → Numeral.Mantissa body digits places →
        Numeral.Exponent part exponent →
          Spelling (sign ++ (body ++ part))
            (Numeral.toBinary64 ⟨negative, digitsValue digits, exponent - places⟩)

/-- What a text stands for, blanks at its ends apart. -/
def StandsFor (s : List Char) (x : Binary64) : Prop :=
  ∃ before body after, s = before ++ (body ++ after) ∧ (∀ c ∈ before, Text.isBlank c = true) ∧
    (∀ c ∈ after, Text.isBlank c = true) ∧ Spelling body x

/-! ### No blanks inside -/

theorem sign_inked {sign : List Char} {negative : Bool} (isSign : Numeral.Sign sign negative) :
    ∀ c ∈ sign, Text.isBlank c = false := by
  cases isSign <;> simp [Text.isBlank]

theorem mantissa_inked {body digits : List Char} {places : Nat}
    (mantissa : Numeral.Mantissa body digits places) : ∀ c ∈ body, Text.isBlank c = false := by
  cases mantissa with
  | whole _ run => exact fun c member => isBlank_of_isDigit (run c member)
  | pointed _ run =>
    obtain ⟨whole, fraction⟩ := List.forall_mem_append.mp run
    simp only [List.forall_mem_append, List.forall_mem_cons]
    exact ⟨fun c member => isBlank_of_isDigit (whole c member), rfl,
      fun c member => isBlank_of_isDigit (fraction c member)⟩

theorem exponent_inked {part : List Char} {exponent : Int}
    (isExponent : Numeral.Exponent part exponent) : ∀ c ∈ part, Text.isBlank c = false := by
  cases isExponent with
  | absent => simp
  | marked mark isSign _ run =>
    simp only [List.forall_mem_append, List.forall_mem_cons]
    refine ⟨?_, sign_inked isSign, fun c member => isBlank_of_isDigit (run c member)⟩
    rcases mark with rfl | rfl <;> rfl

theorem isBlank_of_digitValue? {c : Char} {d : Nat} (isDigit : digitValue? c = some d) :
    Text.isBlank c = false := by
  have within : 48 ≤ c.toNat ∧ c.toNat ≤ 122 := by
    simp only [digitValue?, Bool.and_eq_true, decide_eq_true_eq] at isDigit
    split at isDigit
    next => omega
    split at isDigit
    next => omega
    split at isDigit
    next => omega
    next => cases isDigit
  simp only [Text.isBlank, Bool.or_eq_false_iff, Bool.and_eq_false_iff, decide_eq_false_iff_not,
    beq_eq_false_iff_ne]
  omega

theorem areDigits_inked {base : Nat} {digits : List Char} {values : List Nat}
    (areDigits : AreDigits base digits values) : ∀ c ∈ digits, Text.isBlank c = false := by
  intro c member
  have valued : digitValue? c ∈ values.map some := areDigits.1 ▸ List.mem_map_of_mem member
  obtain ⟨d, -, value⟩ := List.mem_map.mp valued
  exact isBlank_of_digitValue? value.symm

theorem Spelling.inked {s : List Char} {x : Binary64} (spelling : Spelling s x) :
    ∀ c ∈ s, Text.isBlank c = false := by
  cases spelling with
  | empty => simp
  | marked isMark _ areDigits =>
    simp only [List.forall_mem_cons]
    exact ⟨rfl, (plain_of_mark isMark).2.2, areDigits_inked areDigits⟩
  | infinity isSign =>
    rw [List.forall_mem_append]
    exact ⟨sign_inked isSign, by simp [Text.isBlank]⟩
  | decimal isSign mantissa isExponent =>
    simp only [List.forall_mem_append]
    exact ⟨sign_inked isSign, mantissa_inked mantissa, exponent_inked isExponent⟩

/-! ### Reading -/

theorem read_trim (s : List Char) : read (Text.trim s) = read s := by
  simp only [read, Text.trim_trim]

theorem Spelling.trim {s : List Char} {x : Binary64} (spelling : Spelling s x) :
    Text.trim s = s :=
  Text.trim_eq_self (fun c first => spelling.inked c (List.mem_of_mem_head? first))
    fun c last => spelling.inked c (List.mem_of_getLast? last)

theorem Spelling.read {s : List Char} {x : Binary64} (spelling : Spelling s x) : read s = x := by
  have trimmed := spelling.trim
  unfold Binary64.read
  rw [trimmed]
  cases spelling with
  | empty => rfl
  | @marked mark base digits values isMark nonempty areDigits =>
    generalize isNearest : ofNat (Nat.ofDigits base values.reverse) = x
    have reads := readMarked?_eq_some_iff.mpr
      ⟨mark, base, digits, values, rfl, isMark, nonempty, areDigits, isNearest.symm⟩
    simp [Numeral.splitSign, reads]
  | @infinity sign negative isSign =>
    have unsigned : ∀ c ∈ "Infinity".toList.head?, c ≠ '-' ∧ c ≠ '+' := by simp
    have split := isSign.splitSign_append unsigned
    have nonempty : (sign ++ "Infinity".toList).isEmpty = false := by simp
    simp only [split, nonempty, Bool.false_eq_true, if_false, if_true]
  | @decimal sign body digits part negative places exponent isSign mantissa isExponent =>
    have unsigned := mantissa.unsigned part
    have split := isSign.splitSign_append fun c first =>
      Numeral.ne_sign_of_digit_or_point (unsigned c first)
    have reads := Numeral.read?_eq_some_iff.mpr
      ⟨_, _, _, _, _, _, _, isSign, mantissa, isExponent, rfl, rfl⟩
    -- Nothing else is read: an infinity begins with a letter, and a mark would end the digits.
    have finite : body ++ part ≠ "Infinity".toList := by
      intro same
      rw [same] at unsigned
      exact absurd (unsigned 'I' rfl) (by decide)
    have nonempty : sign ++ (body ++ part) ≠ [] := by
      intro empty
      rw [empty] at reads
      cases reads
    have unmarked : readMarked? (sign ++ (body ++ part)) = none := by
      rw [Option.eq_none_iff_forall_ne_some]
      intro x marked
      obtain ⟨mark, base, rest, _, begins, isMark, -⟩ := readMarked?_eq_some_iff.mp marked
      rw [begins, read?_marked isMark] at reads
      cases reads
    simp only [split, finite, nonempty, unmarked, reads, List.isEmpty_iff, if_false]

/-- A text that is read as a number is spelt as that number. -/
theorem spelling_of_read {s : List Char} (trimmed : Text.trim s = s)
    (number : Binary64.read s ≠ nan) : Spelling s (Binary64.read s) := by
  unfold Binary64.read at number ⊢
  rw [trimmed] at number ⊢
  by_cases empty : s = []
  · subst empty
    exact .empty
  by_cases infinite : (Numeral.splitSign s).2 = "Infinity".toList
  · obtain ⟨sign, isSign, split⟩ := Numeral.sign_splitSign s
    rw [infinite] at split
    simp only [List.isEmpty_iff, empty, if_false, infinite, if_true]
    generalize (Numeral.splitSign s).1 = negative at isSign
    exact split ▸ .infinity isSign
  simp only [List.isEmpty_iff, empty, if_false, infinite] at number ⊢
  cases marked : readMarked? s with
  | some x =>
    obtain ⟨mark, base, digits, values, rfl, isMark, nonempty, areDigits, isNearest⟩ :=
      readMarked?_eq_some_iff.mp marked
    rw [isNearest]
    exact .marked isMark nonempty areDigits
  | none =>
    rw [marked] at number
    cases reads : Numeral.read? s with
    | none =>
      rw [reads] at number
      exact absurd rfl number
    | some n =>
      obtain ⟨sign, negative, body, digits, places, part, exponent, isSign, mantissa, isExponent,
        rfl, rfl⟩ := Numeral.read?_eq_some_iff.mp reads
      exact .decimal isSign mantissa isExponent

theorem toBinary64_ne_nan (n : Numeral) : n.toBinary64 ≠ nan := by
  unfold Numeral.toBinary64
  dsimp only
  split_ifs
  · simp [zero]
  · simp
  · simp [zero]
  · exact ofRatio_ne_nan _ _ _

theorem Spelling.ne_nan {s : List Char} {x : Binary64} (spelling : Spelling s x) : x ≠ nan := by
  cases spelling with
  | empty => simp [zero]
  | marked => exact ofNat_ne_nan _
  | infinity => simp
  | decimal => exact toBinary64_ne_nan _

theorem StandsFor.read {s : List Char} {x : Binary64} (stands : StandsFor s x) :
    Binary64.read s = x := by
  obtain ⟨before, body, after, rfl, blank, blank', spelling⟩ := stands
  rw [← read_trim, Text.trim_append_blank blank blank', read_trim, spelling.read]

theorem standsFor_read {s : List Char} (number : Binary64.read s ≠ nan) :
    StandsFor s (Binary64.read s) := by
  obtain ⟨before, after, split, blank, blank'⟩ := Text.exists_trim s
  rw [← read_trim] at number ⊢
  exact ⟨before, _, after, split, blank, blank', spelling_of_read (Text.trim_trim s) number⟩

/-- A text is read as the number that it stands for. -/
theorem read_eq_iff {s : List Char} {x : Binary64} (number : x ≠ nan) :
    Binary64.read s = x ↔ StandsFor s x :=
  ⟨fun reads => reads ▸ standsFor_read (reads ▸ number), StandsFor.read⟩

/-- A text that stands for no number is read as none. -/
theorem read_eq_nan_iff {s : List Char} : Binary64.read s = nan ↔ ∀ x, ¬StandsFor s x := by
  constructor
  · rintro reads x stands
    have ⟨_, _, _, _, _, _, spelling⟩ := stands
    exact spelling.ne_nan (stands.read.symm.trans reads)
  · intro none
    by_contra number
    exact none _ (standsFor_read number)

theorem read_wholeChars (n : Int) :
    read (wholeChars n) = Numeral.toBinary64 ⟨n < 0, n.natAbs, 0⟩ := by
  have digits : Numeral.Mantissa (digitChars n.natAbs) (digitChars n.natAbs) 0 :=
    .whole (digitChars_ne_nil _) fun c => isDigit_of_mem_digitChars
  have written := (Spelling.decimal (.shortest (n < 0)) digits .absent).read
  rw [digitsValue_digitChars] at written
  simpa [wholeChars] using written

theorem toInt?_read_eq_some_iff {s : List Char} {n : Int} :
    (Binary64.read s).toInt? = some n ↔ ∃ x, StandsFor s x ∧ x.toInt? = some n := by
  constructor
  · intro whole
    have number : Binary64.read s ≠ nan := by
      intro isNan
      rw [isNan] at whole
      cases whole
    exact ⟨_, standsFor_read number, whole⟩
  · rintro ⟨x, stands, whole⟩
    rw [stands.read, whole]

end Binary64

end Reckoner
