import Reckoner.Value
import Mathlib.Data.List.TakeWhile

/-! # Decimal notation

A sign, digits with a point among them, and an exponent; all of them but the digits may be left
out:

* `takeWhile_digits_append` — a run of digits is cut off where it ends.
* `Numeral.Sign`, `Mantissa`, `Exponent` — the parts.
* `Numeral.read?_eq_some_iff` — the notation is read exactly where it is written.
-/

namespace Reckoner

/-! ## Runs of digits -/

theorem takeWhile_digits_append {digits rest : List Char} (run : ∀ c ∈ digits, isDigit c = true)
    (stops : ∀ c ∈ rest.head?, isDigit c = false) :
    (digits ++ rest).takeWhile isDigit = digits ∧ (digits ++ rest).dropWhile isDigit = rest := by
  rw [List.takeWhile_append_of_pos run, List.dropWhile_append_of_pos run]
  cases rest with
  | nil => simp
  | cons c rest =>
    have other : isDigit c = false := stops c rfl
    simp [other]

theorem head?_dropWhile_isDigit (s : List Char) :
    ∀ c ∈ (s.dropWhile isDigit).head?, isDigit c = false := by
  intro c first
  have stops := List.head?_dropWhile_not isDigit s
  rw [Option.mem_def.mp first] at stops
  simpa using stops

namespace Numeral

/-! ## Parts of decimal notation -/

/-- A sign or none, and whether it is a minus. -/
inductive Sign : List Char → Bool → Prop where
  | absent : Sign [] false
  | plus : Sign ['+'] false
  | minus : Sign ['-'] true

/-- The sign that is written only where it is needed. -/
theorem Sign.shortest (negative : Bool) : Sign (if negative then ['-'] else []) negative := by
  cases negative with
  | false => exact .absent
  | true => exact .minus

/-- Digits with at most one point before, among or behind them, and how many of them stand behind
it. -/
inductive Mantissa : List Char → (digits : List Char) → (places : Nat) → Prop where
  | whole {digits : List Char} :
      digits ≠ [] → (∀ c ∈ digits, isDigit c = true) → Mantissa digits digits 0
  | pointed {whole fraction : List Char} :
      whole ++ fraction ≠ [] → (∀ c ∈ whole ++ fraction, isDigit c = true) →
        Mantissa (whole ++ '.' :: fraction) (whole ++ fraction) fraction.length

/-- An exponent behind its mark, or none. -/
inductive Exponent : List Char → Int → Prop where
  | absent : Exponent [] 0
  | marked {mark : Char} {sign digits : List Char} {negative : Bool} :
      mark = 'e' ∨ mark = 'E' → Sign sign negative → digits ≠ [] →
        (∀ c ∈ digits, isDigit c = true) →
          Exponent (mark :: (sign ++ digits))
            (if negative then -(digitsValue digits : Int) else digitsValue digits)

/-! ## Reading the parts -/

theorem sign_splitSign (s : List Char) :
    ∃ sign, Sign sign (splitSign s).1 ∧ s = sign ++ (splitSign s).2 := by
  unfold splitSign
  split
  · exact ⟨_, .minus, rfl⟩
  · exact ⟨_, .plus, rfl⟩
  · exact ⟨_, .absent, rfl⟩

theorem Sign.splitSign_append {sign rest : List Char} {negative : Bool}
    (isSign : Sign sign negative) (unsigned : ∀ c ∈ rest.head?, c ≠ '-' ∧ c ≠ '+') :
    splitSign (sign ++ rest) = (negative, rest) := by
  cases isSign with
  | plus => rfl
  | minus => rfl
  | absent =>
    rw [List.nil_append]
    unfold splitSign
    split
    · exact absurd rfl (unsigned '-' rfl).1
    · exact absurd rfl (unsigned '+' rfl).2
    · rfl

theorem ne_sign_of_isDigit {c : Char} (digit : isDigit c = true) : c ≠ '-' ∧ c ≠ '+' := by
  constructor <;> (rintro rfl; cases digit)

theorem readExponent?_eq_some_iff {s : List Char} {e : Int} :
    readExponent? s = some e ↔
      ∃ sign negative digits, Sign sign negative ∧ digits ≠ [] ∧
        (∀ c ∈ digits, isDigit c = true) ∧ s = sign ++ digits ∧
          e = if negative then -(digitsValue digits : Int) else digitsValue digits := by
  constructor
  · intro reads
    obtain ⟨sign, isSign, split⟩ := sign_splitSign s
    simp only [readExponent?, Option.ite_none_left_eq_some, Option.some.injEq, Bool.or_eq_true,
      not_or, List.isEmpty_iff, Bool.not_eq_true', Bool.not_eq_false, List.all_eq_true] at reads
    obtain ⟨⟨nonempty, run⟩, rfl⟩ := reads
    exact ⟨sign, _, _, isSign, nonempty, run, split, rfl⟩
  · rintro ⟨sign, negative, digits, isSign, nonempty, run, rfl, rfl⟩
    have unsigned : ∀ c ∈ digits.head?, c ≠ '-' ∧ c ≠ '+' := fun c first =>
      ne_sign_of_isDigit (run c (List.mem_of_mem_head? first))
    simpa [readExponent?, isSign.splitSign_append unsigned, nonempty] using run

/-- What follows a mantissa begins with no digit and with no point. -/
theorem Exponent.stops {s : List Char} {e : Int} (exponent : Exponent s e) :
    ∀ c ∈ s.head?, isDigit c = false ∧ c ≠ '.' := by
  cases exponent with
  | absent => simp
  | marked mark _ _ _ =>
    rintro c ⟨⟩
    rcases mark with rfl | rfl <;> exact ⟨rfl, by decide⟩

/-- The exponent that a text is read as in the place of one. -/
def exponentOf? : List Char → Option Int
  | [] => some 0
  | c :: rest => if c == 'e' || c == 'E' then readExponent? rest else none

theorem exponentOf?_eq_some_iff {s : List Char} {e : Int} :
    exponentOf? s = some e ↔ Exponent s e := by
  constructor
  · intro reads
    cases s with
    | nil =>
      cases reads
      exact .absent
    | cons mark rest =>
      simp only [exponentOf?, Option.ite_none_right_eq_some, Bool.or_eq_true, beq_iff_eq] at reads
      obtain ⟨isMark, reads⟩ := reads
      obtain ⟨sign, negative, digits, isSign, nonempty, run, rfl, rfl⟩ :=
        readExponent?_eq_some_iff.mp reads
      exact .marked isMark isSign nonempty run
  · intro exponent
    cases exponent with
    | absent => rfl
    | marked mark isSign nonempty run =>
      have reads := readExponent?_eq_some_iff.mpr ⟨_, _, _, isSign, nonempty, run, rfl, rfl⟩
      rcases mark with rfl | rfl <;> exact reads

/-- What a text is read as that has its whole digits and its fraction cut off. -/
def assemble? (negative : Bool) (whole fraction after : List Char) : Option Numeral :=
  match exponentOf? after with
  | some exponent =>
      if whole.isEmpty && fraction.isEmpty then none
      else some ⟨negative, digitsValue (whole ++ fraction), exponent - fraction.length⟩
  | none => none

theorem assemble?_eq_some_iff {negative : Bool} {whole fraction after : List Char} {n : Numeral} :
    assemble? negative whole fraction after = some n ↔
      whole ++ fraction ≠ [] ∧ ∃ exponent, Exponent after exponent ∧
        n = ⟨negative, digitsValue (whole ++ fraction), exponent - fraction.length⟩ := by
  simp only [← exponentOf?_eq_some_iff, assemble?]
  cases exponentOf? after with
  | none => simp
  | some exponent => simp [@eq_comm _ n]

/-- The digits behind a point, if there is one, and what is left. -/
def cutFraction : List Char → List Char × List Char
  | '.' :: rest => (rest.takeWhile isDigit, rest.dropWhile isDigit)
  | rest => ([], rest)

theorem readUnsigned?_eq_assemble? (negative : Bool) (s : List Char) :
    readUnsigned? negative s =
      assemble? negative (s.takeWhile isDigit) (cutFraction (s.dropWhile isDigit)).1
        (cutFraction (s.dropWhile isDigit)).2 := rfl

theorem readUnsigned?_pointed {negative : Bool} {whole rest : List Char}
    (run : ∀ c ∈ whole, isDigit c = true) :
    readUnsigned? negative (whole ++ '.' :: rest) =
      assemble? negative whole (rest.takeWhile isDigit) (rest.dropWhile isDigit) := by
  have stops : ∀ c ∈ ('.' :: rest).head?, isDigit c = false := by
    rintro c ⟨⟩
    rfl
  obtain ⟨taken, dropped⟩ := takeWhile_digits_append run stops
  rw [readUnsigned?_eq_assemble?, taken, dropped]
  rfl

theorem readUnsigned?_whole {negative : Bool} {whole rest : List Char}
    (run : ∀ c ∈ whole, isDigit c = true)
    (stops : ∀ c ∈ rest.head?, isDigit c = false ∧ c ≠ '.') :
    readUnsigned? negative (whole ++ rest) = assemble? negative whole [] rest := by
  obtain ⟨taken, dropped⟩ := takeWhile_digits_append run fun c first => (stops c first).1
  have uncut : cutFraction rest = ([], rest) := by
    cases rest with
    | nil => rfl
    | cons c rest =>
      have notPoint : c ≠ '.' := (stops c rfl).2
      simp [cutFraction, notPoint]
  rw [readUnsigned?_eq_assemble?, taken, dropped, uncut]

/-- Decimal notation without a sign is read exactly where it is written. -/
theorem readUnsigned?_eq_some_iff {negative : Bool} {s : List Char} {n : Numeral} :
    readUnsigned? negative s = some n ↔
      ∃ body digits places part exponent, Mantissa body digits places ∧ Exponent part exponent ∧
        s = body ++ part ∧ n = ⟨negative, digitsValue digits, exponent - places⟩ := by
  constructor
  · intro reads
    have split : s = s.takeWhile isDigit ++ s.dropWhile isDigit :=
      List.takeWhile_append_dropWhile.symm
    have run : ∀ c ∈ s.takeWhile isDigit, isDigit c = true := fun c => List.mem_takeWhile_imp
    have ends := head?_dropWhile_isDigit s
    generalize s.takeWhile isDigit = whole at split run
    generalize s.dropWhile isDigit = rest at split ends
    subst split
    -- Behind the first digits there is a point, or the mantissa has none.
    by_cases point : rest.head? = some '.'
    · obtain ⟨rest, rfl⟩ := List.head?_eq_some_iff.mp point
      rw [readUnsigned?_pointed run, assemble?_eq_some_iff] at reads
      obtain ⟨nonempty, exponent, isExponent, rfl⟩ := reads
      have digits : ∀ c ∈ whole ++ rest.takeWhile isDigit, isDigit c = true :=
        List.forall_mem_append.mpr ⟨run, fun c => List.mem_takeWhile_imp⟩
      refine ⟨_, _, _, _, _, .pointed nonempty digits, isExponent, ?_, rfl⟩
      rw [List.append_assoc, List.cons_append, List.takeWhile_append_dropWhile]
    · have stops : ∀ c ∈ rest.head?, isDigit c = false ∧ c ≠ '.' := fun c first =>
        ⟨ends c first, fun isPoint => point (isPoint ▸ first)⟩
      rw [readUnsigned?_whole run stops, assemble?_eq_some_iff, List.append_nil] at reads
      obtain ⟨nonempty, exponent, isExponent, rfl⟩ := reads
      exact ⟨_, _, _, _, _, .whole nonempty run, isExponent, rfl, rfl⟩
  · rintro ⟨_, _, _, part, exponent, mantissa, isExponent, rfl, rfl⟩
    cases mantissa with
    | whole nonempty run =>
      rw [readUnsigned?_whole run isExponent.stops, assemble?_eq_some_iff, List.append_nil]
      exact ⟨nonempty, exponent, isExponent, rfl⟩
    | @pointed whole fraction nonempty run =>
      obtain ⟨wholeRun, fractionRun⟩ := List.forall_mem_append.mp run
      obtain ⟨taken, dropped⟩ :=
        takeWhile_digits_append fractionRun fun c first => (isExponent.stops c first).1
      rw [List.append_assoc, List.cons_append, readUnsigned?_pointed wholeRun, taken, dropped,
        assemble?_eq_some_iff]
      exact ⟨nonempty, exponent, isExponent, rfl⟩

theorem Mantissa.unsigned {body digits : List Char} {places : Nat}
    (mantissa : Mantissa body digits places) (rest : List Char) :
    ∀ c ∈ (body ++ rest).head?, isDigit c = true ∨ c = '.' := by
  cases mantissa with
  | whole nonempty run =>
    obtain ⟨d, more, rfl⟩ := List.exists_cons_of_ne_nil nonempty
    rintro c ⟨⟩
    exact .inl (run d (List.mem_cons_self ..))
  | @pointed whole fraction _ run =>
    cases whole with
    | nil =>
      rintro c ⟨⟩
      exact .inr rfl
    | cons d more =>
      rintro c ⟨⟩
      exact .inl (run d (List.mem_cons_self ..))

theorem ne_sign_of_digit_or_point {c : Char} (unsigned : isDigit c = true ∨ c = '.') :
    c ≠ '-' ∧ c ≠ '+' := by
  rcases unsigned with digit | rfl
  · exact ne_sign_of_isDigit digit
  · decide

/-- Decimal notation is read exactly where it is written. -/
theorem read?_eq_some_iff {s : List Char} {n : Numeral} :
    read? s = some n ↔
      ∃ sign negative body digits places part exponent, Sign sign negative ∧
        Mantissa body digits places ∧ Exponent part exponent ∧ s = sign ++ (body ++ part) ∧
          n = ⟨negative, digitsValue digits, exponent - places⟩ := by
  constructor
  · intro reads
    obtain ⟨sign, isSign, split⟩ := sign_splitSign s
    obtain ⟨body, digits, places, part, exponent, mantissa, isExponent, rest, rfl⟩ :=
      readUnsigned?_eq_some_iff.mp reads
    exact ⟨sign, _, body, digits, places, part, exponent, isSign, mantissa, isExponent,
      rest ▸ split, rfl⟩
  · rintro ⟨sign, negative, body, digits, places, part, exponent, isSign, mantissa, isExponent,
      rfl, rfl⟩
    have unsigned : ∀ c ∈ (body ++ part).head?, c ≠ '-' ∧ c ≠ '+' := fun c first =>
      ne_sign_of_digit_or_point (mantissa.unsigned part c first)
    simp only [read?, isSign.splitSign_append unsigned]
    exact readUnsigned?_eq_some_iff.mpr
      ⟨body, digits, places, part, exponent, mantissa, isExponent, rfl, rfl⟩

end Numeral

end Reckoner
