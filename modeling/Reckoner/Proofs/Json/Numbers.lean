import Reckoner.Json.Printer
import Reckoner.Json.Reader
import Reckoner.Proofs.Decimal.Positional

/-! # Numbers in JSON text

A number that is written and read again is the same number.  Only negative zero, which is written
like the other zero, is not told from it.

* `Numeral.toBinary64_of_readsAs` — a numeral is read as the number that it is nearest to.
* `Json.NumberText`, `Json.readNumber?_chars` — the notation, and what is read of it.
* `Json.exists_numberText` — all decimals are written in the notation.
* `Json.readNumber?_numberChars` — a finite number is read back.
-/

namespace Reckoner

/-! ## Numerals -/

/-- The least count and the largest ones, between powers of ten. -/
theorem exists_pow_bounds :
    ∃ a b : Nat, a ≤ 324 ∧ b ≤ 309 ∧
      unitsPerOne ≤ 10 ^ a ∧ 2 * countLimit ≤ 10 ^ b * unitsPerOne := by
  refine ⟨324, 309, le_rfl, le_rfl, ?_⟩
  decide +kernel

/-- The first digit of a decimal that is read as a finite number is not far from the point. -/
theorem Decimal.ReadsAs.point_bounds {c units : Nat} {e : Int} (count : IsCount units)
    (positive : 0 < units) (reads : (Decimal.mk c e).ReadsAs units) :
    -400 ≤ ((digitChars c).length : Int) + e ∧ ((digitChars c).length : Int) + e ≤ 400 := by
  obtain ⟨a, b, small, large, least, greatest⟩ := exists_pow_bounds
  obtain ⟨lower, upper⟩ := reads.bounds positive
  have nonempty := List.length_pos_iff.mpr (digitChars_ne_nil c)
  have below : c < 10 ^ (digitChars c).length := (length_digitChars_le_iff nonempty).mp le_rfl
  have above := pow_length_le (coefficient_pos positive reads)
  generalize (digitChars c).length = size at *
  have downPos : 0 < 10 ^ (-e).toNat := Nat.pow_pos (by decide)
  constructor
  · have bound : 10 ^ (-e).toNat < 10 ^ (size + e.toNat + a + 1) := by
      calc 10 ^ (-e).toNat ≤ units * 10 ^ (-e).toNat := Nat.le_mul_of_pos_left _ positive
        _ ≤ 2 * (c * 10 ^ e.toNat * unitsPerOne) := lower
        _ ≤ 2 * (c * 10 ^ e.toNat * 10 ^ a) := by gcongr
        _ < 10 * (10 ^ size * 10 ^ e.toNat * 10 ^ a) := by
          have digits := Nat.mul_lt_mul_of_pos_right below
            (Nat.pow_pos (n := e.toNat + a) (by decide : 0 < 10))
          rw [Nat.pow_add, ← Nat.mul_assoc, ← Nat.mul_assoc] at digits
          omega
        _ = 10 ^ (size + e.toNat + a + 1) := by ring
    have := (Nat.pow_lt_pow_iff_right (by decide)).mp bound
    omega
  · have bound : 10 ^ (size - 1 + e.toNat) < 10 ^ (b + (-e).toNat) := by
      have few := Nat.mul_lt_mul_of_pos_right count.1 downPos
      have greatest := Nat.mul_le_mul_right (10 ^ (-e).toNat) greatest
      have digits := Nat.mul_le_mul_right (10 ^ e.toNat * unitsPerOne) above
      apply Nat.lt_of_mul_lt_mul_right (a := unitsPerOne)
      rw [Nat.mul_assoc 2, Nat.mul_right_comm (10 ^ b), ← Nat.pow_add] at greatest
      rw [← Nat.mul_assoc, ← Nat.mul_assoc, ← Nat.pow_add] at digits
      omega
    have := (Nat.pow_lt_pow_iff_right (by decide)).mp bound
    omega

theorem Numeral.toBinary64_of_readsAs {n : Numeral} {units : Nat} (count : IsCount units)
    (positive : 0 < units) (reads : (Decimal.mk n.coefficient n.exponent).ReadsAs units) :
    n.toBinary64 = .finite n.negative units count := by
  have nonzero := (Decimal.coefficient_pos positive reads).ne'
  obtain ⟨above, below⟩ := reads.point_bounds count positive
  unfold digitChars at above below
  simp only [toBinary64, nonzero, above.not_gt, below.not_gt, if_false]
  exact Binary64.ofUnits_of_nearestCount n.negative count reads

namespace Json

/-! ## The notation -/

/-- A number with its sign, the digits before and behind the point, and its exponent. -/
structure NumberText where
  negative : Bool
  whole : List Char
  fraction : List Char
  exponent? : Option Int
  whole_digits : ∀ c ∈ whole, isDigit c = true
  fraction_digits : ∀ c ∈ fraction, isDigit c = true
  whole_ne_nil : whole ≠ []
  whole_leads : whole.head? = some '0' → whole.length = 1

namespace NumberText

def exponentPart (n : NumberText) : List Char :=
  match n.exponent? with
  | some exponent => 'e' :: Decimal.exponentChars exponent
  | none => []

/-- The point and what stands behind it. -/
def fractionPart (n : NumberText) : List Char :=
  if n.fraction = [] then [] else '.' :: n.fraction

/-- The notation without the sign. -/
def body (n : NumberText) : List Char :=
  n.whole ++ (n.fractionPart ++ n.exponentPart)

def chars (n : NumberText) : List Char :=
  (if n.negative then ['-'] else []) ++ n.body

theorem body_of_fraction {n : NumberText} (nonempty : n.fraction ≠ []) :
    n.body = n.whole ++ '.' :: (n.fraction ++ n.exponentPart) := by
  rw [body, fractionPart, if_neg nonempty, List.cons_append]

def numeral (n : NumberText) : Numeral where
  negative := n.negative
  coefficient := digitsValue (n.whole ++ n.fraction)
  exponent := n.exponent?.getD 0 - n.fraction.length

end NumberText

/-! ## Reading -/

/-- No number goes on with the character. -/
def StopsNumber (c : Char) : Prop :=
  isDigit c = false ∧ c ≠ '.' ∧ c ≠ 'e' ∧ c ≠ 'E'

instance (c : Char) : Decidable (StopsNumber c) :=
  inferInstanceAs (Decidable (_ ∧ _))

/-- No number goes on with the first character, if there is one. -/
def EndsNumber (rest : List Char) : Prop :=
  ∀ c, rest.head? = some c → StopsNumber c

section Reading

variable {rest : List Char} (ends : EndsNumber rest)

theorem spanDigits_append {digits after : List Char} (run : ∀ c ∈ digits, isDigit c = true)
    (stops : ∀ c, after.head? = some c → isDigit c = false) :
    spanDigits (digits ++ after) = (digits, after) := by
  obtain ⟨taken, dropped⟩ := takeWhile_digits_append run stops
  rw [spanDigits, taken, dropped]

include ends

theorem readExponent?_part (n : NumberText) :
    readExponent? (n.exponentPart ++ rest) = some (n.exponent?.getD 0, rest) := by
  unfold NumberText.exponentPart
  cases n.exponent? with
  | none =>
    cases rest with
    | nil => rfl
    | cons c rest =>
      obtain ⟨-, -, lower, upper⟩ := ends c rfl
      simp [readExponent?, lower, upper]
  | some exponent =>
    have span := spanDigits_append (fun c => isDigit_of_mem_digitChars (n := exponent.natAbs))
      fun c first => (ends c first).1
    have sign : Numeral.splitSign (Decimal.exponentChars exponent ++ rest) =
        (decide (exponent < 0), digitChars exponent.natAbs ++ rest) := by
      unfold Decimal.exponentChars
      split
      next negative => simp [Numeral.splitSign, negative]
      next positive => simp [Numeral.splitSign, positive]
    have value : (if exponent < 0 then -|exponent| else |exponent|) = exponent := by
      split
      next negative => rw [abs_of_neg negative, neg_neg]
      next positive => exact abs_of_nonneg (Int.le_of_not_gt positive)
    simp [readExponent?, sign, span, digitChars_ne_nil, digitsValue_digitChars, value]

theorem head?_exponentPart (n : NumberText) {c : Char}
    (first : (n.exponentPart ++ rest).head? = some c) : isDigit c = false ∧ c ≠ '.' := by
  unfold NumberText.exponentPart at first
  cases exponent : n.exponent? with
  | none =>
    rw [exponent] at first
    exact ⟨(ends c first).1, (ends c first).2.1⟩
  | some exponent' =>
    rw [exponent] at first
    cases first
    exact ⟨rfl, by decide⟩

theorem head?_fractionPart (n : NumberText) {c : Char}
    (first : (n.fractionPart ++ (n.exponentPart ++ rest)).head? = some c) : isDigit c = false := by
  unfold NumberText.fractionPart at first
  split at first
  next => exact (head?_exponentPart ends n first).1
  next =>
    cases first
    rfl

theorem readFraction?_part (n : NumberText) :
    readFraction? (n.fractionPart ++ (n.exponentPart ++ rest)) =
      some (n.fraction, n.exponentPart ++ rest) := by
  have stops (c : Char) (first : (n.exponentPart ++ rest).head? = some c) :=
    head?_exponentPart ends n first
  generalize n.exponentPart ++ rest = after at stops ⊢
  unfold NumberText.fractionPart
  split
  next none =>
    unfold readFraction?
    split
    next point => exact absurd rfl (stops '.' (by rw [← List.nil_append after, point]; rfl)).2
    next => rw [none, List.nil_append]
  next nonempty =>
    have span := spanDigits_append n.fraction_digits fun c first => (stops c first).1
    simp [readFraction?, span, nonempty]

theorem readNumber?_chars (n : NumberText) :
    readNumber? (n.chars ++ rest) = some (n.numeral.toBinary64, rest) := by
  obtain ⟨first, others, isWhole⟩ := List.exists_cons_of_ne_nil n.whole_ne_nil
  have digit := n.whole_digits first (isWhole ▸ List.mem_cons_self ..)
  have sign : ((n.chars ++ rest).head? == some '-') = n.negative := by
    have other : first ≠ '-' := by
      rintro rfl
      cases digit
    unfold NumberText.chars NumberText.body
    cases n.negative <;> simp [isWhole, other]
  have unsigned : (if n.negative then (n.chars ++ rest).tail else n.chars ++ rest) =
      n.whole ++ (n.fractionPart ++ (n.exponentPart ++ rest)) := by
    unfold NumberText.chars NumberText.body
    cases n.negative <;> simp
  have span := spanDigits_append n.whole_digits fun c => head?_fractionPart ends n
  have leads : (n.whole.isEmpty || (n.whole.head? == some '0' && n.whole.length != 1)) = false := by
    have alone := n.whole_leads
    rw [isWhole] at alone ⊢
    by_cases zero : first = '0'
    · simpa [zero] using alone
    · simp [zero]
  simp only [readNumber?, sign, unsigned, span, leads, readFraction?_part ends n,
    readExponent?_part ends n]
  rfl

end Reading

/-! ## Writing -/

theorem forall_isDigit_nil : ∀ c ∈ [], isDigit c = true :=
  nofun

def NumberText.zero : NumberText where
  negative := false
  whole := ['0']
  fraction := []
  exponent? := none
  whole_digits d member := by
    rw [List.mem_singleton.mp member]
    rfl
  fraction_digits := forall_isDigit_nil
  whole_ne_nil := List.cons_ne_nil _ _
  whole_leads _ := rfl

/-- All digits of a whole number, with zeros behind them up to the point. -/
def NumberText.ofWhole (negative : Bool) {c : Nat} (zeros : Nat) (positive : 0 < c) :
    NumberText where
  negative := negative
  whole := digitChars c ++ List.replicate zeros '0'
  fraction := []
  exponent? := none
  whole_digits := by
    intro d member
    rcases List.mem_append.mp member with digit | zero
    · exact isDigit_of_mem_digitChars digit
    · rw [List.eq_of_mem_replicate zero]
      rfl
  fraction_digits := forall_isDigit_nil
  whole_ne_nil := List.append_ne_nil_of_left_ne_nil (digitChars_ne_nil c) _
  whole_leads first := by
    rw [List.head?_append_of_ne_nil _ (digitChars_ne_nil c)] at first
    exact absurd first (head?_digitChars positive)

/-- The digits of a number with the point between them. -/
def NumberText.ofPoint (negative : Bool) {c point : Nat} (exponent? : Option Int)
    (positive : 0 < c) (inside : 0 < point) : NumberText where
  negative := negative
  whole := (digitChars c).take point
  fraction := (digitChars c).drop point
  exponent? := exponent?
  whole_digits d member := isDigit_of_mem_digitChars (List.mem_of_mem_take member)
  fraction_digits d member := isDigit_of_mem_digitChars (List.mem_of_mem_drop member)
  whole_ne_nil := by
    rw [ne_eq, List.take_eq_nil_iff, not_or]
    exact ⟨inside.ne', digitChars_ne_nil c⟩
  whole_leads first := by
    rw [List.head?_take, if_neg inside.ne'] at first
    exact absurd first (head?_digitChars positive)

/-- The digits of a number below one, with zeros between them and the point. -/
def NumberText.ofFraction (negative : Bool) (c zeros : Nat) : NumberText where
  negative := negative
  whole := ['0']
  fraction := List.replicate zeros '0' ++ digitChars c
  exponent? := none
  whole_digits d member := by
    rw [List.mem_singleton.mp member]
    rfl
  fraction_digits := by
    intro d member
    rcases List.mem_append.mp member with zero | digit
    · rw [List.eq_of_mem_replicate zero]
      rfl
    · exact isDigit_of_mem_digitChars digit
  whole_ne_nil := List.cons_ne_nil _ _
  whole_leads _ := rfl

/-- Whichever notation a decimal is rendered in, it writes the same number. -/
theorem exists_numberText (negative : Bool) {c : Nat} (e : Int) (positive : 0 < c) :
    ∃ (n : NumberText) (k : Nat), n.negative = negative ∧ n.body = (Decimal.mk c e).render ∧
      n.numeral.coefficient = c * 10 ^ k ∧ n.numeral.exponent + k = e := by
  have nonempty := List.length_pos_iff.mpr (digitChars_ne_nil c)
  unfold Decimal.render
  dsimp only
  split
  next whole =>
    obtain ⟨zeros, rfl⟩ : ∃ zeros : Nat, e = zeros := ⟨e.toNat, by omega⟩
    refine ⟨.ofWhole negative zeros positive, zeros, rfl, ?_, ?_, ?_⟩
    · simp [NumberText.body, NumberText.fractionPart, NumberText.exponentPart, NumberText.ofWhole]
    · simp only [NumberText.numeral, NumberText.ofWhole, List.append_nil]
      rw [← digitChars_mul_pow positive, digitsValue_digitChars]
    · simp [NumberText.numeral, NumberText.ofWhole]
  next =>
    split
    next point =>
      have behind : (digitChars c).drop (((digitChars c).length : Int) + e).toNat ≠ [] := by
        rw [ne_eq, List.drop_eq_nil_iff]
        omega
      have inside : 0 < (((digitChars c).length : Int) + e).toNat := by omega
      refine ⟨.ofPoint negative none positive inside, 0, rfl, ?_, ?_, ?_⟩
      · rw [NumberText.body_of_fraction behind]
        exact congrArg (_ ++ '.' :: ·) (List.append_nil _)
      · simp only [NumberText.numeral, NumberText.ofPoint, List.take_append_drop,
          digitsValue_digitChars, Nat.pow_zero, Nat.mul_one]
      · simp only [NumberText.numeral, NumberText.ofPoint, List.length_drop, Option.getD_none]
        omega
    next =>
      split
      next fraction =>
        refine ⟨.ofFraction negative c (-(((digitChars c).length : Int) + e)).toNat, 0, rfl, ?_, ?_,
          ?_⟩
        · simp [NumberText.body, NumberText.fractionPart, NumberText.exponentPart,
            NumberText.ofFraction, digitChars_ne_nil]
        · simp only [NumberText.numeral, NumberText.ofFraction]
          rw [← List.append_assoc, List.singleton_append, ← List.replicate_succ,
            digitsValue_replicate_append, digitsValue_digitChars, Nat.pow_zero, Nat.mul_one]
        · simp only [NumberText.numeral, NumberText.ofFraction, List.length_append,
            List.length_replicate, Option.getD_none]
          omega
      next =>
        have single : (digitChars c).drop 1 = [] ↔ (digitChars c).length = 1 := by
          rw [List.drop_eq_nil_iff]
          omega
        refine ⟨.ofPoint negative (some (((digitChars c).length : Int) + e - 1)) positive
          Nat.one_pos, 0, rfl, ?_, ?_, ?_⟩
        · simp only [NumberText.body, NumberText.fractionPart, NumberText.exponentPart,
            NumberText.ofPoint, single, List.append_assoc]
        · simp only [NumberText.numeral, NumberText.ofPoint, List.take_append_drop,
            digitsValue_digitChars, Nat.pow_zero, Nat.mul_one]
        · simp only [NumberText.numeral, NumberText.ofPoint, List.length_drop, Option.getD_some]
          omega

theorem readNumber?_numberChars {x : Binary64} (finite : x.isFinite = true)
    (signless : x ≠ .zero true) {rest : List Char} (ends : EndsNumber rest) :
    readNumber? (numberChars x ++ rest) = some (x, rest) := by
  rw [numberChars, if_pos finite]
  cases x with
  | nan => cases finite
  | infinite negative => cases finite
  | finite negative units count =>
    by_cases isZero : units = 0
    · subst isZero
      have positive : negative = false := by
        cases negative with
        | false => rfl
        | true => exact absurd rfl signless
      subst positive
      have reads := readNumber?_chars ends .zero
      rw [show NumberText.zero.numeral = ⟨false, 0, 0⟩ from rfl, Numeral.toBinary64_zero] at reads
      exact reads
    · have positive := Nat.pos_of_ne_zero isZero
      have itself := Decimal.shortest_readsAs count positive
      obtain ⟨⟨c, e⟩, shown⟩ : ∃ d, Decimal.shortest units = d := ⟨_, rfl⟩
      rw [shown] at itself
      obtain ⟨n, k, sign, body, value, exponent⟩ :=
        exists_numberText negative e (Decimal.coefficient_pos positive itself)
      have reads : (Decimal.mk n.numeral.coefficient n.numeral.exponent).ReadsAs units := by
        rw [value, Decimal.readsAs_mul_pow, exponent]
        exact itself
      have written : n.chars = (Binary64.finite negative units count).chars := by
        rw [Binary64.chars, if_neg isZero, NumberText.chars, sign, body, shown]
      rw [← written, readNumber?_chars ends, Numeral.toBinary64_of_readsAs count positive reads,
        NumberText.numeral, sign]

end Json

end Reckoner
