import Reckoner.Proofs.Decimal.Positional
import Mathlib.Algebra.Order.Field.Basic
import Mathlib.Tactic.Linarith

/-! # Numbers rounded to six places

What is shown for a number that is not whole is the shortest decimal of the number nearest to a
whole number of millionths:

* `nearestUp_bounds`, `abs_nearestUp_sub_le` — rounding to a whole number misses by a half at most.
* `millionths`, `Binary64.exists_plain_millionths` — the number nearest to some millionths is
  written as a plain numeral.
* `eq_of_millionths` — up to `10 ^ 15` millionths are told apart, so they are written as they are.
* `Binary64.toRat?`, `Binary64.lt_of_not_dvd` — exact values, and which of them are not whole.
* `PlainNumeral.Renders`, `Value.text_is_plain` — every finite number is shown as a plain numeral.
-/

namespace Reckoner

theorem nearestUp_bounds (num : Nat) {den : Nat} (positive : 0 < den) :
    2 * (nearestUp num den * den) ≤ 2 * num + den ∧
      2 * num < 2 * (nearestUp num den * den) + den := by
  have twicePos : 0 < 2 * den := by omega
  have below := Nat.div_mul_le_self (2 * num + den) (2 * den)
  have above := Nat.lt_mul_div_succ (2 * num + den) twicePos
  have whole : (2 * num + den) / (2 * den) * (2 * den) = 2 * (nearestUp num den * den) := by
    rw [nearestUp]
    ring
  rw [Nat.mul_comm (2 * den), Nat.add_mul, Nat.one_mul, whole] at above
  omega

theorem nearestUp_le {num den m : Nat} (positive : 0 < den) (below : num ≤ m * den) :
    nearestUp num den ≤ m := by
  have bounds := nearestUp_bounds num positive
  by_contra above
  have next := Nat.mul_le_mul_right den (Nat.lt_of_not_le above)
  rw [Nat.succ_mul] at next
  omega

theorem abs_nearestUp_sub_le (num : Nat) {den : Nat} (positive : 0 < den) :
    |(nearestUp num den : ℚ) - num / den| ≤ 1 / 2 := by
  have denPos : (0 : ℚ) < den := by exact_mod_cast positive
  obtain ⟨lower, upper⟩ := nearestUp_bounds num positive
  have lower : 2 * ((nearestUp num den : ℚ) * den) ≤ 2 * num + den := by exact_mod_cast lower
  have upper : 2 * (num : ℚ) < 2 * (nearestUp num den * den) + den := by exact_mod_cast upper
  rw [abs_le, neg_le_sub_iff_le_add, sub_le_comm, div_le_iff₀ denPos, le_div_iff₀ denPos]
  constructor <;> linarith

/-! ## Millionths -/

/-- The count nearest to a number of millionths. -/
def millionths (n : Nat) : Nat :=
  nearestCount (n * unitsPerOne) (10 ^ 6)

theorem nearest_millionths (n : Nat) : Nearest (n * unitsPerOne) (10 ^ 6) (millionths n) :=
  nearest_nearestCount _ (by decide)

theorem million_lt_unitsPerOne : 10 ^ 6 < unitsPerOne := by
  obtain ⟨places, enough, isPower⟩ := unitsPerOne_eq_two_pow
  calc 10 ^ 6 < 2 ^ 20 := by decide
    _ ≤ 2 ^ places := Nat.pow_le_pow_right (by decide) enough
    _ = unitsPerOne := isPower.symm

theorem millionths_zero : millionths 0 = 0 := by
  simp [millionths, nearestCount, nearestEven]

theorem millionths_pos {n : Nat} (positive : 0 < n) : 0 < millionths n := by
  have nearest := nearest_millionths n
  have size := Nat.mul_le_mul_right unitsPerOne positive
  have fine := million_lt_unitsPerOne
  have step : spacing 0 = 1 := rfl
  by_contra zero
  rw [Nat.eq_zero_of_not_pos zero, Nearest, step] at nearest
  omega

theorem millionths_lt {n : Nat} (small : n < 10 ^ 25) :
    millionths n < 10 ^ 20 * unitsPerOne := by
  have size := Nat.mul_lt_mul_of_pos_right small unitsPerOne_pos
  by_contra large
  have positive : 0 < millionths n := by
    have := unitsPerOne_pos
    omega
  have bound := ((nearest_millionths n).bounds positive).1
  omega

theorem isCount_millionths {n : Nat} (small : n < 10 ^ 25) : IsCount (millionths n) := by
  refine ⟨?_, nearestCount_significant _ _⟩
  calc millionths n < 10 ^ 20 * unitsPerOne := millionths_lt small
    _ < countLimit := mul_unitsPerOne_lt (by decide)

theorem shortest_millionth : Decimal.shortest (millionths 1) = ⟨1, -6⟩ := by
  decide +kernel

theorem leadingExponent_millionths {n : Nat} (several : 2 ≤ n) :
    -6 ≤ Decimal.leadingExponent (millionths n) := by
  by_contra below
  have size := (Decimal.leadingExponent_lt_iff (by decide)).mp (Int.lt_of_not_ge below)
  have bound := ((nearest_millionths n).bounds (millionths_pos (by omega))).2
  have scaled : 2 * unitsPerOne ≤ n * unitsPerOne := Nat.mul_le_mul_right _ several
  have same : (-(-6 : Int)).toNat = 6 ∧ (-6 : Int).toNat = 0 := ⟨rfl, rfl⟩
  rw [same.1, same.2] at size
  omega

/-- Up to `10 ^ 15` millionths the numbers lie closer together than the millionths. -/
theorem spacing_millionths {n : Nat} (positive : 0 < n) (small : n ≤ 10 ^ 15) :
    spacing (millionths n) * 10 ^ 6 < unitsPerOne := by
  have unitsPos := unitsPerOne_pos
  have bound := ((nearest_millionths n).bounds (millionths_pos positive)).1
  have size := Nat.mul_le_mul_right unitsPerOne small
  cases mul_spacing_le (millionths n) with
  | inl least =>
    rw [least, Nat.one_mul]
    exact million_lt_unitsPerOne
  | inr wide => omega

theorem eq_of_millionths {k n : Nat} (small : n ≤ 10 ^ 15) (same : millionths k = millionths n) :
    k = n := by
  by_cases zero : n = 0
  · subst zero
    by_contra positive
    have := millionths_pos (Nat.pos_of_ne_zero positive)
    rw [same, millionths_zero] at this
    omega
  · have close := spacing_millionths (Nat.pos_of_ne_zero zero) small
    have left := nearest_millionths k
    have right := nearest_millionths n
    rw [same] at left
    clear same
    generalize millionths n = units at close left right
    have gap : lowerGap units * 10 ^ 6 ≤ 2 * spacing units * 10 ^ 6 := by
      apply Nat.mul_le_mul_right
      unfold lowerGap
      split <;> omega
    -- Both lie within half a spacing of one count, so they are not a whole step apart.
    have order := mul_le_or_add_le k n unitsPerOne
    have reverse := mul_le_or_add_le n k unitsPerOne
    apply Nat.eq_of_mul_eq_mul_right unitsPerOne_pos
    unfold Nearest at left right
    omega

namespace Binary64

theorem ofRatio_millionths (negative : Bool) {n : Nat} (small : n < 10 ^ 25) :
    ofRatio negative n (10 ^ 6) = .finite negative (millionths n) (isCount_millionths small) :=
  ofUnits_of_nearestCount negative (isCount_millionths small) rfl

theorem exists_plain_millionths (negative : Bool) {n : Nat} (small : n < 10 ^ 25) :
    ∃ (p : PlainNumeral) (k : Nat), (ofRatio negative n (10 ^ 6)).chars = p.chars ∧
      p.fraction.length ≤ 6 ∧ p.value = signFactor negative * (k / 10 ^ 6) ∧
      millionths k = millionths n := by
  rw [ofRatio_millionths negative small, chars]
  -- The general bound on places does not hold of one millionth, whose first digit is too low.
  rcases Nat.lt_or_ge 1 n with several | few
  · have positive := millionths_pos (Nat.zero_lt_of_lt several)
    have itself := (Decimal.readsAs_places n 6 (millionths n)).mpr rfl
    obtain ⟨p, k, shown, length, value, reads⟩ :=
      Decimal.exists_plain_shortest negative (isCount_millionths small) positive
        le_rfl (millionths_lt small) itself (leadingExponent_millionths several)
    rw [Decimal.readsAs_places] at reads
    refine ⟨p, k, ?_, length, value, reads⟩
    rw [if_neg positive.ne', shown]
  · rcases Nat.le_one_iff_eq_zero_or_eq_one.mp few with rfl | rfl
    · refine ⟨.ofNat false 0 fun signed => absurd signed Bool.false_ne_true, 0, ?_, Nat.zero_le _, ?_, rfl⟩
      · rw [if_pos millionths_zero, PlainNumeral.chars_ofNat]
        rfl
      · rw [PlainNumeral.value_ofNat]
        simp
    · obtain ⟨p, shown, length, value⟩ :=
        Decimal.exists_plain negative (c := 1) (j := 0) (by decide) le_rfl (by decide)
      refine ⟨p, 1, ?_, length, value, rfl⟩
      rw [if_neg (millionths_pos Nat.one_pos).ne', shortest_millionth, shown]
      rfl

end Binary64

/-! ## Exact values -/

/-- The exact value of a number, if it is finite. -/
def Binary64.toRat? (x : Binary64) : Option ℚ :=
  x.units?.map fun units : ℤ => (units : ℚ) / unitsPerOne

namespace Binary64

theorem toInt?_iff_of_toRat? {x : Binary64} {v : ℚ} (exact : x.toRat? = some v) {m : ℤ} :
    x.toInt? = some m ↔ v = m := by
  have positive : (unitsPerOne : ℚ) ≠ 0 := by exact_mod_cast unitsPerOne_pos.ne'
  obtain ⟨units, isUnits, rfl⟩ := Option.map_eq_some_iff.mp exact
  rw [toInt?_eq_some_iff, isUnits, Option.some.injEq, div_eq_iff positive]
  exact_mod_cast Iff.rfl

theorem toRat?_of_toInt? {x : Binary64} {m : ℤ} (whole : x.toInt? = some m) :
    x.toRat? = some (m : ℚ) := by
  have nonzero : (unitsPerOne : ℚ) ≠ 0 := by exact_mod_cast unitsPerOne_pos.ne'
  rw [toRat?, toInt?_eq_some_iff.mp whole, Option.map_some, Int.cast_mul, Int.cast_natCast,
    mul_div_cancel_right₀ _ nonzero]

theorem toRat?_eq_none_iff {x : Binary64} :
    x.toRat? = none ↔ x = .nan ∨ ∃ negative, x = .infinite negative := by
  rw [toRat?, Option.map_eq_none_iff]
  cases x with
  | nan => exact iff_of_true rfl (.inl rfl)
  | infinite negative => exact iff_of_true rfl (.inr ⟨negative, rfl⟩)
  | finite negative units count => exact iff_of_false nofun nofun

/-- From `2 ^ 52` on all numbers are whole. -/
theorem lt_of_not_dvd {units : Nat} (count : IsCount units) (fraction : ¬ unitsPerOne ∣ units) :
    units < 2 ^ 52 * unitsPerOne := by
  by_contra large
  have nonzero : units ≠ 0 := by
    rintro rfl
    exact fraction (Nat.dvd_zero _)
  obtain ⟨places, -, isPower⟩ := unitsPerOne_eq_two_pow
  rw [isPower, ← Nat.pow_add, Nat.not_lt, ← Nat.le_log2 nonzero] at large
  apply fraction
  rw [isPower]
  refine Nat.dvd_trans ?_ count.spacing_dvd
  apply Nat.pow_dvd_pow 2
  omega

theorem toInt?_eq_none_iff {negative : Bool} {units : Nat} {count : IsCount units} :
    (finite negative units count).toInt? = none ↔ ¬ unitsPerOne ∣ units := by
  have signed : (unitsPerOne : ℤ) ∣ (if negative then -(units : ℤ) else units) ↔
      unitsPerOne ∣ units := by
    rw [← Int.natCast_dvd_natCast]
    split
    · exact Int.dvd_neg
    · rfl
  simp only [toInt?, units?, ← Int.dvd_iff_emod_eq_zero, signed]
  by_cases divides : unitsPerOne ∣ units
  · rw [if_pos divides]
    exact iff_of_false (Option.some_ne_none _) (not_not_intro divides)
  · rw [if_neg divides]
    exact iff_of_true rfl divides

theorem display_of_fraction {negative : Bool} {units : Nat} {count : IsCount units}
    (fraction : ¬ unitsPerOne ∣ units) :
    (finite negative units count).display =
      (ofRatio negative (nearestUp (units * 10 ^ 6) unitsPerOne) (10 ^ 6)).chars := by
  simp only [display, toInt?_eq_none_iff.mpr fraction]
  rfl

theorem toRat?_finite (negative : Bool) (units : Nat) (count : IsCount units) :
    (finite negative units count).toRat? = some (signFactor negative * (units / unitsPerOne)) := by
  cases negative with
  | false =>
    show some (((units : ℤ) : ℚ) / unitsPerOne) = _
    rw [signFactor, if_neg Bool.false_ne_true, one_mul, Int.cast_natCast]
  | true =>
    show some (((-units : ℤ) : ℚ) / unitsPerOne) = _
    rw [signFactor, if_pos rfl, neg_one_mul, Int.cast_neg, Int.cast_natCast, neg_div]

end Binary64

/-! ## What is shown -/

theorem abs_nearestMillionth_sub_le (units : Nat) :
    |(nearestUp (units * 10 ^ 6) unitsPerOne : ℚ) / 10 ^ 6 - units / unitsPerOne| ≤ 5 / 10 ^ 7 := by
  have half := abs_nearestUp_sub_le (units * 10 ^ 6) unitsPerOne_pos
  have million : (0 : ℚ) < 10 ^ 6 := by norm_num
  rw [← mul_le_mul_iff_left₀ million, ← abs_of_pos million, ← abs_mul, abs_of_pos million, sub_mul,
    div_mul_cancel₀ _ million.ne', div_mul_eq_mul_div]
  push_cast at half
  linarith

/-- The numeral writes a number in six places, and a number that is not too large to the nearest
    of them. -/
structure PlainNumeral.Renders (p : PlainNumeral) (v : ℚ) : Prop where
  six_places : p.fraction.length ≤ 6
  whole : ∀ m : ℤ, v = m → p.fraction = []
  millionths : ∃ k : ℤ, p.value = k / 10 ^ 6
  near : |v| < 10 ^ 9 → |p.value - v| ≤ 5 / 10 ^ 7
  exact : |v| < 10 ^ 9 → ∀ m : ℤ, v = m → p.value = v

namespace Binary64

theorem exists_renders_of_whole {x : Binary64} {m : ℤ} (whole : x.toInt? = some m) :
    ∃ p : PlainNumeral, x.display = p.chars ∧ p.Renders m := by
  obtain ⟨w, shown, -, exactly⟩ := Value.text_shown whole
  obtain ⟨count, -⟩ := exists_finite_of_toInt? whole
  have value : |(m : ℚ)| < 10 ^ 9 → (PlainNumeral.ofInt w).value = m := by
    intro small
    have below : m.natAbs < 10 ^ 9 := by
      rw [← Int.cast_abs, Int.abs_eq_natAbs] at small
      exact_mod_cast small
    have same : w = m := exactly.mpr (.inr (endsInMostZeros_of_lt count (by omega)))
    rw [PlainNumeral.value_ofInt, same]
  refine ⟨.ofInt w, by rw [shown, PlainNumeral.chars_ofInt], ?_⟩
  constructor
  case six_places => exact Nat.zero_le _
  case whole => exact fun _ _ => rfl
  case millionths =>
    use w * 10 ^ 6
    rw [PlainNumeral.value_ofInt, Int.cast_mul, Int.cast_pow, Int.cast_ofNat]
    field_simp
  case near =>
    intro small
    rw [value small, sub_self, abs_zero]
    norm_num
  case exact => exact fun small _ _ => value small

theorem exists_renders_of_fraction {negative : Bool} {units : Nat} {count : IsCount units}
    (fraction : ¬ unitsPerOne ∣ units) :
    ∃ p : PlainNumeral, (finite negative units count).display = p.chars ∧
      p.Renders (signFactor negative * (units / unitsPerOne)) := by
  have unitsPos : (0 : ℚ) < unitsPerOne := by exact_mod_cast unitsPerOne_pos
  have notWhole (m : ℤ) : signFactor negative * (units / unitsPerOne) ≠ m := by
    rw [ne_eq, ← toInt?_iff_of_toRat? (toRat?_finite negative units count),
      toInt?_eq_none_iff.mpr fraction]
    nofun
  have bound := lt_of_not_dvd count fraction
  have small : nearestUp (units * 10 ^ 6) unitsPerOne < 10 ^ 25 := by
    have below : units * 10 ^ 6 ≤ 2 ^ 52 * 10 ^ 6 * unitsPerOne := by omega
    have := nearestUp_le unitsPerOne_pos below
    omega
  obtain ⟨p, k, shown, length, value, reads⟩ := exists_plain_millionths negative small
  refine ⟨p, by rw [display_of_fraction fraction, shown], ?_⟩
  constructor
  case six_places => exact length
  case whole => exact fun m same => absurd same (notWhole m)
  case millionths =>
    use if negative then -k else k
    rw [value]
    cases negative <;> simp [signFactor, neg_div]
  case near =>
    intro moderate
    have nonneg : (0 : ℚ) ≤ units / unitsPerOne := div_nonneg (Nat.cast_nonneg _) unitsPos.le
    rw [abs_signFactor_mul, abs_of_nonneg nonneg, div_lt_iff₀ unitsPos] at moderate
    have below : units * 10 ^ 6 ≤ 10 ^ 15 * unitsPerOne := by
      have : units < 10 ^ 9 * unitsPerOne := by exact_mod_cast moderate
      omega
    have exact : k = nearestUp (units * 10 ^ 6) unitsPerOne :=
      eq_of_millionths (nearestUp_le unitsPerOne_pos below) reads
    rw [value, exact, ← mul_sub, abs_signFactor_mul]
    exact abs_nearestMillionth_sub_le units
  case exact => exact fun _ m same => absurd same (notWhole m)

end Binary64

namespace Value

/-- Every finite number is shown as a plain numeral of at most six places: no exponent, no
    negative zero, and no point in a whole number.  Below `10 ^ 9` the numeral is the nearest
    whole number of millionths, and a whole number itself. -/
theorem text_is_plain {x : Binary64} {v : ℚ} (exact : x.toRat? = some v) :
    ∃ p : PlainNumeral, (number x).text.toList = p.chars ∧
      Numeral.read? (number x).text.toList = some p.numeral ∧
      'e' ∉ (number x).text.toList ∧ 'E' ∉ (number x).text.toList ∧
      (number x).text ≠ "-0" ∧
      (∀ m : ℤ, v = m → '.' ∉ (number x).text.toList) ∧
      p.Renders v := by
  obtain ⟨p, shown, renders⟩ : ∃ p : PlainNumeral, x.display = p.chars ∧ p.Renders v := by
    cases whole : x.toInt? with
    | some m =>
      rw [(Binary64.toInt?_iff_of_toRat? exact).mp whole]
      exact Binary64.exists_renders_of_whole whole
    | none =>
      cases x with
      | nan => cases exact
      | infinite negative => cases exact
      | finite negative units count =>
        rw [Binary64.toRat?_finite, Option.some.injEq] at exact
        rw [← exact]
        exact Binary64.exists_renders_of_fraction (Binary64.toInt?_eq_none_iff.mp whole)
  have text : (number x).text.toList = p.chars := by
    rw [Value.text, String.toList_ofList, shown]
  refine ⟨p, text, ?_, ?_, ?_, ?_, fun m same => ?_, renders⟩
  · rw [text, p.read?_chars]
  · rw [text]
    exact p.mark_not_mem (.inl rfl)
  · rw [text]
    exact p.mark_not_mem (.inr rfl)
  · intro zero
    rw [zero] at text
    exact p.chars_ne_minus_zero text.symm
  · rw [text, p.point_mem_iff, not_not]
    exact renders.whole m same

/-- The number that is read from `0.000001` lies below it. -/
theorem text_is_plain_of_millionth :
    (Binary64.read "0.000001".toList).toRat? =
        some (4722366482869645 / 4722366482869645213696) ∧
      (number (Binary64.read "0.000001".toList)).text = "0.000001" ∧
      ∃ p : PlainNumeral, "0.000001".toList = p.chars ∧
        p.Renders (4722366482869645 / 4722366482869645213696) := by
  obtain ⟨exact, text⟩ : (Binary64.read "0.000001".toList).toRat? =
        some (4722366482869645 / 4722366482869645213696) ∧
      (number (Binary64.read "0.000001".toList)).text = "0.000001" := by
    decide +kernel
  obtain ⟨p, shown, -, -, -, -, -, renders⟩ := text_is_plain exact
  rw [text] at shown
  exact ⟨exact, text, p, shown, renders⟩

end Value

end Reckoner
