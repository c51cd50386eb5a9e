import Reckoner.Proofs.Binary64.Rounding
import Reckoner.Proofs.Decimal.Digits

/-! # Shortest decimals read back

The decimal that is printed for a number is one that is read as that number, and no decimal
with fewer digits is:

* `Decimal.ReadsAs`, `Interval.holds_scale_iff` — the interval of a count holds the decimals
  that are read as it.
* `Interval.nearest?_isSome`, `Interval.nearest?_of_exact` — the search on one grid of decimals.
* `exists_holds_of_seventeen` — a grid of seventeen digits has a decimal in the interval.
* `shortest_eq`, `shortest_readsAs` — the coarsest grid that has one is found.
-/

namespace Reckoner

namespace Decimal

/-- The decimal is nearer to the count of units than to any other. -/
def ReadsAs (d : Decimal) (units : Nat) : Prop :=
  nearestCount (d.coefficient * 10 ^ d.exponent.toNat * unitsPerOne)
    (10 ^ (-d.exponent).toNat) = units

/-! ## The interval of a count -/

theorem spacing_le_self {units : Nat} (positive : 0 < units) : spacing units ≤ units := by
  have := mul_spacing_le units
  omega

theorem lowerGap_le {units : Nat} (positive : 0 < units) : lowerGap units ≤ 2 * units := by
  have := spacing_le_self positive
  unfold lowerGap
  split <;> omega

theorem two_pow_log2_of_spacing {units : Nat} (wide : 1 < spacing units) :
    2 ^ units.log2 = 2 ^ 52 * spacing units := by
  have large : 52 ≤ units.log2 := by
    by_contra small
    rw [spacing, Nat.sub_eq_zero_of_le (by omega)] at wide
    simp at wide
  calc 2 ^ units.log2 = 2 ^ (52 + (units.log2 - 52)) := by rw [Nat.add_sub_cancel' large]
    _ = 2 ^ 52 * spacing units := Nat.pow_add 2 _ _

theorem Interval.low_ofUnits (units : Nat) :
    (Interval.ofUnits units).low = 4 * units - lowerGap units := by
  have special : (units == Nat.pow 2 units.log2 && decide (1 < spacing units)) = true ↔
      units = 2 ^ 52 * spacing units ∧ 1 < spacing units := by
    rw [Bool.and_eq_true, beq_iff_eq, decide_eq_true_eq, Nat.pow_eq]
    exact and_congr_left fun wide => by rw [two_pow_log2_of_spacing wide]
  simp only [Interval.ofUnits, lowerGap, special]

namespace Interval

theorem low_scale {units : Nat} (positive : 0 < units) (e : Int) :
    ((ofUnits units).scale e).low + lowerGap units * 10 ^ (-e).toNat =
      4 * (units * 10 ^ (-e).toNat) := by
  have below := Nat.mul_le_mul_right (10 ^ (-e).toNat) (lowerGap_le positive)
  simp only [scale, low_ofUnits, Nat.pow_eq, Nat.sub_mul, Nat.mul_assoc] at below ⊢
  omega

theorem value_scale (units : Nat) (e : Int) :
    ((ofUnits units).scale e).value = 4 * (units * 10 ^ (-e).toNat) :=
  Nat.mul_assoc ..

theorem high_scale (units : Nat) (e : Int) :
    ((ofUnits units).scale e).high =
      4 * (units * 10 ^ (-e).toNat) + 2 * (spacing units * 10 ^ (-e).toNat) := by
  simp only [scale, ofUnits, Nat.pow_eq]
  ring

theorem den_scale (units : Nat) (e : Int) :
    ((ofUnits units).scale e).den = 4 * (10 ^ e.toNat * unitsPerOne) := by
  simp only [scale, ofUnits, Nat.pow_eq]
  ring

theorem closed_scale (units : Nat) (e : Int) :
    ((ofUnits units).scale e).closed = true ↔ units / spacing units % 2 = 0 :=
  beq_iff_eq

theorem holds_iff (i : Interval) (n : Nat) :
    i.holds n = true ↔
      i.low < n * i.den ∧ n * i.den < i.high ∨
        i.closed = true ∧ i.low ≤ n * i.den ∧ n * i.den ≤ i.high := by
  unfold holds
  cases i.closed
  · simp
  · simp
    omega

theorem holds_scale_iff {units : Nat} (count : IsCount units) (positive : 0 < units)
    (c : Nat) (e : Int) :
    ((ofUnits units).scale e).holds c = true ↔ (Decimal.mk c e).ReadsAs units := by
  have low := low_scale positive e
  have scaled : c * (4 * (10 ^ e.toNat * unitsPerOne)) = 4 * (c * 10 ^ e.toNat * unitsPerOne) := by
    ring
  rw [ReadsAs, nearestCount_eq_iff count (Nat.pow_pos (by decide)), Nearest, holds_iff,
    closed_scale, high_scale, den_scale, scaled]
  -- Both sides now bound the same fraction by the same midpoints.
  dsimp only
  omega

/-! ## The search on one grid -/

/-- The value lies inside the bounds. -/
structure Proper (i : Interval) : Prop where
  low_lt : i.low < i.value
  lt_high : i.value < i.high
  den_pos : 0 < i.den

theorem proper_scale {units : Nat} (positive : 0 < units) (e : Int) :
    ((ofUnits units).scale e).Proper := by
  have upPos : 0 < 10 ^ (-e).toNat := Nat.pow_pos (by decide)
  have low := low_scale positive e
  have gapPos := Nat.mul_pos (lowerGap_pos units) upPos
  have stepPos := Nat.mul_pos (spacing_pos units) upPos
  have denPos : 0 < 10 ^ e.toNat * unitsPerOne :=
    Nat.mul_pos (Nat.pow_pos (by decide)) unitsPerOne_pos
  constructor
  · rw [value_scale]
    omega
  · rw [value_scale, high_scale]
    omega
  · rw [den_scale]
    omega

theorem holds_of_nearest? {i : Interval} {c : Nat} (found : i.nearest? = some c) :
    i.holds c = true := by
  simp only [nearest?] at found
  -- Which neighbour is tried second does not matter, only that it is tested like the first.
  generalize (if nearestEven i.value i.den = i.value / i.den then i.value / i.den + 1
    else i.value / i.den) = other at found
  split at found
  next best => exact Option.some.inj found ▸ best
  next =>
    split at found
    next holds => exact Option.some.inj found ▸ holds
    next => cases found

theorem nearestEven_eq_or (num den : Nat) :
    nearestEven num den = num / den ∨ nearestEven num den = num / den + 1 := by
  have := Nat.mod_two_eq_zero_or_one (num / den)
  simp only [nearestEven]
  split
  · omega
  · split <;> omega

/-- One of the value's neighbours lies in the interval if any whole number does. -/
theorem Proper.holds_floor_or_next {i : Interval} (proper : i.Proper) {c : Nat}
    (holds : i.holds c = true) :
    i.holds (i.value / i.den) = true ∨ i.holds (i.value / i.den + 1) = true := by
  have floor := Nat.div_mul_le_self i.value i.den
  have above : i.value < (i.value / i.den + 1) * i.den := by
    rw [Nat.mul_comm]
    exact Nat.lt_mul_div_succ i.value proper.den_pos
  have low := proper.low_lt
  have high := proper.lt_high
  simp only [holds_iff] at holds ⊢
  -- The neighbour on the side of `c` lies between `c` and the value.
  by_cases smaller : c ≤ i.value / i.den
  · have bound := Nat.mul_le_mul_right i.den smaller
    left
    rcases holds with ⟨left, right⟩ | ⟨closed, left, right⟩
    · exact .inl ⟨by omega, by omega⟩
    · exact .inr ⟨closed, by omega, by omega⟩
  · have bound : (i.value / i.den + 1) * i.den ≤ c * i.den :=
      Nat.mul_le_mul_right i.den (Nat.lt_of_not_le smaller)
    right
    rcases holds with ⟨left, right⟩ | ⟨closed, left, right⟩
    · exact .inl ⟨by omega, by omega⟩
    · exact .inr ⟨closed, by omega, by omega⟩

theorem Proper.nearest?_isSome {i : Interval} (proper : i.Proper) {c : Nat}
    (holds : i.holds c = true) : i.nearest?.isSome = true := by
  have inside := proper.holds_floor_or_next holds
  simp only [nearest?]
  by_cases best : i.holds (nearestEven i.value i.den) = true
  · rw [if_pos best]
    rfl
  · have other : i.holds (if nearestEven i.value i.den = i.value / i.den then
        i.value / i.den + 1 else i.value / i.den) = true := by
      rcases nearestEven_eq_or i.value i.den with down | up
      · rw [down] at best
        rw [if_pos down]
        exact inside.resolve_left best
      · rw [up] at best
        rw [if_neg (by omega)]
        exact inside.resolve_right best
    rw [if_neg best, if_pos other]
    rfl

theorem Proper.nearest?_of_exact {i : Interval} (proper : i.Proper) {c : Nat}
    (exact : i.value = c * i.den) : i.nearest? = some c := by
  have denPos := proper.den_pos
  have best : nearestEven i.value i.den = c := by
    rw [nearestEven_eq_iff denPos, RoundsTo]
    omega
  have holds : i.holds c = true := by
    rw [holds_iff, ← exact]
    exact .inl ⟨proper.low_lt, proper.lt_high⟩
  simp [nearest?, best, holds]

end Interval

/-! ## Seventeen digits -/

theorem pow_length_le {n : Nat} (positive : 0 < n) : 10 ^ ((digitChars n).length - 1) ≤ n := by
  by_cases single : (digitChars n).length - 1 = 0
  · rw [single]
    exact positive
  · by_contra short
    have := (length_digitChars_le_iff (Nat.pos_of_ne_zero single)).mpr (Nat.lt_of_not_le short)
    omega

/-- A bound on a quotient taken `far` places to the left, brought back to its place. -/
theorem pow_mul_le_of_shifted {units size far : Nat} (down up : Nat)
    (shift : size + up = 16 + down + far)
    (shifted : 10 ^ size * unitsPerOne ≤ units * Nat.pow 10 far) :
    10 ^ 16 * (10 ^ down * unitsPerOne) ≤ units * 10 ^ up := by
  rw [Nat.pow_eq] at shifted
  refine Nat.le_of_mul_le_mul_right ?_ (Nat.pow_pos (n := far) (by decide : 0 < 10))
  calc 10 ^ 16 * (10 ^ down * unitsPerOne) * 10 ^ far
      = 10 ^ (size + up) * unitsPerOne := by
        rw [shift]
        ring
    _ = 10 ^ size * unitsPerOne * 10 ^ up := by ring
    _ ≤ units * 10 ^ far * 10 ^ up := Nat.mul_le_mul_right _ shifted
    _ = units * 10 ^ up * 10 ^ far := Nat.mul_right_comm ..

/-- The value of a count on the grid of seventeen digits has that many before the point. -/
theorem pow_mul_den_le_value {units : Nat} (positive : 0 < units) :
    10 ^ 16 * ((Interval.ofUnits units).scale (leadingExponent units + 1 - 17)).den ≤
      ((Interval.ofUnits units).scale (leadingExponent units + 1 - 17)).value := by
  obtain ⟨e, he⟩ : ∃ e, leadingExponent units + 1 - 17 = e := ⟨_, rfl⟩
  obtain ⟨n, hn⟩ : ∃ n, units * Nat.pow 10 400 / unitsPerOne = n := ⟨_, rfl⟩
  have lead : leadingExponent units = ((digitChars n).length : Int) - 401 := by
    rw [leadingExponent, hn]
  have nonempty := List.length_pos_iff.mpr (digitChars_ne_nil n)
  have size : 10 ^ ((digitChars n).length - 1) * unitsPerOne ≤ units * Nat.pow 10 400 := by
    have enough : unitsPerOne ≤ units * Nat.pow 10 400 :=
      Nat.le_trans (by decide +kernel) (Nat.le_mul_of_pos_left _ positive)
    have leads : 0 < n := hn ▸ Nat.div_pos enough unitsPerOne_pos
    rw [← Nat.le_div_iff_mul_le unitsPerOne_pos, hn]
    exact pow_length_le leads
  have bound := pow_mul_le_of_shifted e.toNat (-e).toNat (by omega) size
  rw [he, Interval.den_scale, Interval.value_scale]
  omega

/-- Seventeen digits are enough: the grid is finer than the midpoints lie apart. -/
theorem exists_holds_of_seventeen {units : Nat} (positive : 0 < units) :
    ∃ c, ((Interval.ofUnits units).scale (leadingExponent units + 1 - 17)).holds c = true := by
  have fine := pow_mul_den_le_value positive
  obtain ⟨e, he⟩ : ∃ e, leadingExponent units + 1 - 17 = e := ⟨_, rfl⟩
  rw [he] at fine ⊢
  obtain ⟨i, hi⟩ : ∃ i, (Interval.ofUnits units).scale e = i := ⟨_, rfl⟩
  have proper := Interval.proper_scale positive e
  have low := Interval.low_scale positive e
  have value := Interval.value_scale units e
  have high := Interval.high_scale units e
  rw [hi] at proper low value high fine ⊢
  have rounds := roundsTo_nearestEven i.value proper.den_pos
  have bits : units * 10 ^ (-e).toNat < 2 ^ 53 * (spacing units * 10 ^ (-e).toNat) := by
    rw [← Nat.mul_assoc]
    exact Nat.mul_lt_mul_of_pos_right (lt_mul_spacing units) (Nat.pow_pos (by decide))
  -- The nearest whole number is at most half a step of the grid away from the value.
  have gap : i.den < 2 * (lowerGap units * 10 ^ (-e).toNat) := by
    by_cases special : units = 2 ^ 52 * spacing units ∧ 1 < spacing units
    · have exact : units * 10 ^ (-e).toNat = 2 ^ 52 * (spacing units * 10 ^ (-e).toNat) := by
        rw [← Nat.mul_assoc, ← special.1]
      rw [lowerGap, if_pos special]
      omega
    · rw [lowerGap, if_neg special, Nat.mul_assoc]
      omega
  have step : i.den < 4 * (spacing units * 10 ^ (-e).toNat) := by omega
  refine ⟨nearestEven i.value i.den, ?_⟩
  rw [Interval.holds_iff]
  unfold RoundsTo at rounds
  left
  omega

/-! ## The search over grids -/

/-- A zero at the end of the coefficient stands for a power of ten. -/
theorem readsAs_mul_ten (c : Nat) (e : Int) (units : Nat) :
    (Decimal.mk (c * 10) e).ReadsAs units ↔ (Decimal.mk c (e + 1)).ReadsAs units := by
  unfold ReadsAs
  dsimp only
  -- The ten is a factor of the numerator, or cancels one of the denominator.
  by_cases whole : 0 ≤ e
  · have up : (e + 1).toNat = e.toNat + 1 := by omega
    have down : (-(e + 1)).toNat = (-e).toNat := by omega
    rw [up, down, Nat.pow_succ', ← Nat.mul_assoc]
  · have up : (e + 1).toNat = e.toNat := by omega
    have down : (-e).toNat = (-(e + 1)).toNat + 1 := by omega
    have scaled : c * 10 * 10 ^ e.toNat * unitsPerOne = c * 10 ^ e.toNat * unitsPerOne * 10 := by
      ring
    rw [up, down, Nat.pow_succ, scaled,
      nearestCount_mul_right (Nat.pow_pos (by decide)) (by decide)]

theorem strip_readsAs {units : Nat} (fuel : Nat) {d : Decimal} (reads : d.ReadsAs units) :
    (strip fuel d).ReadsAs units := by
  induction fuel generalizing d with
  | zero => exact reads
  | succ fuel ih =>
    simp only [strip]
    split
    next ends =>
      apply ih
      rw [← readsAs_mul_ten, Nat.div_mul_cancel (Nat.dvd_of_mod_eq_zero ends.2)]
      exact reads
    next => exact reads

theorem strip_eq (fuel : Nat) (d : Decimal) :
    ∃ c j : Nat, strip fuel d = ⟨c, d.exponent + j⟩ ∧ c * 10 ^ j = d.coefficient := by
  induction fuel generalizing d with
  | zero => exact ⟨d.coefficient, 0, by simp [strip], by simp⟩
  | succ fuel ih =>
    simp only [strip]
    split
    next ends =>
      obtain ⟨c, j, stripped, value⟩ := ih ⟨d.coefficient / 10, d.exponent + 1⟩
      refine ⟨c, j + 1, ?_, ?_⟩
      · rw [stripped, Nat.cast_succ]
        ring_nf
      · rw [Nat.pow_succ, ← Nat.mul_assoc, value]
        exact Nat.div_mul_cancel (Nat.dvd_of_mod_eq_zero ends.2)
    next => exact ⟨d.coefficient, 0, by simp, by simp⟩

/-- The search ends at the first grid that has a decimal in the interval. -/
theorem search_eq {i : Interval} {lead : Int} (tries digits found : Nat) (least : digits ≤ found)
    (most : found < digits + tries)
    (isSome : (i.scale (lead + 1 - found)).nearest?.isSome = true) :
    ∃ first c : Nat, first ≤ found ∧ (i.scale (lead + 1 - first)).nearest? = some c ∧
      (∀ d : Nat, digits ≤ d → d < first → (i.scale (lead + 1 - d)).nearest? = none) ∧
      search i lead tries digits = strip 20 ⟨c, lead + 1 - first⟩ := by
  induction tries generalizing digits with
  | zero => omega
  | succ tries ih =>
    cases here : (i.scale (lead + 1 - digits)).nearest? with
    | some c =>
      refine ⟨digits, c, least, here, fun d low high => absurd high (by omega), ?_⟩
      simp only [search, here]
    | none =>
      have later : digits ≠ found := by
        rintro rfl
        simp [here] at isSome
      obtain ⟨first, c, below, isFirst, earlier, result⟩ :=
        ih (digits + 1) (by omega) (by omega)
      refine ⟨first, c, below, isFirst, fun d low high => ?_, by simp only [search, here, result]⟩
      rcases Nat.eq_or_lt_of_le low with rfl | larger
      · exact here
      · exact earlier d larger high

/-- The shortest decimal is the one nearest to the count on the coarsest grid, from the grid
of one digit on, that has a decimal which is read as the count. -/
theorem shortest_eq {units : Nat} (count : IsCount units) (positive : 0 < units) :
    ∃ (c : Nat) (e : Int), leadingExponent units - 16 ≤ e ∧
      ((Interval.ofUnits units).scale e).nearest? = some c ∧
      (∀ (n : Nat) (coarser : Int), e < coarser → coarser ≤ leadingExponent units →
        ¬ (Decimal.mk n coarser).ReadsAs units) ∧
      shortest units = strip 20 ⟨c, e⟩ := by
  obtain ⟨n, holds⟩ := exists_holds_of_seventeen positive
  have isSome := (Interval.proper_scale positive _).nearest?_isSome holds
  obtain ⟨first, c, most, found, earlier, result⟩ :=
    search_eq 17 1 17 (by omega) (by omega) isSome
  refine ⟨c, _, by omega, found, fun n coarser finer leads reads => ?_, result⟩
  have grid : leadingExponent units + 1 - (leadingExponent units + 1 - coarser).toNat =
      coarser := by omega
  have none := earlier (leadingExponent units + 1 - coarser).toNat (by omega) (by omega)
  rw [← Interval.holds_scale_iff count positive] at reads
  -- A decimal on a coarser grid would have ended the search there.
  have some := (Interval.proper_scale positive coarser).nearest?_isSome reads
  rw [grid] at none
  rw [none] at some
  cases some

theorem shortest_readsAs {units : Nat} (count : IsCount units) (positive : 0 < units) :
    (shortest units).ReadsAs units := by
  obtain ⟨c, e, -, found, -, result⟩ := shortest_eq count positive
  rw [result]
  apply strip_readsAs
  rw [← Interval.holds_scale_iff count positive]
  exact Interval.holds_of_nearest? found

end Decimal

end Reckoner
