import Reckoner.Binary64.Basic
import Mathlib.Algebra.Order.Group.Nat
import Mathlib.Tactic.Ring

/-! # Rounding to the nearest number

A fraction of units is rounded to the count that it is nearest to, and of two equally near
to the one whose last bit is even:

* `RoundsTo`, `nearestEven_eq_iff` — the whole number that a fraction is nearest to.
* `spacing_eq`, `IsCount.spacing_dvd` — a count as a multiple of its spacing.
* `Nearest`, `nearestCount_eq_iff` — the fractions that round to a count.
* `nearestCount_self` — a count is its own rounding.
-/

namespace Reckoner

/-! ## Whole numbers -/

/-- The fraction is nearer to `n` than to any other whole number, or as near and `n` is even. -/
def RoundsTo (num den n : Nat) : Prop :=
  2 * (n * den) < 2 * num + den ∧ 2 * num < 2 * (n * den) + den ∨
    n % 2 = 0 ∧ 2 * (n * den) ≤ 2 * num + den ∧ 2 * num ≤ 2 * (n * den) + den

/-- A multiple of `d` is at most another one, or above it by at least `d`. -/
theorem mul_le_or_add_le (m n d : Nat) : m * d ≤ n * d ∨ n * d + d ≤ m * d := by
  rcases Nat.lt_or_ge n m with above | below
  · right
    have bound := Nat.mul_le_mul_right d (Nat.succ_le_of_lt above)
    rwa [Nat.succ_mul] at bound
  · exact .inl (Nat.mul_le_mul_right d below)

theorem roundsTo_nearestEven (num : Nat) {den : Nat} (positive : 0 < den) :
    RoundsTo num den (nearestEven num den) := by
  have split := Nat.div_add_mod num den
  have remainder := Nat.mod_lt num positive
  have next : (num / den + 1) * den = num / den * den + den := Nat.succ_mul _ _
  rw [Nat.mul_comm] at split
  simp only [nearestEven, RoundsTo]
  by_cases below : 2 * (num % den) < den
  · rw [if_pos below]
    omega
  · rw [if_neg below]
    by_cases above : den < 2 * (num % den)
    · rw [if_pos above, next]
      omega
    · rw [if_neg above]
      right
      -- The fraction lies halfway, so the even neighbour is taken.
      rcases Nat.mod_two_eq_zero_or_one (num / den) with even | odd
      · rw [even, Nat.add_zero]
        omega
      · rw [odd, next]
        omega

theorem RoundsTo.unique {num den m n : Nat} (positive : 0 < den) (first : RoundsTo num den m)
    (second : RoundsTo num den n) : m = n := by
  have lower := mul_le_or_add_le m n den
  have upper := mul_le_or_add_le n m den
  unfold RoundsTo at first second
  -- Two whole numbers that are both nearest are neighbours, and both are even.
  have close : m * den = n * den ∨ m * den = n * den + den ∨ n * den = m * den + den := by omega
  rcases close with same | next | next
  · exact Nat.eq_of_mul_eq_mul_right positive same
  · have neighbour : m = n + 1 := by
      apply Nat.eq_of_mul_eq_mul_right positive
      rw [next, Nat.succ_mul]
    omega
  · have neighbour : n = m + 1 := by
      apply Nat.eq_of_mul_eq_mul_right positive
      rw [next, Nat.succ_mul]
    omega

theorem nearestEven_eq_iff {num den n : Nat} (positive : 0 < den) :
    nearestEven num den = n ↔ RoundsTo num den n := by
  constructor
  · rintro rfl
    exact roundsTo_nearestEven num positive
  · exact (roundsTo_nearestEven num positive).unique positive

theorem RoundsTo.le_of_mul_le {num den m n : Nat} (positive : 0 < den)
    (rounds : RoundsTo num den n) (below : m * den ≤ num) : m ≤ n := by
  by_contra above
  have next := Nat.mul_le_mul_right den (Nat.lt_of_not_le above)
  rw [Nat.succ_mul] at next
  unfold RoundsTo at rounds
  omega

theorem RoundsTo.ge_of_le_mul {num den m n : Nat} (positive : 0 < den)
    (rounds : RoundsTo num den n) (above : num ≤ m * den) : n ≤ m := by
  by_contra below
  have next := Nat.mul_le_mul_right den (Nat.lt_of_not_le below)
  rw [Nat.succ_mul] at next
  unfold RoundsTo at rounds
  omega

theorem roundsTo_mul_right {num den n c : Nat} (factor : 0 < c) :
    RoundsTo (num * c) (den * c) n ↔ RoundsTo num den n := by
  have above : 2 * (num * c) + den * c = (2 * num + den) * c := by ring
  have next : 2 * (n * (den * c)) + den * c = (2 * (n * den) + den) * c := by ring
  have value : 2 * (num * c) = 2 * num * c := by ring
  have whole : 2 * (n * (den * c)) = 2 * (n * den) * c := by ring
  rw [RoundsTo, above, next, value, whole, Nat.mul_lt_mul_right factor, Nat.mul_lt_mul_right factor,
    Nat.mul_le_mul_right_iff factor, Nat.mul_le_mul_right_iff factor, RoundsTo]

/-! ## Spacing -/

theorem spacing_pos (whole : Nat) : 0 < spacing whole :=
  Nat.pow_pos (by decide)

theorem lt_mul_spacing (whole : Nat) : whole < 2 ^ 53 * spacing whole := by
  rw [← Nat.div_lt_iff_lt_mul (spacing_pos whole)]
  exact div_spacing_lt whole

theorem mul_spacing_le (whole : Nat) : spacing whole = 1 ∨ 2 ^ 52 * spacing whole ≤ whole := by
  rcases Nat.lt_or_ge 52 whole.log2 with large | small
  · right
    have nonzero : whole ≠ 0 := by
      rintro rfl
      simp at large
    calc 2 ^ 52 * spacing whole = 2 ^ (52 + (whole.log2 - 52)) := (Nat.pow_add 2 _ _).symm
      _ = 2 ^ whole.log2 := by rw [Nat.add_sub_cancel' large.le]
      _ ≤ whole := Nat.log2_self_le nonzero
  · left
    rw [spacing, Nat.sub_eq_zero_of_le small, Nat.pow_eq, Nat.pow_zero]

theorem spacing_eq {whole e : Nat} (upper : whole < 2 ^ 53 * 2 ^ e)
    (lower : e = 0 ∨ 2 ^ 52 * 2 ^ e ≤ whole) : spacing whole = 2 ^ e := by
  rw [← Nat.pow_add] at upper lower
  have size : whole.log2 - 52 = e := by
    by_cases nonzero : whole = 0
    · have := Nat.two_pow_pos (52 + e)
      subst nonzero
      simp only [Nat.log2_zero]
      omega
    · rcases lower with first | large
      · subst first
        have := (Nat.log2_lt nonzero).mpr upper
        omega
      · rw [(Nat.log2_eq_iff nonzero).mpr ⟨large, by rwa [Nat.add_right_comm]⟩]
        omega
  rw [spacing, size]
  rfl

theorem spacing_div_eq_iff {num den e : Nat} (positive : 0 < den) :
    spacing (num / den) = 2 ^ e ↔
      num < 2 ^ 53 * (den * 2 ^ e) ∧ (e = 0 ∨ 2 ^ 52 * (den * 2 ^ e) ≤ num) := by
  have scaled (c : Nat) : c * (den * 2 ^ e) = c * 2 ^ e * den := by ring
  rw [scaled, scaled, ← Nat.div_lt_iff_lt_mul positive, ← Nat.le_div_iff_mul_le positive]
  constructor
  · intro hspacing
    have lower := mul_spacing_le (num / den)
    rw [hspacing, Nat.pow_eq_one] at lower
    exact ⟨hspacing ▸ lt_mul_spacing (num / den), lower.imp_left (Or.resolve_left · (by decide))⟩
  · rintro ⟨upper, lower⟩
    exact spacing_eq upper lower

theorem IsCount.spacing_dvd {n : Nat} (count : IsCount n) : spacing n ∣ n := by
  obtain ⟨-, m, e, small, rfl⟩ := count
  by_cases zero : m = 0
  · simp [zero]
  · have size : (m * 2 ^ e).log2 < 53 + e := by
      rw [Nat.log2_lt (Nat.mul_ne_zero zero (Nat.two_pow_pos e).ne'), Nat.pow_add]
      exact Nat.mul_lt_mul_of_pos_right small (Nat.two_pow_pos e)
    apply Nat.dvd_mul_left_of_dvd
    apply Nat.pow_dvd_pow 2
    simp only [Nat.pow_eq]
    omega

theorem spacing_dvd_spacing {m n : Nat} (below : m ≤ n) : spacing m ∣ spacing n := by
  refine Nat.pow_dvd_pow 2 (Nat.sub_le_sub_right ?_ 52)
  by_cases zero : m = 0
  · subst zero
    exact Nat.zero_le _
  · exact (Nat.le_log2 (by omega)).mpr ((Nat.log2_self_le zero).trans below)

/-! ## Counts of units -/

/-- Four times the distance from a count down to where the fractions that round to it begin.
Below a power of two the counts lie half as far apart as above it. -/
def lowerGap (units : Nat) : Nat :=
  if units = 2 ^ 52 * spacing units ∧ 1 < spacing units then spacing units
  else 2 * spacing units

/-- The fraction lies between the midpoints around a count, which belong to the count if its
last bit is even. -/
def Nearest (num den units : Nat) : Prop :=
  4 * (units * den) < 4 * num + lowerGap units * den ∧
      4 * num < 4 * (units * den) + 2 * (spacing units * den) ∨
    units / spacing units % 2 = 0 ∧
      4 * (units * den) ≤ 4 * num + lowerGap units * den ∧
      4 * num ≤ 4 * (units * den) + 2 * (spacing units * den)

theorem nearestCount_eq_mul_iff {num den step k : Nat} (positive : 0 < den)
    (hspacing : spacing (num / den) = step) :
    nearestCount num den = k * step ↔ RoundsTo num (den * step) k := by
  have stepPos : 0 < step := hspacing ▸ spacing_pos _
  simp only [nearestCount, hspacing]
  rw [← nearestEven_eq_iff (Nat.mul_pos positive stepPos)]
  exact ⟨Nat.eq_of_mul_eq_mul_right stepPos, fun same => by rw [same]⟩

theorem nearest_mul_iff {num den k e : Nat} (hspacing : spacing (k * 2 ^ e) = 2 ^ e) :
    Nearest num den (k * 2 ^ e) ↔
      4 * (k * (den * 2 ^ e)) <
          4 * num + (if k = 2 ^ 52 ∧ 0 < e then 1 else 2) * (den * 2 ^ e) ∧
        4 * num < 4 * (k * (den * 2 ^ e)) + 2 * (den * 2 ^ e) ∨
      k % 2 = 0 ∧
        4 * (k * (den * 2 ^ e)) ≤
          4 * num + (if k = 2 ^ 52 ∧ 0 < e then 1 else 2) * (den * 2 ^ e) ∧
        4 * num ≤ 4 * (k * (den * 2 ^ e)) + 2 * (den * 2 ^ e) := by
  have stepPos := Nat.two_pow_pos e
  have scaled : k * 2 ^ e * den = k * (den * 2 ^ e) := by ring
  have quotient : k * 2 ^ e / 2 ^ e = k := Nat.mul_div_cancel _ stepPos
  have isSpecial : (k * 2 ^ e = 2 ^ 52 * 2 ^ e ∧ 1 < 2 ^ e) ↔ k = 2 ^ 52 ∧ 0 < e := by
    rw [Nat.mul_left_inj stepPos.ne', Nat.one_lt_two_pow_iff, Nat.pos_iff_ne_zero]
  have gap : lowerGap (k * 2 ^ e) * den =
      (if k = 2 ^ 52 ∧ 0 < e then 1 else 2) * (den * 2 ^ e) := by
    simp only [lowerGap, hspacing, isSpecial]
    split <;> ring
  rw [Nearest, hspacing, quotient, scaled, gap, Nat.mul_comm (2 ^ e) den]

/-- A rounding with 53 significant bits or fewer lies between its own midpoints. -/
theorem nearest_of_roundsTo {num den k e : Nat} (positive : 0 < den)
    (rounds : RoundsTo num (den * 2 ^ e) k) (bits : k < 2 ^ 53)
    (large : e = 0 ∨ 2 ^ 52 * (den * 2 ^ e) ≤ num) : Nearest num den (k * 2 ^ e) := by
  have stepPos := Nat.two_pow_pos e
  have denPos : 0 < den * 2 ^ e := Nat.mul_pos positive stepPos
  have same : spacing (k * 2 ^ e) = 2 ^ e := by
    apply spacing_eq (Nat.mul_lt_mul_of_pos_right bits stepPos)
    rcases large with first | large
    · exact .inl first
    · exact .inr (Nat.mul_le_mul_right _ (rounds.le_of_mul_le denPos large))
  rw [nearest_mul_iff same]
  unfold RoundsTo at rounds
  by_cases least : k = 2 ^ 52 ∧ 0 < e
  · -- Nothing that rounds to the least count of a spacing has a whole part below it.
    rw [if_pos least]
    rw [least.1] at rounds ⊢
    omega
  · rw [if_neg least]
    omega

/-- Rounded up to a power of two, a count has twice the spacing of the whole part. -/
theorem nearest_of_roundsTo_next {num den e : Nat}
    (rounds : RoundsTo num (den * 2 ^ e) (2 ^ 53)) (upper : num < 2 ^ 53 * (den * 2 ^ e)) :
    Nearest num den (2 ^ 53 * 2 ^ e) := by
  have twice : 2 ^ 53 * 2 ^ e = 2 ^ 52 * 2 ^ (e + 1) := by ring
  have double : den * 2 ^ (e + 1) = 2 * (den * 2 ^ e) := by ring
  have same : spacing (2 ^ 52 * 2 ^ (e + 1)) = 2 ^ (e + 1) :=
    spacing_eq (Nat.mul_lt_mul_of_pos_right (by decide) (Nat.two_pow_pos _)) (.inr le_rfl)
  rw [twice, nearest_mul_iff same, if_pos ⟨rfl, Nat.succ_pos e⟩, double]
  unfold RoundsTo at rounds
  omega

theorem nearest_nearestCount (num : Nat) {den : Nat} (positive : 0 < den) :
    Nearest num den (nearestCount num den) := by
  obtain ⟨e, hstep⟩ : ∃ e, spacing (num / den) = 2 ^ e := ⟨_, rfl⟩
  obtain ⟨q, hq⟩ : ∃ q, nearestCount num den = q * 2 ^ e := ⟨_, congrArg (_ * ·) hstep⟩
  have denPos : 0 < den * 2 ^ e := Nat.mul_pos positive (Nat.two_pow_pos e)
  have rounds := (nearestCount_eq_mul_iff positive hstep).mp hq
  obtain ⟨upper, lower⟩ := (spacing_div_eq_iff positive).mp hstep
  rw [hq]
  rcases Nat.lt_or_eq_of_le (rounds.ge_of_le_mul denPos upper.le) with bits | next
  · exact nearest_of_roundsTo positive rounds bits lower
  · rw [next] at rounds ⊢
    exact nearest_of_roundsTo_next rounds upper

/-- Below a power of two, but above the midpoint, the whole part has half the spacing. -/
theorem nearestCount_below_two_pow {num den e : Nat} (positive : 0 < den)
    (lower : 4 * (2 ^ 53 * (den * 2 ^ e)) ≤ 4 * num + 2 * (den * 2 ^ e))
    (upper : num < 2 ^ 53 * (den * 2 ^ e)) : nearestCount num den = 2 ^ 53 * 2 ^ e := by
  have same : spacing (num / den) = 2 ^ e :=
    (spacing_div_eq_iff positive).mpr ⟨upper, .inr (by omega)⟩
  rw [nearestCount_eq_mul_iff positive same, RoundsTo]
  omega

theorem Nearest.nearestCount_eq {num den units : Nat} (count : IsCount units)
    (positive : 0 < den) (nearest : Nearest num den units) : nearestCount num den = units := by
  obtain ⟨e, hstep⟩ : ∃ e, spacing units = 2 ^ e := ⟨_, rfl⟩
  obtain ⟨k, rfl⟩ : ∃ k, units = k * 2 ^ e := by
    obtain ⟨k, hk⟩ := count.spacing_dvd
    exact ⟨k, by rw [hk, hstep, Nat.mul_comm]⟩
  have stepPos := Nat.two_pow_pos e
  have denPos : 0 < den * 2 ^ e := Nat.mul_pos positive stepPos
  have bits : k < 2 ^ 53 := Nat.lt_of_mul_lt_mul_right (hstep ▸ lt_mul_spacing (k * 2 ^ e))
  have next := Nat.mul_le_mul_right (den * 2 ^ e) (Nat.succ_le_of_lt bits)
  rw [Nat.succ_mul] at next
  rw [nearest_mul_iff hstep] at nearest
  by_cases large : e = 0 ∨ 2 ^ 52 * (den * 2 ^ e) ≤ num
  · have same : spacing (num / den) = 2 ^ e :=
      (spacing_div_eq_iff positive).mpr ⟨by split at nearest <;> omega, large⟩
    rw [nearestCount_eq_mul_iff positive same, RoundsTo]
    split at nearest <;> omega
  · obtain ⟨half, rfl⟩ : ∃ half, e = half + 1 := Nat.exists_eq_succ_of_ne_zero (by omega)
    have least : k = 2 ^ 52 := by
      have above := mul_le_or_add_le k (2 ^ 52) (den * 2 ^ (half + 1))
      have below : 2 ^ 52 ≤ k := by
        have lower := mul_spacing_le (k * 2 ^ (half + 1))
        rw [hstep, Nat.pow_eq_one] at lower
        exact Nat.le_of_mul_le_mul_right (lower.resolve_left (by omega)) stepPos
      have atMost : k * (den * 2 ^ (half + 1)) ≤ 2 ^ 52 * (den * 2 ^ (half + 1)) := by
        split at nearest <;> omega
      exact (Nat.le_of_mul_le_mul_right atMost denPos).antisymm below
    subst least
    have twice : 2 ^ 52 * 2 ^ (half + 1) = 2 ^ 53 * 2 ^ half := by ring
    have double : den * 2 ^ (half + 1) = 2 * (den * 2 ^ half) := by ring
    rw [if_pos ⟨rfl, Nat.succ_pos half⟩, double] at nearest
    rw [double] at large
    rw [twice]
    exact nearestCount_below_two_pow positive (by omega) (by omega)

theorem nearestCount_eq_iff {num den units : Nat} (count : IsCount units)
    (positive : 0 < den) : nearestCount num den = units ↔ Nearest num den units := by
  constructor
  · rintro rfl
    exact nearest_nearestCount num positive
  · exact Nearest.nearestCount_eq count positive

theorem nearestCount_mul_right {num den c : Nat} (positive : 0 < den) (factor : 0 < c) :
    nearestCount (num * c) (den * c) = nearestCount num den := by
  have quotient : num * c / (den * c) = num / den := Nat.mul_div_mul_right num den factor
  have scaled : den * c * spacing (num / den) = den * spacing (num / den) * c :=
    Nat.mul_right_comm ..
  have stepPos := Nat.mul_pos positive (spacing_pos (num / den))
  have same : nearestEven (num * c) (den * spacing (num / den) * c) =
      nearestEven num (den * spacing (num / den)) := by
    rw [nearestEven_eq_iff (Nat.mul_pos stepPos factor), roundsTo_mul_right factor]
    exact roundsTo_nearestEven num stepPos
  simp only [nearestCount, quotient, scaled, same]

theorem lowerGap_pos (units : Nat) : 0 < lowerGap units := by
  have := spacing_pos units
  unfold lowerGap
  split <;> omega

theorem nearestCount_self {units : Nat} (count : IsCount units) : nearestCount units 1 = units := by
  have := spacing_pos units
  have := lowerGap_pos units
  rw [nearestCount_eq_iff count Nat.one_pos, Nearest]
  omega

theorem nearestCount_between {low num high den units : Nat} (count : IsCount units)
    (positive : 0 < den) (lowest : nearestCount low den = units)
    (highest : nearestCount high den = units) (above : low ≤ num) (below : num ≤ high) :
    nearestCount num den = units := by
  rw [nearestCount_eq_iff count positive, Nearest] at lowest highest ⊢
  omega

theorem nearestCount_le {num units : Nat} (count : IsCount units) (below : num ≤ units) :
    nearestCount num 1 ≤ units := by
  -- The bound is a multiple of the spacing at the number, as all counts above it are.
  obtain ⟨q, isMultiple⟩ : ∃ q, nearestCount num 1 = q * spacing num :=
    ⟨_, by rw [nearestCount, Nat.div_one]⟩
  obtain ⟨k, rfl⟩ := (spacing_dvd_spacing below).trans count.spacing_dvd
  have stepPos := spacing_pos num
  have rounds := (nearestCount_eq_mul_iff Nat.one_pos (by rw [Nat.div_one])).mp isMultiple
  rw [Nat.one_mul] at rounds
  rw [isMultiple, Nat.mul_comm]
  rw [Nat.mul_comm] at below
  exact Nat.mul_le_mul_left _ (rounds.ge_of_le_mul stepPos below)

end Reckoner
