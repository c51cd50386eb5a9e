import Reckoner.Binary64.Arithmetic
import Reckoner.Proofs.Binary64.Whole

/-! # The order of numbers

Numbers stand in the order of their places, and only NaN has none.

* `lt_iff`, `le_iff` — the order by places.
* `le_refl_of_ne_nan`, `le_trans`, `not_le` — the order is total on all numbers but NaN.
* `zero_lt_sub_iff` — a difference is positive exactly when the first number is the greater.
-/

namespace Reckoner

theorem nearestCount_pos {n : Nat} (positive : 0 < n) : 0 < nearestCount n 1 := by
  rw [Nat.pos_iff_ne_zero]
  intro none
  have gap : lowerGap 0 = 2 := rfl
  have step : spacing 0 = 1 := rfl
  have nearest := (nearestCount_eq_iff isCount_zero Nat.one_pos).mp none
  simp only [Nearest, gap, step] at nearest
  omega

namespace Binary64

variable {x y z : Binary64}

/-! ## Places -/

theorem place?_eq_none : x.place? = none ↔ x = nan := by
  cases x with
  | nan => exact iff_of_true rfl rfl
  | infinite negative => exact ⟨nofun, nofun⟩
  | finite negative units count => exact ⟨nofun, nofun⟩

theorem exists_place (number : x ≠ nan) : ∃ place, x.place? = some place :=
  Option.ne_none_iff_exists'.mp (mt place?_eq_none.mp number)

theorem lt_iff : x < y ↔ ∃ a b, x.place? = some a ∧ y.place? = some b ∧ a < b := by
  show x.lt y = true ↔ _
  unfold lt
  cases x.place? <;> cases y.place? <;> simp

theorem le_iff : x ≤ y ↔ ∃ a b, x.place? = some a ∧ y.place? = some b ∧ a ≤ b := by
  show x.le y = true ↔ _
  unfold le
  cases x.place? <;> cases y.place? <;> simp

theorem ne_nan_of_le (below : x ≤ y) : x ≠ nan ∧ y ≠ nan := by
  obtain ⟨a, b, first, second, _⟩ := le_iff.mp below
  constructor
  · rintro rfl
    cases first
  · rintro rfl
    cases second

theorem le_refl_of_ne_nan (number : x ≠ nan) : x ≤ x := by
  obtain ⟨place, placed⟩ := exists_place number
  exact le_iff.mpr ⟨place, place, placed, placed, le_rfl⟩

theorem le_trans (first : x ≤ y) (second : y ≤ z) : x ≤ z := by
  obtain ⟨a, b, left, middle, below⟩ := le_iff.mp first
  obtain ⟨b', c, middle', right, above⟩ := le_iff.mp second
  obtain rfl : b = b' := Option.some.inj (middle.symm.trans middle')
  exact le_iff.mpr ⟨a, c, left, right, below.trans above⟩

theorem le_of_lt (less : x < y) : x ≤ y := by
  obtain ⟨a, b, left, right, below⟩ := lt_iff.mp less
  exact le_iff.mpr ⟨a, b, left, right, below.le⟩

theorem not_le (left : x ≠ nan) (right : y ≠ nan) : ¬ x ≤ y ↔ y < x := by
  obtain ⟨a, placed⟩ := exists_place left
  obtain ⟨b, placed'⟩ := exists_place right
  simp [le_iff, lt_iff, placed, placed']

theorem not_lt (left : x ≠ nan) (right : y ≠ nan) : ¬ x < y ↔ y ≤ x := by
  rw [← not_le right left, Classical.not_not]

/-! ## Differences -/

theorem lt_of_places {a b : Int} (left : x.place? = some a) (right : y.place? = some b) :
    x < y ↔ a < b := by
  simp [lt_iff, left, right]

theorem not_lt_nan : ¬ x < nan := by
  intro less
  obtain ⟨_, _, _, placed, _⟩ := lt_iff.mp less
  cases placed

theorem not_nan_lt : ¬ nan < x := by
  intro less
  obtain ⟨_, _, placed, _⟩ := lt_iff.mp less
  cases placed

theorem place?_infinite (negative : Bool) :
    (infinite negative).place? = some (if negative then -(countLimit : Int) else countLimit) :=
  rfl

theorem place?_finite (negative : Bool) (units : Nat) (count : IsCount units) :
    (finite negative units count).place? = some (if negative then -(units : Int) else units) :=
  rfl

theorem place?_zero (negative : Bool) : (zero negative).place? = some 0 := by
  cases negative <;> rfl

theorem zero_lt_finite (negative : Bool) (units : Nat) (count : IsCount units) :
    zero false < finite negative units count ↔ negative = false ∧ 0 < units := by
  rw [lt_of_places (place?_zero false) (place?_finite ..)]
  cases negative <;> simp

theorem zero_lt_infinite (negative : Bool) :
    zero false < infinite negative ↔ negative = false := by
  have limit := countLimit_pos
  rw [lt_of_places (place?_zero false) (place?_infinite ..)]
  generalize countLimit = bound at limit ⊢
  cases negative <;> simp [limit]

theorem zero_lt_ofSignedUnits {n : Int} (nonzero : n ≠ 0) :
    zero false < ofSignedUnits n ↔ 0 < n := by
  have counted : 0 < nearestCount n.natAbs 1 := nearestCount_pos (Int.natAbs_pos.mpr nonzero)
  -- Too large a difference is infinite, and has the sign that it had.
  rcases ofUnits_finite_or (decide (n < 0)) n.natAbs 1 with ⟨count, fits⟩ | exceeds
  · rw [ofSignedUnits, fits, zero_lt_finite, decide_eq_false_iff_not]
    omega
  · rw [ofSignedUnits, exceeds, zero_lt_infinite, decide_eq_false_iff_not]
    omega

/-- A difference of two infinities of one sign is NaN, and neither is the greater. -/
theorem zero_lt_sub_iff : zero false < x - y ↔ y < x := by
  have limit := countLimit_pos
  show zero false < add x (neg y) ↔ _
  cases x with
  | nan => simp only [add, not_lt_nan]
  | infinite a =>
    cases y with
    | nan => simp only [neg, add, not_lt_nan, not_nan_lt]
    | infinite b =>
      rw [lt_of_places (place?_infinite b) (place?_infinite a)]
      generalize countLimit = bound at limit ⊢
      cases a <;> cases b <;> simp [neg, add, zero_lt_infinite, not_lt_nan]
      omega
    | finite b n count =>
      have below := count.1
      rw [lt_of_places (place?_finite b n count) (place?_infinite a)]
      simp only [neg, add, zero_lt_infinite]
      generalize countLimit = bound at limit below ⊢
      cases a <;> cases b <;> simp <;> omega
  | finite a m count =>
    have below := count.1
    cases y with
    | nan => simp only [neg, add, not_lt_nan, not_nan_lt]
    | infinite b =>
      rw [lt_of_places (place?_infinite b) (place?_finite a m count)]
      simp only [neg, add, zero_lt_infinite]
      generalize countLimit = bound at limit below ⊢
      cases a <;> cases b <;> simp <;> omega
    | finite b n count' =>
      have opposite : (if !b then -(n : Int) else n) = -(if b then -(n : Int) else n) := by
        cases b <;> simp
      rw [lt_of_places (place?_finite b n count') (place?_finite a m count)]
      simp only [neg, add, opposite]
      generalize (if a then -(m : Int) else m) = left
      generalize (if b then -(n : Int) else n) = right
      by_cases same : left + -right = 0
      · rw [if_pos same, lt_of_places (place?_zero false) (place?_zero _)]
        omega
      · rw [if_neg same, zero_lt_ofSignedUnits same]
        omega

end Binary64

end Reckoner
