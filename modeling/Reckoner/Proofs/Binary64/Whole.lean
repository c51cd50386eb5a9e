import Reckoner.Proofs.Binary64.Rounding

/-! # Whole numbers in the format

Which whole numbers the format holds, and what the number that stands for one looks like:

* `isCount_mul_two_pow`, `isCount_of_lt`, `isCount_pow_ten` — whole numbers that are held.
* `lt_of_nearestCount` — rounding does not cross a whole number that is held.
* `Binary64.toInt?_finite_iff` — the number that stands for a whole number.
* `Binary64.lt_iff_of_toInt?` — whole numbers in their order.
-/

namespace Reckoner

/-! ## Whole numbers among the counts -/

theorem unitsPerOne_eq_two_pow : ∃ places, 20 ≤ places ∧ unitsPerOne = 2 ^ places := by
  obtain ⟨places, isPlaces⟩ : ∃ places, 1074 = places := ⟨_, rfl⟩
  refine ⟨places, by omega, ?_⟩
  unfold unitsPerOne
  rw [isPlaces, Nat.pow_eq]

theorem mul_unitsPerOne_lt {n : Nat} (small : n ≤ 10 ^ 22) : n * unitsPerOne < countLimit := by
  calc n * unitsPerOne ≤ 10 ^ 22 * unitsPerOne := Nat.mul_le_mul_right _ small
    _ < countLimit := by decide +kernel

theorem isCount_mul_two_pow {m e : Nat} (bits : m < 2 ^ 53)
    (finite : m * 2 ^ e * unitsPerOne < countLimit) : IsCount (m * 2 ^ e * unitsPerOne) := by
  obtain ⟨places, -, isPower⟩ := unitsPerOne_eq_two_pow
  refine ⟨finite, m, e + places, bits, ?_⟩
  rw [power_add, ← Nat.mul_assoc, isPower]
  rfl

theorem isCount_of_lt {n : Nat} (small : n < 2 ^ 53) : IsCount (n * unitsPerOne) := by
  have finite := mul_unitsPerOne_lt (small.le.trans (by decide))
  have count := isCount_mul_two_pow (e := 0) small
  rw [Nat.pow_zero, Nat.mul_one] at count
  exact count finite

theorem isCount_double {n : Nat} (small : n < 2 ^ 53) : IsCount (n * 2 * unitsPerOne) := by
  have bound : n * 2 ≤ 10 ^ 22 := by omega
  exact isCount_mul_two_pow (e := 1) small (mul_unitsPerOne_lt bound)

theorem isCount_pow_ten {k : Nat} (small : k ≤ 22) : IsCount (10 ^ k * unitsPerOne) := by
  have finite := mul_unitsPerOne_lt (Nat.pow_le_pow_right (by decide : 0 < 10) small)
  -- The twos go into the exponent, and `5 ^ 22` still fits the significand.
  have bits : 5 ^ k < 2 ^ 53 := by
    calc 5 ^ k ≤ 5 ^ 22 := Nat.pow_le_pow_right (by decide) small
      _ < 2 ^ 53 := by decide
  have factored : 10 ^ k = 5 ^ k * 2 ^ k := by rw [← Nat.mul_pow]
  rw [factored] at finite ⊢
  exact isCount_mul_two_pow bits finite

/-- What is read as a whole number lies on the same side of every count. -/
theorem lt_of_nearestCount {m n w : Nat} (bound : IsCount (m * unitsPerOne))
    (count : IsCount (n * unitsPerOne)) (below : n < m)
    (reads : nearestCount (w * unitsPerOne) 1 = n * unitsPerOne) : w < m := by
  by_contra above
  -- The bound lies between `n` and `w` then, and is rounded to `n` like them.
  have same := nearestCount_between count Nat.one_pos (nearestCount_self count) reads
    (Nat.mul_le_mul_right _ below.le) (Nat.mul_le_mul_right _ (Nat.le_of_not_lt above))
  rw [nearestCount_self bound] at same
  have := Nat.eq_of_mul_eq_mul_right unitsPerOne_pos same
  omega

namespace Binary64

/-! ## Whole numbers among the numbers -/

theorem toInt?_eq_some_iff {x : Binary64} {n : Int} :
    x.toInt? = some n ↔ x.units? = some (n * unitsPerOne) := by
  have positive : (0 : Int) < unitsPerOne := by exact_mod_cast unitsPerOne_pos
  unfold toInt?
  cases x.units? with
  | none => exact iff_of_false nofun nofun
  | some units =>
    simp only [Option.ite_none_right_eq_some, Option.some.injEq]
    constructor
    · rintro ⟨divides, rfl⟩
      exact (Int.ediv_mul_cancel (Int.dvd_of_emod_eq_zero divides)).symm
    · rintro rfl
      exact ⟨Int.mul_emod_left .., Int.mul_ediv_cancel _ positive.ne'⟩

theorem signed_eq_iff {negative : Bool} {units : Nat} {n : Int} (nonzero : n ≠ 0) :
    (if negative then -(units : Int) else units) = n * unitsPerOne ↔
      negative = decide (n < 0) ∧ n.natAbs * unitsPerOne = units := by
  have unitsPos := Nat.mul_pos (Int.natAbs_pos.mpr nonzero) unitsPerOne_pos
  rcases Int.lt_or_gt_of_ne nonzero with below | above
  · have signed : n * unitsPerOne = -((n.natAbs * unitsPerOne : Nat) : Int) := by
      rw [Nat.cast_mul, ← Int.neg_mul, Int.ofNat_natAbs_of_nonpos below.le, Int.neg_neg]
    rw [signed, decide_eq_true below]
    generalize n.natAbs * unitsPerOne = magnitude at unitsPos
    cases negative <;> simp <;> omega
  · have signed : n * unitsPerOne = ((n.natAbs * unitsPerOne : Nat) : Int) := by
      rw [Nat.cast_mul, Int.natAbs_of_nonneg above.le]
    rw [signed, decide_eq_false above.not_gt]
    generalize n.natAbs * unitsPerOne = magnitude at unitsPos
    cases negative <;> simp <;> omega

theorem ofUnits_of_nearestCount {num den units : Nat} (negative : Bool) (count : IsCount units)
    (nearest : nearestCount num den = units) :
    ofUnits negative num den = .finite negative units count := by
  subst nearest
  exact dif_pos count.1

theorem ofUnits_finite_or (negative : Bool) (num den : Nat) :
    (∃ count, ofUnits negative num den = .finite negative (nearestCount num den) count) ∨
      ofUnits negative num den = .infinite negative := by
  by_cases finite : nearestCount num den < countLimit
  · exact .inl ⟨⟨finite, nearestCount_significant num den⟩, dif_pos finite⟩
  · exact .inr (dif_neg finite)

theorem ofRatio_ne_nan (negative : Bool) (num den : Nat) : ofRatio negative num den ≠ .nan := by
  rw [ofRatio]
  rcases ofUnits_finite_or negative (num * unitsPerOne) den with ⟨count, result⟩ | result <;>
    simp [result]

theorem ofNat_ne_nan (n : Nat) : ofNat n ≠ .nan := by
  rw [ofNat]
  exact ofRatio_ne_nan false n 1

theorem toInt?_infinite (negative : Bool) : (Binary64.infinite negative).toInt? = none :=
  rfl

theorem toInt?_finite_iff {negative : Bool} {units : Nat} {count : IsCount units} {n : Int}
    (nonzero : n ≠ 0) : (Binary64.finite negative units count).toInt? = some n ↔
      negative = decide (n < 0) ∧ n.natAbs * unitsPerOne = units := by
  rw [toInt?_eq_some_iff, ← signed_eq_iff nonzero, units?, Option.some.injEq]

theorem exists_finite_of_toInt? {x : Binary64} {n : Int} (whole : x.toInt? = some n) :
    ∃ count : IsCount (n.natAbs * unitsPerOne), n ≠ 0 →
      x = .finite (n < 0) (n.natAbs * unitsPerOne) count := by
  by_cases nonzero : n = 0
  · subst nonzero
    exact ⟨by simpa using isCount_zero, fun absurd => (absurd rfl).elim⟩
  · cases x with
    | nan => cases whole
    | infinite negative => cases whole
    | finite negative units count =>
      obtain ⟨sign, magnitude⟩ := (toInt?_finite_iff nonzero).mp whole
      subst sign
      subst magnitude
      exact ⟨count, fun _ => rfl⟩

theorem ofNat_of_isCount {n : Nat} (count : IsCount (n * unitsPerOne)) :
    ofNat n = .finite false (n * unitsPerOne) count := by
  rw [ofNat, ofRatio, ofUnits_of_nearestCount false count (nearestCount_self count)]

theorem toInt?_ofNat {n : Nat} (count : IsCount (n * unitsPerOne)) :
    (ofNat n).toInt? = some (n : Int) := by
  rw [ofNat_of_isCount count, toInt?_eq_some_iff, units?, Nat.cast_mul]
  rfl

theorem isFinite_ofNat {n bound : Nat} (count : IsCount (bound * unitsPerOne)) (below : n ≤ bound) :
    (ofNat n).isFinite = true := by
  have within := nearestCount_le count (Nat.mul_le_mul_right unitsPerOne below)
  rw [ofNat, ofRatio, ofUnits, dif_pos (within.trans_lt count.1)]
  rfl

theorem ofNat_ne_zero_true (n : Nat) : ofNat n ≠ zero true := by
  unfold ofNat ofRatio ofUnits
  split <;> nofun

/-! ## Order -/

theorem place?_of_toInt? {x : Binary64} {n : Int} (whole : x.toInt? = some n) :
    x.place? = some (n * unitsPerOne) := by
  cases x with
  | nan => cases whole
  | infinite negative => cases whole
  | finite negative units count => exact toInt?_eq_some_iff.mp whole

theorem lt_iff_of_toInt? {x y : Binary64} {m n : Int} (left : x.toInt? = some m)
    (right : y.toInt? = some n) : x < y ↔ m < n := by
  have positive : (0 : Int) < unitsPerOne := by exact_mod_cast unitsPerOne_pos
  have order : x < y ↔ m * unitsPerOne < n * unitsPerOne := by
    show x.lt y = true ↔ _
    simp only [lt, place?_of_toInt? left, place?_of_toInt? right, decide_eq_true_eq]
  rw [order]
  exact Int.mul_lt_mul_right positive

theorem isFinite_of_toInt? {x : Binary64} {n : Int} (whole : x.toInt? = some n) :
    x.isFinite = true := by
  cases x with
  | nan => cases whole
  | infinite negative => cases whole
  | finite negative units count => rfl

end Binary64

end Reckoner
