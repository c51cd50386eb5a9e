import Reckoner.Proofs.Decimal.Plain
import Reckoner.Proofs.Decimal.Whole
import Mathlib.Tactic.FieldSimp

/-! # Shortest decimals in positional notation

When the shortest decimal of a number is written without an exponent:

* `Nearest.bounds` — a count and the fractions that round to it are of one size.
* `Decimal.leadingExponent_lt_iff` — the power of ten of the first digit.
* `Decimal.shortest_ends` — the shortest decimal does not end in a zero.
* `Decimal.shortest_exponent_ge` — it has no more places than any decimal that is read alike.
* `Decimal.exists_plain_shortest` — so it is a plain numeral if one of few places is read alike.
-/

namespace Reckoner

theorem Nearest.bounds {num den units : Nat} (positive : 0 < units)
    (nearest : Nearest num den units) :
    units * den ≤ 2 * num ∧ 2 * num ≤ 3 * (units * den) := by
  have below := Nat.mul_le_mul_right den (Decimal.lowerGap_le positive)
  have above := Nat.mul_le_mul_right den (Decimal.spacing_le_self positive)
  rw [Nat.mul_assoc] at below
  unfold Nearest at nearest
  omega

namespace Decimal

theorem ReadsAs.bounds {c units : Nat} {e : Int} (positive : 0 < units)
    (reads : (Decimal.mk c e).ReadsAs units) :
    units * 10 ^ (-e).toNat ≤ 2 * (c * 10 ^ e.toNat * unitsPerOne) ∧
      2 * (c * 10 ^ e.toNat * unitsPerOne) ≤ 3 * (units * 10 ^ (-e).toNat) := by
  apply Nearest.bounds positive
  have nearest := nearest_nearestCount (c * 10 ^ e.toNat * unitsPerOne)
    (Nat.pow_pos (n := (-e).toNat) (by decide : 0 < 10))
  rwa [show nearestCount _ _ = units from reads] at nearest

theorem readsAs_places (c places units : Nat) :
    (Decimal.mk c (-places)).ReadsAs units ↔
      nearestCount (c * unitsPerOne) (10 ^ places) = units := by
  simp [ReadsAs]

theorem readsAs_mul_pow (c j : Nat) (e : Int) (units : Nat) :
    (Decimal.mk (c * 10 ^ j) e).ReadsAs units ↔ (Decimal.mk c (e + j)).ReadsAs units := by
  induction j generalizing c with
  | zero => simp
  | succ j ih =>
    have next : e + (j + 1 : Nat) = e + j + 1 := by
      rw [Nat.cast_succ, add_assoc]
    rw [Nat.pow_succ', ← Nat.mul_assoc, ih, readsAs_mul_ten, next]

/-! ## The first digit -/

theorem leadingExponent_ge (units : Nat) : -400 ≤ leadingExponent units := by
  have nonempty := List.length_pos_iff.mpr
    (digitChars_ne_nil (units * Nat.pow 10 400 / unitsPerOne))
  unfold leadingExponent
  omega

/-- A bound on a quotient taken `far` places to the left, brought back to its place. -/
theorem lt_pow_mul_iff_of_shifted {units size far down up : Nat} (shift : size + down = far + up) :
    units * Nat.pow 10 far < 10 ^ size * unitsPerOne ↔
      units * 10 ^ down < 10 ^ up * unitsPerOne := by
  have left : units * 10 ^ far * 10 ^ down = units * 10 ^ down * 10 ^ far :=
    Nat.mul_right_comm ..
  have right : 10 ^ size * unitsPerOne * 10 ^ down = 10 ^ up * unitsPerOne * 10 ^ far := by
    rw [Nat.mul_right_comm, ← Nat.pow_add, shift, Nat.pow_add]
    ring
  have downPos : 0 < 10 ^ down := Nat.pow_pos (by decide)
  have farPos : 0 < 10 ^ far := Nat.pow_pos (by decide)
  rw [Nat.pow_eq, ← Nat.mul_lt_mul_right downPos, left, right, Nat.mul_lt_mul_right farPos]

theorem leadingExponent_lt_iff {units : Nat} {k : Int} (inRange : -400 < k) :
    leadingExponent units < k ↔ units * 10 ^ (-k).toNat < 10 ^ k.toNat * unitsPerOne := by
  obtain ⟨far, isFar⟩ : ∃ far, 400 = far := ⟨_, rfl⟩
  have shift : (k + far).toNat + (-k).toNat = far + k.toNat := by omega
  rw [← lt_pow_mul_iff_of_shifted shift, ← Nat.div_lt_iff_lt_mul unitsPerOne_pos,
    ← length_digitChars_le_iff (by omega), leadingExponent, isFar]
  omega

/-! ## The last digit -/

theorem strip_ends (fuel : Nat) {d : Decimal} (positive : 0 < d.coefficient)
    (short : d.coefficient < 10 ^ fuel) : (strip fuel d).coefficient % 10 ≠ 0 := by
  induction fuel generalizing d with
  | zero => omega
  | succ fuel ih =>
    simp only [strip]
    split
    next ends =>
      rw [Nat.pow_succ'] at short
      exact ih (by simp only; omega) (Nat.div_lt_of_lt_mul short)
    next => omega

/-- The grid on which the search ends is too coarse for more than eighteen digits. -/
theorem coefficient_lt {c units : Nat} {e : Int} (positive : 0 < units)
    (grid : leadingExponent units - 16 ≤ e) (reads : (Decimal.mk c e).ReadsAs units) :
    c < 10 ^ 18 := by
  have far := leadingExponent_ge units
  obtain ⟨k, hk⟩ : ∃ k, e + 17 = k := ⟨_, rfl⟩
  have below : leadingExponent units < k := by omega
  have size := (leadingExponent_lt_iff (by omega)).mp below
  have shift : k.toNat + (-e).toNat = 17 + (e.toNat + (-k).toNat) := by omega
  obtain ⟨scale, hscale⟩ : ∃ scale, 10 ^ (e.toNat + (-k).toNat) * unitsPerOne = scale := ⟨_, rfl⟩
  have scalePos : 0 < scale := by
    rw [← hscale]
    exact Nat.mul_pos (Nat.pow_pos (by decide)) unitsPerOne_pos
  -- Both bounds at one scale.
  have upper : 2 * (c * scale) ≤ 3 * (units * 10 ^ (-k).toNat * 10 ^ (-e).toNat) := by
    have bound := Nat.mul_le_mul_right (10 ^ (-k).toNat) (reads.bounds positive).2
    rw [← hscale, Nat.pow_add]
    calc 2 * (c * (10 ^ e.toNat * 10 ^ (-k).toNat * unitsPerOne))
        = 2 * (c * 10 ^ e.toNat * unitsPerOne) * 10 ^ (-k).toNat := by ring
      _ ≤ 3 * (units * 10 ^ (-e).toNat) * 10 ^ (-k).toNat := bound
      _ = 3 * (units * 10 ^ (-k).toNat * 10 ^ (-e).toNat) := by ring
  have lower : units * 10 ^ (-k).toNat * 10 ^ (-e).toNat < 10 ^ 17 * scale := by
    have bound := Nat.mul_lt_mul_of_pos_right size
      (Nat.pow_pos (n := (-e).toNat) (by decide : 0 < 10))
    rwa [Nat.mul_right_comm (10 ^ k.toNat), ← Nat.pow_add, shift, Nat.pow_add,
      Nat.mul_assoc (10 ^ 17), hscale] at bound
  apply Nat.lt_of_mul_lt_mul_right (a := scale)
  omega

theorem coefficient_pos {c units : Nat} {e : Int} (positive : 0 < units)
    (reads : (Decimal.mk c e).ReadsAs units) : 0 < c := by
  have bound := (reads.bounds positive).1
  have size := Nat.mul_pos positive (Nat.pow_pos (n := (-e).toNat) (by decide : 0 < 10))
  apply Nat.pos_of_ne_zero
  rintro rfl
  omega

theorem shortest_ends {units : Nat} (count : IsCount units) (positive : 0 < units) :
    (shortest units).coefficient % 10 ≠ 0 := by
  obtain ⟨c, e, grid, found, -, result⟩ := shortest_eq count positive
  have reads := (Interval.holds_scale_iff count positive c e).mp (Interval.holds_of_nearest? found)
  rw [result]
  apply strip_ends 20 (d := ⟨c, e⟩) (coefficient_pos positive reads)
  exact (coefficient_lt positive grid reads).trans (by decide)

/-! ## Few places -/

/-- If a decimal of `places` places is read as the number, the shortest decimal of the number
    has no more, unless the number is smaller than the last of them. -/
theorem shortest_exponent_ge {m units places : Nat} (count : IsCount units)
    (positive : 0 < units) (reads : (Decimal.mk m (-places)).ReadsAs units)
    (leads : -places ≤ leadingExponent units) : -places ≤ (shortest units).exponent := by
  obtain ⟨c, e, -, -, coarsest, result⟩ := shortest_eq count positive
  obtain ⟨d, zeros, stripped, -⟩ := strip_eq 20 ⟨c, e⟩
  have enough : -places ≤ e := by
    -- Else the search would have ended at the given decimal.
    by_contra finer
    exact coarsest m _ (Int.lt_of_not_ge finer) leads reads
  rw [result, stripped]
  dsimp only
  omega

/-- A decimal that does not end in a zero is a plain numeral if it has few places and is not
    too large. -/
theorem exists_plain (negative : Bool) {c j places : Nat} (ends : c % 10 ≠ 0) (few : places ≤ 6)
    (small : c * 10 ^ j < 10 ^ (21 + places)) :
    ∃ n : PlainNumeral,
      n.chars = (if negative then ['-'] else []) ++ (Decimal.mk c (-places + j)).render ∧
      n.fraction.length ≤ places ∧
      n.value = signFactor negative * ((c * 10 ^ j : Nat) / 10 ^ places) := by
  have positive : 0 < c := by omega
  -- The zeros after the digits either reach the point or end before it.
  by_cases whole : places ≤ j
  · obtain ⟨zeros, rfl⟩ : ∃ zeros, j = places + zeros := ⟨j - places, by omega⟩
    have exponent : (-places + (places + zeros : Nat) : Int) = zeros := by omega
    have below : c * 10 ^ zeros < 10 ^ 21 := by
      apply Nat.lt_of_mul_lt_mul_right (a := 10 ^ places)
      rwa [← Nat.pow_add, Nat.mul_assoc, ← Nat.pow_add, Nat.add_comm zeros]
    have nonzero : c * 10 ^ zeros ≠ 0 := (Nat.mul_pos positive (Nat.pow_pos (by decide))).ne'
    refine ⟨.ofNat negative (c * 10 ^ zeros) fun _ => nonzero, ?_, Nat.zero_le _, ?_⟩
    · rw [PlainNumeral.chars_ofNat, exponent, render_whole positive below]
    · rw [PlainNumeral.value_ofNat, Nat.pow_add]
      push_cast
      field_simp
  · obtain ⟨behind, rfl⟩ : ∃ behind, places = j + behind := ⟨places - j, by omega⟩
    have exponent : (-(j + behind : Nat) + j : Int) = -behind := by omega
    have fits : (digitChars c).length ≤ 21 + behind := by
      rw [length_digitChars_le_iff (by omega)]
      apply Nat.lt_of_mul_lt_mul_right (a := 10 ^ j)
      rwa [← Nat.pow_add, Nat.add_assoc, Nat.add_comm behind]
    refine ⟨.ofScaled negative c behind ends, ?_, ?_, ?_⟩
    · rw [PlainNumeral.chars_ofScaled ends (by omega) (by omega) fits, exponent]
    · rw [PlainNumeral.length_fraction_ofScaled]
      omega
    · rw [PlainNumeral.value_ofScaled, pow_add, Nat.cast_mul, Nat.cast_pow, Nat.cast_ofNat]
      field_simp

theorem ReadsAs.lt_pow_of_places {c places units : Nat} (positive : 0 < units)
    (small : units < 10 ^ 20 * unitsPerOne) (reads : (Decimal.mk c (-places)).ReadsAs units) :
    c < 10 ^ (21 + places) := by
  have upper := (reads.bounds positive).2
  have scaled := Nat.mul_lt_mul_of_pos_right small
    (Nat.pow_pos (n := places) (by decide : 0 < 10))
  rw [Int.toNat_neg_natCast, neg_neg, Int.toNat_natCast, Nat.pow_zero, Nat.mul_one] at upper
  rw [Nat.mul_right_comm] at scaled
  apply Nat.lt_of_mul_lt_mul_right (a := unitsPerOne)
  have bound : 10 ^ (21 + places) = 10 * (10 ^ 20 * 10 ^ places) := by ring
  rw [bound, Nat.mul_assoc 10]
  omega

/-- A number below `10 ^ 20` is written without an exponent if a decimal of six places is read
    as it.  What is written is then read as the number, too. -/
theorem exists_plain_shortest {m units places : Nat} (negative : Bool) (count : IsCount units)
    (positive : 0 < units) (few : places ≤ 6) (small : units < 10 ^ 20 * unitsPerOne)
    (reads : (Decimal.mk m (-places)).ReadsAs units)
    (leads : -places ≤ leadingExponent units) :
    ∃ (n : PlainNumeral) (k : Nat),
      n.chars = (if negative then ['-'] else []) ++ (shortest units).render ∧
      n.fraction.length ≤ places ∧
      n.value = signFactor negative * (k / 10 ^ places) ∧
      (Decimal.mk k (-places)).ReadsAs units := by
  have ends := shortest_ends count positive
  have grid := shortest_exponent_ge count positive reads leads
  have itself := shortest_readsAs count positive
  cases shown : shortest units with
  | mk c e =>
    simp only [shown] at ends grid itself
    obtain ⟨j, rfl⟩ : ∃ j : Nat, e = -places + j := ⟨(e + places).toNat, by omega⟩
    have scaled := (readsAs_mul_pow c j (-places) units).mpr itself
    obtain ⟨n, chars, length, value⟩ :=
      exists_plain negative ends few (scaled.lt_pow_of_places positive small)
    exact ⟨n, c * 10 ^ j, chars, length, value, scaled⟩

end Decimal

end Reckoner
