import Reckoner.Proofs.Binary64.Whole
import Reckoner.Proofs.Decimal.Shortest
import Reckoner.Proofs.Decimal.Spelling

/-! # Whole numbers as they are shown

From `10 ^ 21` on a whole number is shown with all its digits.  Below that it is shown by the
shortest decimal, with zeros for the digits that the shortest decimal leaves out:

* `Decimal.shortest_whole` — the shortest decimal of a whole number is a whole number.
* `Binary64.nearestCount_of_toInt?_read` — what the whole numbers that are read as `n` have in
  common.
* `Binary64.display_of_small` — what is shown is a whole number that is read as the one shown.
* `Value.text_of_whole` — when all digits shown are digits of the number.
-/

namespace Reckoner

namespace Decimal

/-! ## The shortest decimal of a whole number -/

theorem length_digitChars_shift {n m far : Nat} (positive : 0 < n)
    (shifted : n * unitsPerOne * Nat.pow 10 far / unitsPerOne = m) :
    (digitChars m).length = (digitChars n).length + far := by
  rw [← shifted, Nat.mul_right_comm, Nat.mul_div_cancel _ unitsPerOne_pos, Nat.pow_eq,
    digitChars_mul_pow positive, List.length_append, List.length_replicate]

theorem leadingExponent_whole {n : Nat} (positive : 0 < n) :
    leadingExponent (n * unitsPerOne) + 1 = (digitChars n).length := by
  obtain ⟨m, hm⟩ : ∃ m, n * unitsPerOne * Nat.pow 10 400 / unitsPerOne = m := ⟨_, rfl⟩
  have size := length_digitChars_shift positive hm
  rw [leadingExponent, hm]
  clear hm
  omega

theorem readsAs_natCast (c k units : Nat) :
    (Decimal.mk c k).ReadsAs units ↔ nearestCount (c * 10 ^ k * unitsPerOne) 1 = units := by
  simp [ReadsAs]

theorem nearest?_whole {n k c : Nat} (positive : 0 < n) (divides : 10 ^ k ∣ n)
    (found : ((Interval.ofUnits (n * unitsPerOne)).scale k).nearest? = some c) :
    c * 10 ^ k = n := by
  obtain ⟨m, rfl⟩ := divides
  have proper := Interval.proper_scale (Nat.mul_pos positive unitsPerOne_pos) (k : Int)
  have exact : ((Interval.ofUnits (10 ^ k * m * unitsPerOne)).scale k).value =
      m * ((Interval.ofUnits (10 ^ k * m * unitsPerOne)).scale k).den := by
    rw [Interval.value_scale, Interval.den_scale, Int.toNat_natCast, Int.toNat_neg_natCast]
    ring
  rw [proper.nearest?_of_exact exact] at found
  rw [← Option.some.inj found, Nat.mul_comm]

theorem pos_of_reads {n w : Nat} (positive : 0 < n)
    (reads : nearestCount (w * unitsPerOne) 1 = n * unitsPerOne) : 0 < w := by
  apply Nat.pos_of_ne_zero
  rintro rfl
  have unitsPos := Nat.mul_pos positive unitsPerOne_pos
  rw [Nat.zero_mul, nearestCount_self isCount_zero] at reads
  omega

/-- No decimal beyond the first digit of a whole number is read as that number. -/
theorem exponent_le_of_reads {n c k : Nat} (count : IsCount (n * unitsPerOne)) (positive : 0 < n)
    (small : n < 10 ^ 21)
    (reads : nearestCount (c * 10 ^ k * unitsPerOne) 1 = n * unitsPerOne) :
    (k : Int) ≤ leadingExponent (n * unitsPerOne) := by
  have lead := leadingExponent_whole positive
  have nonempty := List.length_pos_iff.mpr (digitChars_ne_nil n)
  have atMost := (length_digitChars_le_iff (by decide)).mpr small
  have below := (length_digitChars_le_iff nonempty).mp le_rfl
  have bounded := lt_of_nearestCount (isCount_pow_ten (by omega)) count below reads
  have nonzero := Nat.pos_of_mul_pos_right (pos_of_reads positive reads)
  have fewer : k < (digitChars n).length := by
    rw [← Nat.pow_lt_pow_iff_right (by decide : 1 < 10)]
    exact Nat.lt_of_le_of_lt (Nat.le_mul_of_pos_left _ nonzero) bounded
  omega

/-- The shortest decimal of a whole number below `10 ^ 21` is a whole number with as many zeros
at its end as any that is read as that number. -/
theorem shortest_whole {n : Nat} (count : IsCount (n * unitsPerOne)) (positive : 0 < n)
    (small : n < 10 ^ 21) :
    ∃ c k : Nat, shortest (n * unitsPerOne) = ⟨c, k⟩ ∧
      nearestCount (c * 10 ^ k * unitsPerOne) 1 = n * unitsPerOne ∧
      (10 ^ k ∣ n → c * 10 ^ k = n) ∧
      ∀ m i : Nat, nearestCount (m * 10 ^ i * unitsPerOne) 1 = n * unitsPerOne →
        10 ^ i ∣ c * 10 ^ k := by
  have unitsPos := Nat.mul_pos positive unitsPerOne_pos
  obtain ⟨digits, e, -, found, coarsest, result⟩ := shortest_eq count unitsPos
  have itself : nearestCount (n * 10 ^ 0 * unitsPerOne) 1 = n * unitsPerOne := by
    rw [Nat.pow_zero, Nat.mul_one]
    exact nearestCount_self count
  -- The number itself lies on the grid of ones, so no finer grid is tried.
  have whole : 0 ≤ e := by
    by_contra fraction
    exact coarsest n 0 (by omega) (exponent_le_of_reads count positive small itself)
      ((readsAs_natCast n 0 _).mpr itself)
  obtain ⟨grid, rfl⟩ := Int.eq_ofNat_of_zero_le whole
  obtain ⟨c, zeros, stripped, coefficient⟩ := strip_eq 20 ⟨digits, grid⟩
  have isWhole : shortest (n * unitsPerOne) = ⟨c, (grid + zeros : Nat)⟩ := by
    rw [result, stripped, Nat.cast_add]
  have value : c * 10 ^ (grid + zeros) = digits * 10 ^ grid := by
    calc c * 10 ^ (grid + zeros) = c * 10 ^ zeros * 10 ^ grid := by ring
      _ = digits * 10 ^ grid := by rw [coefficient]
  have reads := shortest_readsAs count unitsPos
  rw [isWhole, readsAs_natCast] at reads
  refine ⟨c, grid + zeros, isWhole, reads, fun divides => ?_, fun m i other => ?_⟩
  · rw [value]
    exact nearest?_whole positive ((Nat.pow_dvd_pow 10 (Nat.le_add_right ..)).trans divides) found
  · have notCoarser : i ≤ grid := by
      by_contra coarser
      exact coarsest m i (by omega) (exponent_le_of_reads count positive small other)
        ((readsAs_natCast m i _).mpr other)
    rw [value]
    exact (Nat.pow_dvd_pow 10 notCoarser).mul_left digits

theorem render_whole {c k : Nat} (positive : 0 < c) (small : c * 10 ^ k < 10 ^ 21) :
    (Decimal.mk c k).render = digitChars (c * 10 ^ k) := by
  have places := (length_digitChars_le_iff (by decide)).mpr small
  rw [digitChars_mul_pow positive, List.length_append, List.length_replicate] at places
  have before : ((digitChars c).length : Int) ≤ (digitChars c).length + k ∧
      ((digitChars c).length : Int) + k ≤ 21 := by omega
  have zeros : ((digitChars c).length + k - (digitChars c).length : Int).toNat = k := by omega
  rw [digitChars_mul_pow positive]
  simp only [render, if_pos before, zeros]

/-- A whole number is shown with all its digits exactly if no whole number that is read as it
has more zeros at its end. -/
theorem render_shortest_whole {n : Nat} (count : IsCount (n * unitsPerOne)) (positive : 0 < n)
    (small : n < 10 ^ 21) :
    ∃ w : Nat, (shortest (n * unitsPerOne)).render = digitChars w ∧ w < 10 ^ 21 ∧
      nearestCount (w * unitsPerOne) 1 = n * unitsPerOne ∧
      (w = n ↔ ∀ m k : Nat, nearestCount (m * unitsPerOne) 1 = n * unitsPerOne →
        10 ^ k ∣ m → 10 ^ k ∣ n) := by
  obtain ⟨c, k, isWhole, reads, exact, zeros⟩ := shortest_whole count positive small
  have below := lt_of_nearestCount (isCount_pow_ten (by decide)) count small reads
  have nonzero := Nat.pos_of_mul_pos_right (pos_of_reads positive reads)
  refine ⟨c * 10 ^ k, isWhole ▸ render_whole nonzero below, below, reads, ?_, ?_⟩
  · rintro same m i other ⟨q, rfl⟩
    rw [← same]
    exact zeros q i (by rwa [Nat.mul_comm q])
  · intro coarsest
    exact exact (coarsest _ k reads (Nat.dvd_mul_left ..))

end Decimal

namespace Binary64

/-! ## Reading whole numbers -/

theorem toInt?_read_zero : (read (wholeChars 0)).toInt? = some 0 := by
  rw [read_wholeChars]
  decide +kernel

theorem nearestCount_of_toInt?_read {n w : Int} (nonzero : n ≠ 0)
    (reads : (read (wholeChars w)).toInt? = some n) :
    (w < 0 ↔ n < 0) ∧ nearestCount (w.natAbs * unitsPerOne) 1 = n.natAbs * unitsPerOne := by
  rw [read_wholeChars] at reads
  by_cases isZero : w.natAbs = 0
  · rw [isZero, Numeral.toBinary64_zero, zero, toInt?_finite_iff nonzero] at reads
    exact absurd reads.2 (Nat.mul_pos (Int.natAbs_pos.mpr nonzero) unitsPerOne_pos).ne'
  · -- Longer runs of digits are not rounded: they are read as infinite.
    by_cases short : (digitChars w.natAbs).length ≤ 400
    · rw [Numeral.toBinary64_short _ isZero short, ofRatio] at reads
      rcases ofUnits_finite_or (decide (w < 0)) (w.natAbs * unitsPerOne) 1 with
        ⟨count, finite⟩ | infinite
      · rw [finite, toInt?_finite_iff nonzero] at reads
        exact ⟨decide_eq_decide.mp reads.1, reads.2.symm⟩
      · rw [infinite, toInt?_infinite] at reads
        cases reads
    · rw [Numeral.toBinary64_long _ (Nat.lt_of_not_le short), toInt?_infinite] at reads
      cases reads

theorem toInt?_read_of_nearestCount {n w : Int} (nonzero : n ≠ 0)
    (count : IsCount (n.natAbs * unitsPerOne)) (short : (digitChars w.natAbs).length ≤ 400)
    (sign : w < 0 ↔ n < 0)
    (reads : nearestCount (w.natAbs * unitsPerOne) 1 = n.natAbs * unitsPerOne) :
    (read (wholeChars w)).toInt? = some n := by
  have isNonzero := Decimal.pos_of_reads (Int.natAbs_pos.mpr nonzero) reads
  rw [read_wholeChars, Numeral.toBinary64_short _ isNonzero.ne' short, ofRatio,
    ofUnits_of_nearestCount _ count reads, toInt?_finite_iff nonzero]
  exact ⟨decide_eq_decide.mpr sign, rfl⟩

theorem short_of_isCount {n : Nat} (count : IsCount (n * unitsPerOne)) :
    (digitChars n).length ≤ 400 := by
  rw [length_digitChars_le_iff (by decide)]
  apply Nat.lt_of_mul_lt_mul_right (a := unitsPerOne)
  exact Nat.lt_of_lt_of_le count.1 (by decide +kernel)

theorem toInt?_read_digitChars {n : Nat} (small : n < 2 ^ 53) :
    (read (digitChars n)).toInt? = some (n : Int) := by
  by_cases nonzero : n = 0
  · subst nonzero
    exact toInt?_read_zero
  · have isNonzero : (n : Int) ≠ 0 := by exact_mod_cast nonzero
    have count := isCount_of_lt small
    have unsigned : wholeChars n = digitChars n := by
      rw [wholeChars, if_neg (Int.not_lt.mpr (Int.natCast_nonneg n)), List.nil_append,
        Int.natAbs_natCast]
    rw [← unsigned]
    exact toInt?_read_of_nearestCount isNonzero count (short_of_isCount count) Iff.rfl
      (nearestCount_self count)

/-! ## What is shown -/

theorem display_of_zero {x : Binary64} (whole : x.toInt? = some 0) : x.display = wholeChars 0 := by
  cases x with
  | nan => cases whole
  | infinite negative => cases whole
  | finite negative units count =>
    have isZero : units = 0 := by
      rw [toInt?_eq_some_iff, units?, Option.some.injEq, Int.zero_mul] at whole
      split at whole <;> omega
    subst isZero
    simp only [display, whole]
    rw [if_neg (by decide)]
    rfl

theorem display_of_large {x : Binary64} {n : Int} (whole : x.toInt? = some n)
    (large : 10 ^ 21 ≤ n.natAbs) : x.display = wholeChars n := by
  have full : fullDigitsFrom ≤ n.natAbs := large
  simp only [display, whole, if_pos full]

theorem natAbs_sign_mul {n : Int} (nonzero : n ≠ 0) (m : Nat) : (n.sign * m).natAbs = m := by
  rw [Int.natAbs_mul, Int.natAbs_sign_of_ne_zero nonzero, Int.natAbs_natCast, Nat.one_mul]

theorem sign_mul_neg_iff {n : Int} {m : Nat} (positive : 0 < m) : n.sign * m < 0 ↔ n < 0 := by
  rw [← Int.sign_eq_neg_one_iff_neg, Int.sign_mul, Int.sign_sign,
    Int.sign_natCast_of_ne_zero positive.ne', mul_one, Int.sign_eq_neg_one_iff_neg]

theorem wholeChars_sign_mul {n : Int} {m : Nat} (nonzero : n ≠ 0) (positive : 0 < m) :
    wholeChars (n.sign * m) = (if n < 0 then ['-'] else []) ++ digitChars m := by
  simp only [wholeChars, sign_mul_neg_iff positive, natAbs_sign_mul nonzero]

theorem toInt?_read_sign_mul {n : Int} {m : Nat} (nonzero : n ≠ 0)
    (count : IsCount (n.natAbs * unitsPerOne)) (short : m < 10 ^ 21)
    (reads : nearestCount (m * unitsPerOne) 1 = n.natAbs * unitsPerOne) :
    (read (wholeChars (n.sign * m))).toInt? = some n := by
  have positive := Decimal.pos_of_reads (Int.natAbs_pos.mpr nonzero) reads
  have magnitude := natAbs_sign_mul nonzero m
  apply toInt?_read_of_nearestCount nonzero count
  · rw [magnitude]
    exact ((length_digitChars_le_iff (by decide)).mpr short).trans (by decide)
  · exact sign_mul_neg_iff positive
  · rw [magnitude, reads]

theorem natAbs_pow_ten_dvd_iff (k : Nat) (n : Int) : 10 ^ k ∣ n.natAbs ↔ (10 : Int) ^ k ∣ n := by
  rw [← Int.natAbs_dvd_natAbs, Int.natAbs_pow]
  rfl

/-- Below `10 ^ 21` the number shown is read as the number it is shown for, and is that number
if no number that is read as it has more zeros at its end. -/
theorem display_of_small {x : Binary64} {n : Int} (whole : x.toInt? = some n) (nonzero : n ≠ 0)
    (small : n.natAbs < 10 ^ 21) :
    ∃ w : Int, x.display = wholeChars w ∧ (read (wholeChars w)).toInt? = some n ∧
      (w = n ↔ ∀ (m : Int) (k : Nat), (read (wholeChars m)).toInt? = some n →
        10 ^ k ∣ m → 10 ^ k ∣ n) := by
  have positive := Int.natAbs_pos.mpr nonzero
  obtain ⟨count, isFinite⟩ := exists_finite_of_toInt? whole
  obtain ⟨w, rendered, below, reads, coarsest⟩ := Decimal.render_shortest_whole count positive small
  have isNonzero := Decimal.pos_of_reads positive reads
  refine ⟨n.sign * w, ?_, toInt?_read_sign_mul nonzero count below reads, ?_, ?_⟩
  · have notFull : ¬ fullDigitsFrom ≤ n.natAbs := Nat.not_le.mpr small
    have unitsPos := Nat.mul_pos positive unitsPerOne_pos
    simp only [display, whole, if_neg notFull]
    rw [isFinite nonzero, wholeChars_sign_mul nonzero isNonzero, ← rendered, chars,
      if_neg unitsPos.ne']
    simp only [decide_eq_true_eq]
  · intro same m k other divides
    have value : w = n.natAbs := by rw [← natAbs_sign_mul nonzero w, same]
    rw [← natAbs_pow_ten_dvd_iff] at divides ⊢
    exact coarsest.mp value m.natAbs k (nearestCount_of_toInt?_read nonzero other).2 divides
  · intro all
    have value : w = n.natAbs := by
      rw [coarsest]
      intro m k other divides
      have short := lt_of_nearestCount (isCount_pow_ten (by decide)) count small other
      rw [natAbs_pow_ten_dvd_iff]
      apply all (n.sign * m) k (toInt?_read_sign_mul nonzero count short other)
      rwa [← natAbs_pow_ten_dvd_iff, natAbs_sign_mul nonzero]
    rw [value, Int.sign_mul_natAbs]

end Binary64

/-! ## All digits -/

/-- No whole number that is read as `n` ends in more zeros than `n`. -/
def EndsInMostZeros (n : Int) : Prop :=
  ∀ (m : Int) (k : Nat), (Binary64.read (wholeChars m)).toInt? = some n → 10 ^ k ∣ m → 10 ^ k ∣ n

theorem nearestCount_past_two_pow :
    nearestCount ((2 ^ 54 + 6) * unitsPerOne) 1 = (2 ^ 54 + 8) * unitsPerOne := by
  decide +kernel

theorem isCount_past_two_pow : IsCount ((2 ^ 54 + 8) * unitsPerOne) := by
  rw [← nearestCount_past_two_pow]
  refine ⟨?_, nearestCount_significant _ _⟩
  rw [nearestCount_past_two_pow]
  exact mul_unitsPerOne_lt (by decide)

/-- Up to `2 ^ 54` the numbers are one or two apart, and just above it four. -/
theorem eq_of_nearestCount {n m : Nat} (count : IsCount (n * unitsPerOne))
    (small : n < 2 ^ 54 + 8) (reads : nearestCount (m * unitsPerOne) 1 = n * unitsPerOne)
    (ends : 10 ∣ m) : m = n := by
  have below := lt_of_nearestCount isCount_past_two_pow count small reads
  by_cases tie : m = 2 ^ 54 + 6
  · -- Halfway between two numbers, it is rounded up, which is out of bounds.
    rw [tie, nearestCount_past_two_pow] at reads
    have := Nat.eq_of_mul_eq_mul_right unitsPerOne_pos reads
    omega
  · obtain ⟨half, rfl⟩ : ∃ half, m = half * 2 := ⟨m / 2, by omega⟩
    rw [nearestCount_self (isCount_double (by omega))] at reads
    exact Nat.eq_of_mul_eq_mul_right unitsPerOne_pos reads

theorem endsInMostZeros_of_lt {n : Int} (count : IsCount (n.natAbs * unitsPerOne))
    (small : n.natAbs < 2 ^ 54 + 8) : EndsInMostZeros n := by
  intro m k reads divides
  by_cases nonzero : n = 0
  · rw [nonzero]
    exact dvd_zero _
  · obtain ⟨-, nearest⟩ := Binary64.nearestCount_of_toInt?_read nonzero reads
    rw [← Binary64.natAbs_pow_ten_dvd_iff] at divides ⊢
    cases k with
    | zero => exact Nat.one_dvd _
    | succ k =>
      have ends : 10 ∣ m.natAbs := (Nat.dvd_mul_left 10 (10 ^ k)).trans divides
      rwa [← eq_of_nearestCount count small nearest ends]

namespace Value

theorem text_number_eq_iff {x : Binary64} {n : Int} :
    (number x).text = (whole n).text ↔ x.display = wholeChars n :=
  String.ofList_inj

theorem text_shown {x : Binary64} {n : Int} (isWhole : x.toInt? = some n) :
    ∃ w : Int, x.display = wholeChars w ∧ (Binary64.read (wholeChars w)).toInt? = some n ∧
      (w = n ↔ 10 ^ 21 ≤ n.natAbs ∨ EndsInMostZeros n) := by
  obtain ⟨count, -⟩ := Binary64.exists_finite_of_toInt? isWhole
  by_cases large : 10 ^ 21 ≤ n.natAbs
  · have nonzero : n ≠ 0 := by
      rintro rfl
      simp at large
    exact ⟨n, Binary64.display_of_large isWhole large,
      Binary64.toInt?_read_of_nearestCount nonzero count (Binary64.short_of_isCount count) Iff.rfl
        (nearestCount_self count), iff_of_true rfl (.inl large)⟩
  · by_cases nonzero : n = 0
    · subst nonzero
      exact ⟨0, Binary64.display_of_zero isWhole, Binary64.toInt?_read_zero,
        iff_of_true rfl (.inr fun m k _ _ => dvd_zero _)⟩
    · obtain ⟨w, shown, reads, coarsest⟩ :=
        Binary64.display_of_small isWhole nonzero (Nat.lt_of_not_le large)
      exact ⟨w, shown, reads, coarsest.trans (or_iff_right large).symm⟩

/-- A whole number is shown as a whole number that is read as it.  It is the number itself from
`10 ^ 21` on, and wherever no other whole number that is read as it ends in more zeros, so in
particular below `2 ^ 54 + 8`. -/
theorem text_of_whole {x : Binary64} {n : Int} (isWhole : x.toInt? = some n) :
    (∃ w : Int, (number x).text = (whole w).text ∧
      (Binary64.read (number x).text.toList).toInt? = some n) ∧
    ((number x).text = (whole n).text ↔ 10 ^ 21 ≤ n.natAbs ∨ EndsInMostZeros n) ∧
    (n.natAbs < 2 ^ 54 + 8 → (number x).text = (whole n).text) := by
  obtain ⟨w, shown, reads, exactly⟩ := text_shown isWhole
  obtain ⟨count, -⟩ := Binary64.exists_finite_of_toInt? isWhole
  have text : (number x).text = (whole w).text := text_number_eq_iff.mpr shown
  have same : (number x).text = (whole n).text ↔ w = n := by
    rw [text_number_eq_iff, shown]
    exact ⟨wholeChars_inj, fun same => same ▸ rfl⟩
  refine ⟨⟨w, text, ?_⟩, same.trans exactly, fun small => ?_⟩
  · rwa [text, Value.text, String.toList_ofList]
  · rw [same, exactly]
    exact .inr (endsInMostZeros_of_lt count small)

/-- The last number before digits are left out. -/
theorem text_of_whole_last :
    (Binary64.ofNat 18014398509481988).toInt? = some 18014398509481988 ∧
      (number (Binary64.ofNat 18014398509481988)).text = (whole 18014398509481988).text := by
  have isWhole : (Binary64.ofNat 18014398509481988).toInt? = some 18014398509481988 := by
    decide +kernel
  exact ⟨isWhole, (text_of_whole isWhole).2.2 (by decide)⟩

/-- The first whole number whose last digit is shown as a zero. -/
theorem text_leaves_out_digit :
    (Binary64.ofNat 18014398509481992).toInt? = some 18014398509481992 ∧
      (number (Binary64.ofNat 18014398509481992)).text = "18014398509481990" ∧
      (number (Binary64.ofNat 18014398509481992)).text ≠ (whole 18014398509481992).text := by
  decide +kernel

end Value

end Reckoner
