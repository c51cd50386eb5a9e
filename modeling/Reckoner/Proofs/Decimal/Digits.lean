import Reckoner.Value
import Reckoner.Proofs.Text.Words
import Mathlib.Tactic.Ring

/-! # Whole numbers in decimal digits

A whole number as it is written, and as it is read back:

* `digitChars_mul_pow` — a factor of ten is a zero at the end.
* `digitsValue_digitChars` — the digits of a number have its value.
* `Numeral.toBinary64_short`, `toBinary64_long` — a whole number with too many digits is infinite.
-/

namespace Reckoner

/-! ## Digits -/

theorem digitChars_ne_nil (n : Nat) : digitChars n ≠ [] :=
  Nat.toDigits_ne_nil

theorem isDigit_of_mem_digitChars {n : Nat} {c : Char} (member : c ∈ digitChars n) :
    isDigit c = true := by
  have digit := Nat.isDigit_of_mem_toDigits (by decide) (by decide) member
  simpa [Char.isDigit, isDigit, UInt32.le_iff_toNat_le] using digit

theorem length_digitChars_le_iff {n k : Nat} (positive : 0 < k) :
    (digitChars n).length ≤ k ↔ n < 10 ^ k :=
  Nat.length_toDigits_le_iff (by decide) positive

theorem digitsValue_digitChars (n : Nat) : digitsValue (digitChars n) = n :=
  Nat.ofDigitChars_toDigits (by decide) (by decide)

theorem digitChars_mul_ten {n : Nat} (positive : 0 < n) :
    digitChars (n * 10) = digitChars n ++ ['0'] := by
  have split := Nat.toDigits_append_toDigits (b := 10) (by decide) positive (d := 0) (by decide)
  rw [digitChars, Nat.mul_comm]
  exact split.symm

theorem digitChars_mul_pow {n : Nat} (positive : 0 < n) (e : Nat) :
    digitChars (n * 10 ^ e) = digitChars n ++ List.replicate e '0' := by
  induction e with
  | zero => simp
  | succ e ih =>
    have larger : 0 < n * 10 ^ e := Nat.mul_pos positive (Nat.pow_pos (by decide))
    rw [Nat.pow_succ, ← Nat.mul_assoc, digitChars_mul_ten larger, ih, List.append_assoc,
      ← List.replicate_succ']

theorem digitChars_inj {m n : Nat} (same : digitChars m = digitChars n) : m = n := by
  rw [← digitsValue_digitChars m, same, digitsValue_digitChars]

theorem wholeChars_inj {m n : Int} (same : wholeChars m = wholeChars n) : m = n := by
  have unsigned (k : Nat) (rest : List Char) : digitChars k ≠ '-' :: rest := by
    intro signed
    have digit := isDigit_of_mem_digitChars (n := k) (c := '-') (by simp [signed])
    cases digit
  unfold wholeChars at same
  by_cases negative : m < 0 <;> by_cases other : n < 0 <;> simp only [negative, other] at same
  · have := digitChars_inj (List.cons.inj same).2
    omega
  · exact absurd same.symm (unsigned _ _)
  · exact absurd same (unsigned _ _)
  · have := digitChars_inj same
    omega

theorem isBlank_of_isDigit {c : Char} (digit : isDigit c = true) : Text.isBlank c = false := by
  simp only [isDigit, Bool.and_eq_true, decide_eq_true_eq] at digit
  simp only [Text.isBlank, Bool.or_eq_false_iff, Bool.and_eq_false_iff, decide_eq_false_iff_not,
    beq_eq_false_iff_ne]
  omega

/-! ## The number nearest to a whole number -/

theorem Numeral.toBinary64_zero (negative : Bool) :
    toBinary64 ⟨negative, 0, 0⟩ = .zero negative := by
  simp [toBinary64]

theorem Numeral.toBinary64_short (negative : Bool) {n : Nat} (nonzero : n ≠ 0)
    (short : (digitChars n).length ≤ 400) :
    toBinary64 ⟨negative, n, 0⟩ = .ofRatio negative n 1 := by
  unfold digitChars at short
  have notTiny : ¬ ((Nat.toDigits 10 n).length : Int) < -400 := by omega
  simp [toBinary64, nonzero, Nat.not_lt.mpr short, notTiny]

theorem Numeral.toBinary64_long (negative : Bool) {n : Nat}
    (long : 400 < (digitChars n).length) : toBinary64 ⟨negative, n, 0⟩ = .infinite negative := by
  unfold digitChars at long
  have nonzero : n ≠ 0 := by
    rintro rfl
    simp at long
  simp [toBinary64, nonzero, long]

end Reckoner
