import Reckoner.Proofs.Decimal.Digits
import Reckoner.Proofs.Decimal.Notation
import Mathlib.Algebra.Order.Field.Rat

/-! # Plain decimal numerals

Decimal notation without an exponent, without zeros that could be left out and without a sign
before zero:

* `head?_digitChars`, `getLast?_digitChars` — where the digits of a number have no zero.
* `PlainNumeral` — the notation, by its parts.
* `PlainNumeral.read?_chars` — a plain numeral is read back as its parts say.
* `PlainNumeral.mark_not_mem`, `point_mem_iff`, `chars_ne_minus_zero` — what it never contains.
* `PlainNumeral.ofInt`, `chars_ofInt` — whole numbers.
* `PlainNumeral.ofScaled`, `chars_ofScaled` — decimals with a fraction, as they are rendered.
-/

namespace Reckoner

/-! ## Zeros among digits -/

theorem digitChars_of_le {n : Nat} (large : 10 ≤ n) :
    digitChars n = digitChars (n / 10) ++ [(n % 10).digitChar] :=
  Nat.toDigits_of_base_le (by decide) large

theorem digitChars_of_lt {n : Nat} (small : n < 10) : digitChars n = [n.digitChar] :=
  Nat.toDigits_of_lt_base small

theorem head?_digitChars {n : Nat} (positive : 0 < n) : (digitChars n).head? ≠ some '0' := by
  induction n using Nat.strong_induction_on with
  | _ n ih =>
    by_cases small : n < 10
    · rw [digitChars_of_lt small]
      simp [positive.ne']
    · have large : 10 ≤ n := Nat.le_of_not_lt small
      rw [digitChars_of_le large, List.head?_append_of_ne_nil _ (digitChars_ne_nil _)]
      exact ih (n / 10) (by omega) (by omega)

theorem getLast?_digitChars {n : Nat} (ends : n % 10 ≠ 0) :
    (digitChars n).getLast? ≠ some '0' := by
  by_cases small : n < 10
  · rw [digitChars_of_lt small]
    simp only [List.getLast?_singleton, ne_eq, Option.some.injEq, Nat.digitChar_eq_zero]
    omega
  · rw [digitChars_of_le (Nat.le_of_not_lt small)]
    simpa using ends

theorem digitsValue_replicate_append (zeros : Nat) (digits : List Char) :
    digitsValue (List.replicate zeros '0' ++ digits) = digitsValue digits := by
  have skipped : Nat.ofDigitChars 10 (List.replicate zeros '0') 0 = 0 := by
    rw [Nat.ofDigitChars_replicate_zero, Nat.mul_zero]
  show Nat.ofDigitChars 10 (List.replicate zeros '0' ++ digits) 0 = _
  rw [Nat.ofDigitChars_append, skipped]
  rfl

/-! ## The notation -/

/-- The sign of a number as a factor. -/
def signFactor (negative : Bool) : ℚ :=
  if negative then -1 else 1

theorem abs_signFactor_mul (negative : Bool) (v : ℚ) : |signFactor negative * v| = |v| := by
  cases negative <;> simp [signFactor]

/-- The number that a numeral stands for. -/
def Numeral.value (n : Numeral) : ℚ :=
  signFactor n.negative * (n.coefficient * 10 ^ n.exponent)

/-- Decimal notation with nothing superfluous: digits, and a point with digits behind it unless
    the number is whole. -/
structure PlainNumeral where
  negative : Bool
  whole : List Char
  fraction : List Char
  whole_digits : ∀ c ∈ whole, isDigit c = true
  fraction_digits : ∀ c ∈ fraction, isDigit c = true
  whole_ne_nil : whole ≠ []
  whole_leads : whole.head? = some '0' → whole = ['0']
  fraction_ends : fraction.getLast? ≠ some '0'
  signed : negative = true → digitsValue (whole ++ fraction) ≠ 0

namespace PlainNumeral

/-- The point and what stands behind it. -/
def tail (n : PlainNumeral) : List Char :=
  if n.fraction = [] then [] else '.' :: n.fraction

def chars (n : PlainNumeral) : List Char :=
  (if n.negative then ['-'] else []) ++ (n.whole ++ n.tail)

def numeral (n : PlainNumeral) : Numeral where
  negative := n.negative
  coefficient := digitsValue (n.whole ++ n.fraction)
  exponent := -n.fraction.length

def value (n : PlainNumeral) : ℚ :=
  n.numeral.value

/-! ## Reading it back -/

theorem mantissa (n : PlainNumeral) :
    Numeral.Mantissa (n.whole ++ n.tail) (n.whole ++ n.fraction) n.fraction.length := by
  have nonempty : n.whole ++ n.fraction ≠ [] := by simp [n.whole_ne_nil]
  have digits := List.forall_mem_append.mpr ⟨n.whole_digits, n.fraction_digits⟩
  unfold tail
  split
  next isWhole =>
    rw [isWhole, List.append_nil] at nonempty digits ⊢
    exact .whole nonempty digits
  next => exact .pointed nonempty digits

theorem read?_chars (n : PlainNumeral) : Numeral.read? n.chars = some n.numeral := by
  refine Numeral.read?_eq_some_iff.mpr
    ⟨_, n.negative, _, _, _, [], 0, .shortest n.negative, n.mantissa, .absent, ?_, ?_⟩
  · rw [List.append_nil]
    rfl
  · simp [numeral]

/-! ## What it never contains -/

theorem mem_chars {n : PlainNumeral} {c : Char} (member : c ∈ n.chars) :
    c = '-' ∨ isDigit c = true ∨ c = '.' ∧ n.fraction ≠ [] := by
  simp only [chars, List.mem_append] at member
  rcases member with sign | whole | tail
  · left
    simp_all
  · exact .inr (.inl (n.whole_digits c whole))
  · right
    unfold PlainNumeral.tail at tail
    split at tail
    · cases tail
    · next fractional =>
      rcases List.mem_cons.mp tail with point | digit
      · exact .inr ⟨point, fractional⟩
      · exact .inl (n.fraction_digits c digit)

/-- The mark of an exponent stands nowhere in a plain numeral. -/
theorem mark_not_mem (n : PlainNumeral) {mark : Char} (isMark : mark = 'e' ∨ mark = 'E') :
    mark ∉ n.chars := by
  intro member
  rcases isMark with rfl | rfl <;> simpa [isDigit] using mem_chars member

theorem point_mem_iff (n : PlainNumeral) : '.' ∈ n.chars ↔ n.fraction ≠ [] := by
  constructor
  · intro member
    simpa [isDigit] using mem_chars member
  · intro fractional
    simp [chars, tail, fractional]

theorem chars_ne_minus_zero (n : PlainNumeral) : n.chars ≠ ['-', '0'] := by
  intro same
  have read := n.read?_chars
  have zero : Numeral.read? ['-', '0'] = some ⟨true, 0, 0⟩ := rfl
  rw [same, zero, Option.some.injEq] at read
  have sign : n.negative = true := congrArg Numeral.negative read.symm
  exact n.signed sign (congrArg Numeral.coefficient read.symm)

/-! ## Whole numbers -/

/-- The digits of a whole number, with a sign unless it is zero. -/
def ofNat (negative : Bool) (n : Nat) (signed : negative = true → n ≠ 0) : PlainNumeral where
  negative := negative
  whole := digitChars n
  fraction := []
  whole_digits _ := isDigit_of_mem_digitChars
  fraction_digits _ member := absurd member List.not_mem_nil
  whole_ne_nil := digitChars_ne_nil n
  whole_leads leads := by
    cases Nat.eq_zero_or_pos n with
    | inl zero => simp [zero, digitChars]
    | inr positive => exact absurd leads (head?_digitChars positive)
  fraction_ends := by simp
  signed sign := by
    rw [List.append_nil, digitsValue_digitChars]
    exact signed sign

theorem chars_ofNat {negative : Bool} {n : Nat} (signed : negative = true → n ≠ 0) :
    (ofNat negative n signed).chars = (if negative then ['-'] else []) ++ digitChars n := by
  show (if negative then ['-'] else []) ++ (digitChars n ++ []) = _
  rw [List.append_nil]

theorem value_ofNat {negative : Bool} {n : Nat} (signed : negative = true → n ≠ 0) :
    (ofNat negative n signed).value = signFactor negative * n := by
  simp [value, numeral, Numeral.value, ofNat, digitsValue_digitChars]

def ofInt (n : Int) : PlainNumeral :=
  ofNat (n < 0) n.natAbs fun negative => by
    have := of_decide_eq_true negative
    omega

theorem chars_ofInt (n : Int) : (ofInt n).chars = wholeChars n := by
  rw [ofInt, chars_ofNat, wholeChars]
  simp only [decide_eq_true_eq]

theorem value_ofInt (n : Int) : (ofInt n).value = n := by
  rw [ofInt, value_ofNat]
  rcases Int.lt_or_le n 0 with negative | nonnegative
  · have magnitude : (n.natAbs : ℚ) = -n := by
      rw [← Int.cast_natCast, Int.ofNat_natAbs_of_nonpos negative.le, Int.cast_neg]
    simp [signFactor, negative, magnitude]
  · have magnitude : (n.natAbs : ℚ) = n := by
      rw [← Int.cast_natCast, Int.natAbs_of_nonneg nonnegative]
    simp [signFactor, nonnegative.not_gt, magnitude]

/-! ## Numbers with a fraction -/

/-- The digits of a number, with zeros before them if there are not more than `places`. -/
def padded (n places : Nat) : List Char :=
  List.replicate (places + 1 - (digitChars n).length) '0' ++ digitChars n

theorem isDigit_of_mem_padded {n places : Nat} {c : Char} (member : c ∈ padded n places) :
    isDigit c = true := by
  rcases List.mem_append.mp member with zero | digit
  · rw [List.eq_of_mem_replicate zero]
    rfl
  · exact isDigit_of_mem_digitChars digit

theorem digitsValue_padded (n places : Nat) : digitsValue (padded n places) = n := by
  rw [padded, digitsValue_replicate_append, digitsValue_digitChars]

theorem lt_length_padded (n places : Nat) : places < (padded n places).length := by
  simp only [padded, List.length_append, List.length_replicate]
  omega

theorem padded_of_lt {n places : Nat} (long : places < (digitChars n).length) :
    padded n places = digitChars n := by
  rw [padded, Nat.sub_eq_zero_of_le long, List.replicate_zero, List.nil_append]

theorem padded_of_le {n places : Nat} (short : (digitChars n).length ≤ places) :
    padded n places =
        '0' :: (List.replicate (places - (digitChars n).length) '0' ++ digitChars n) ∧
      (padded n places).length - places = 1 := by
  have zeros : places + 1 - (digitChars n).length = places - (digitChars n).length + 1 := by omega
  have digits : padded n places =
      '0' :: (List.replicate (places - (digitChars n).length) '0' ++ digitChars n) := by
    rw [padded, zeros, List.replicate_succ, List.cons_append]
  refine ⟨digits, ?_⟩
  rw [digits, List.length_cons, List.length_append, List.length_replicate]
  omega

/-- The number `n / 10 ^ places`, where `n` does not end in a zero. -/
def ofScaled (negative : Bool) (n places : Nat) (ends : n % 10 ≠ 0) : PlainNumeral where
  negative := negative
  whole := (padded n places).take ((padded n places).length - places)
  fraction := (padded n places).drop ((padded n places).length - places)
  whole_digits _ member := isDigit_of_mem_padded (List.mem_of_mem_take member)
  fraction_digits _ member := isDigit_of_mem_padded (List.mem_of_mem_drop member)
  whole_ne_nil := by
    have long := lt_length_padded n places
    rw [← List.length_pos_iff, List.length_take]
    omega
  whole_leads leads := by
    by_cases long : places < (digitChars n).length
    · rw [padded_of_lt long, List.head?_take, if_neg (by omega)] at leads
      exact absurd leads (head?_digitChars (by omega))
    · -- Only one zero of the padding stands before the point.
      obtain ⟨digits, size⟩ := padded_of_le (Nat.le_of_not_lt long)
      rw [size, digits]
      rfl
  fraction_ends := by
    rw [List.getLast?_drop, padded, List.getLast?_append_of_ne_nil _ (digitChars_ne_nil n)]
    split
    · simp
    · exact getLast?_digitChars ends
  signed _ := by
    rw [List.take_append_drop, digitsValue_padded]
    omega

theorem length_fraction_ofScaled {negative : Bool} {n places : Nat} (ends : n % 10 ≠ 0) :
    (ofScaled negative n places ends).fraction.length = places := by
  have long := lt_length_padded n places
  simp only [ofScaled, List.length_drop]
  omega

theorem value_ofScaled {negative : Bool} {n places : Nat} (ends : n % 10 ≠ 0) :
    (ofScaled negative n places ends).value =
      signFactor negative * (n / 10 ^ places) := by
  have digits : digitsValue ((ofScaled negative n places ends).whole ++
      (ofScaled negative n places ends).fraction) = n := by
    simp only [ofScaled, List.take_append_drop, digitsValue_padded]
  simp only [value, numeral, Numeral.value, digits, length_fraction_ofScaled, zpow_neg,
    zpow_natCast, div_eq_mul_inv]
  rfl

/-! ## Rendered decimals -/

/-- Digits are written out with a point before the last `places` of them. -/
theorem render_of_places {n places : Nat} (fractional : 0 < places) (small : places ≤ 6)
    (fits : (digitChars n).length ≤ 21 + places) :
    (Decimal.mk n (-places)).render =
      (padded n places).take ((padded n places).length - places) ++
        '.' :: (padded n places).drop ((padded n places).length - places) := by
  have nonempty := List.length_pos_iff.mpr (digitChars_ne_nil n)
  simp only [Decimal.render]
  rw [if_neg (by omega)]
  by_cases long : places < (digitChars n).length
  · have point : ((digitChars n).length + -(places : Int)).toNat =
        (digitChars n).length - places := by omega
    rw [padded_of_lt long, if_pos (by omega), point]
  · obtain ⟨digits, size⟩ := padded_of_le (Nat.le_of_not_lt long)
    have zeros : (-((digitChars n).length + -(places : Int))).toNat =
        places - (digitChars n).length := by omega
    rw [if_neg (by omega), if_pos (by omega), size, digits, zeros]
    rfl

theorem chars_ofScaled {negative : Bool} {n places : Nat} (ends : n % 10 ≠ 0)
    (fractional : 0 < places) (small : places ≤ 6) (fits : (digitChars n).length ≤ 21 + places) :
    (ofScaled negative n places ends).chars =
      (if negative then ['-'] else []) ++ (Decimal.mk n (-places)).render := by
  have nonempty : (ofScaled negative n places ends).fraction ≠ [] := by
    rw [← List.length_pos_iff, length_fraction_ofScaled]
    exact fractional
  rw [render_of_places fractional small fits, chars, tail, if_neg nonempty]
  rfl

end PlainNumeral

end Reckoner
