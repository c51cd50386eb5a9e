import Reckoner.Calendar
import Reckoner.Proofs.Decimal.Plain

/-! # Fields of digits

Numbers that are written with a fixed number of digits each, and a character that ends each of them.

* `writeFields`, `readFields?` — the writer and the reader.
* `readFields?_writeFields` — what is written is read back.
* `writeFields_lt` — what is written is in the order of the numbers.
-/

namespace Reckoner

/-! ## Digits of a fixed number -/

theorem digitsValue_cons (c : Char) (digits : List Char) :
    digitsValue (c :: digits) = 10 ^ digits.length * (c.toNat - 48) + digitsValue digits := by
  show Nat.ofDigitChars 10 digits (10 * 0 + (c.toNat - 48)) = _
  rw [Nat.ofDigitChars_eq_ofDigitChars_zero, Nat.mul_zero, Nat.zero_add]
  rfl

theorem isDigit_iff {c : Char} : isDigit c = true ↔ 48 ≤ c.toNat ∧ c.toNat ≤ 57 := by
  rw [isDigit, Bool.and_eq_true, decide_eq_true_eq, decide_eq_true_eq]

theorem digitsValue_lt {digits : List Char} (run : ∀ c ∈ digits, isDigit c = true) :
    digitsValue digits < 10 ^ digits.length := by
  induction digits with
  | nil => exact Nat.one_pos
  | cons c digits ih =>
    obtain ⟨digit, run⟩ := List.forall_mem_cons.mp run
    obtain ⟨_, atMost⟩ := isDigit_iff.mp digit
    have rest := ih run
    have first : 10 ^ digits.length * (c.toNat - 48) ≤ 10 ^ digits.length * 9 :=
      Nat.mul_le_mul_left _ (by omega)
    rw [digitsValue_cons, List.length_cons, Nat.pow_succ]
    omega

/-- Runs of as many digits are in the order of their values, whatever follows them. -/
theorem append_lt_append_of_digitsValue_lt {xs ys : List Char}
    (left : ∀ c ∈ xs, isDigit c = true) (right : ∀ c ∈ ys, isDigit c = true)
    (length : xs.length = ys.length) (less : digitsValue xs < digitsValue ys) (s t : List Char) :
    xs ++ s < ys ++ t := by
  induction xs generalizing ys with
  | nil =>
    obtain rfl := List.length_eq_zero_iff.mp length.symm
    exact absurd less (Nat.lt_irrefl _)
  | cons c xs ih =>
    cases ys with
    | nil => cases length
    | cons d ys =>
      obtain ⟨digit, left⟩ := List.forall_mem_cons.mp left
      obtain ⟨digit', right⟩ := List.forall_mem_cons.mp right
      have length := Nat.succ.inj length
      rw [List.cons_append, List.cons_append, List.cons_lt_cons_iff]
      rw [digitsValue_cons, digitsValue_cons, length] at less
      rcases Nat.lt_trichotomy c.toNat d.toNat with below | same | above
      · exact .inl below
      · refine .inr ⟨Char.toNat_inj.mp same, ih left right length ?_⟩
        rw [same] at less
        exact Nat.lt_of_add_lt_add_left less
      · -- The first digit outweighs all that come after it.
        have rest := digitsValue_lt right
        have first := Nat.mul_le_mul_left (10 ^ ys.length)
          (by have := isDigit_iff.mp digit'; omega : d.toNat - 48 + 1 ≤ c.toNat - 48)
        rw [Nat.mul_add, Nat.mul_one] at first
        omega

namespace DateTime

variable {width n : Nat}

theorem length_padded (positive : 0 < width) (short : n < 10 ^ width) :
    (padded width n).length = width := by
  have digits := (length_digitChars_le_iff positive).mpr short
  simp only [padded, List.length_append, List.length_replicate]
  omega

theorem isDigit_of_mem_padded {c : Char} (member : c ∈ padded width n) : isDigit c = true := by
  rcases List.mem_append.mp member with zero | digit
  · rw [List.eq_of_mem_replicate zero]
    rfl
  · exact isDigit_of_mem_digitChars digit

theorem digitsValue_padded : digitsValue (padded width n) = n := by
  rw [padded, digitsValue_replicate_append, digitsValue_digitChars]

/-! ## Fields -/

/-- The numbers, each with as many digits as its field has and the character that ends it. -/
def writeFields : List (Nat × Char) → List Nat → List Char
  | (width, stop) :: layout, n :: fields => padded width n ++ stop :: writeFields layout fields
  | _, _ => []

/-- The numbers of some fields, if there are digits and a character for each, and nothing else. -/
def readFields? : List (Nat × Char) → List Char → Option (List Nat)
  | [], [] => some []
  | [], _ :: _ => none
  | (width, stop) :: layout, s =>
      let digits := s.take width
      if digits.length = width ∧ digits.all isDigit ∧ (s.drop width).head? = some stop then
        (readFields? layout (s.drop (width + 1))).map (digitsValue digits :: ·)
      else none

/-- The numbers fit their fields. -/
def Fit (layout : List (Nat × Char)) (fields : List Nat) : Prop :=
  List.Forall₂ (fun field n => 0 < field.1 ∧ n < 10 ^ field.1) layout fields

theorem readFields?_writeFields {layout : List (Nat × Char)} {fields : List Nat}
    (fit : Fit layout fields) : readFields? layout (writeFields layout fields) = some fields := by
  induction fit with
  | nil => rfl
  | @cons field n layout fields fits _ ih =>
    obtain ⟨width, stop⟩ := field
    have length := length_padded fits.1 fits.2
    have digits : (padded width n).all isDigit = true :=
      List.all_eq_true.mpr fun c member => isDigit_of_mem_padded member
    have rest : (padded width n ++ stop :: writeFields layout fields).drop (width + 1) =
        writeFields layout fields := by
      rw [← List.drop_drop, List.drop_left' length]
      rfl
    simp only [writeFields, readFields?, List.take_left' length, List.drop_left' length, rest,
      length, digits, digitsValue_padded, ih, List.head?_cons, true_and, if_true, Option.map_some]

theorem writeFields_lt {layout : List (Nat × Char)} {fields others : List Nat}
    (fit : Fit layout fields) (fitOthers : Fit layout others) (less : fields < others) :
    writeFields layout fields < writeFields layout others := by
  induction fit generalizing others with
  | nil =>
    cases fitOthers
    exact absurd less (List.lt_irrefl _)
  | @cons field m layout fields fits _ ih =>
    cases fitOthers with
    | @cons _ n _ others fits' fitOthers =>
      obtain ⟨width, stop⟩ := field
      rcases List.cons_lt_cons_iff.mp less with first | ⟨rfl, rest⟩
      · refine append_lt_append_of_digitsValue_lt (fun _ => isDigit_of_mem_padded)
          (fun _ => isDigit_of_mem_padded) ?_ ?_ _ _
        · rw [length_padded fits.1 fits.2, length_padded fits'.1 fits'.2]
        · rwa [digitsValue_padded, digitsValue_padded]
      · exact List.append_left_lt (List.cons_lt_cons_self.mpr (ih fitOthers rest))

end DateTime
end Reckoner
