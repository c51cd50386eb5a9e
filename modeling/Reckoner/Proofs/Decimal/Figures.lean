import Reckoner.Value
import Reckoner.Proofs.Decimal.Digits

/-! # The characters of numbers

Whatever a value is, its text has digits, signs, a point, an exponent and the letters of NaN and
Infinity, and no other characters.

* `IsFigure` — these characters.
* `isFigure_of_mem_render`, `Binary64.isFigure_of_mem_chars` — decimals and numbers.
* `Value.isFigure_of_mem_text` — values as they are shown.
-/

namespace Reckoner

def IsFigure (c : Char) : Prop :=
  isDigit c = true ∨ c ∈ "-+.eNaInfinity".toList

instance : DecidablePred IsFigure := fun c =>
  inferInstanceAs (Decidable (isDigit c = true ∨ c ∈ "-+.eNaInfinity".toList))

theorem isFigure_of_all {s : List Char} (checked : s.all (IsFigure ·) = true) :
    ∀ c ∈ s, IsFigure c := by
  simpa using checked

theorem isFigure_of_mem_digitChars {n : Nat} : ∀ c ∈ digitChars n, IsFigure c :=
  fun _ member => .inl (isDigit_of_mem_digitChars member)

/-- This is about `Nat.toDigits` because `simp` takes the text of a number apart into it. -/
theorem not_mem_toDigits {c : Char} (noDigit : isDigit c = false) (n : Nat) :
    c ∉ Nat.toDigits 10 n := by
  intro member
  rw [isDigit_of_mem_digitChars member] at noDigit
  cases noDigit

theorem isFigure_of_mem_sign {negative : Prop} [Decidable negative] :
    ∀ c ∈ if negative then ['-'] else [], IsFigure c := by
  split <;> exact isFigure_of_all (by decide)

theorem isFigure_of_mem_wholeChars {n : Int} : ∀ c ∈ wholeChars n, IsFigure c :=
  List.forall_mem_append.mpr ⟨isFigure_of_mem_sign, isFigure_of_mem_digitChars⟩

theorem isFigure_of_mem_exponentChars {n : Int} : ∀ c ∈ Decimal.exponentChars n, IsFigure c := by
  refine List.forall_mem_cons.mpr ⟨?_, isFigure_of_mem_digitChars⟩
  split <;> decide

theorem isFigure_of_mem_render {d : Decimal} : ∀ c ∈ d.render, IsFigure c := by
  have digits : ∀ c ∈ digitChars d.coefficient, IsFigure c := isFigure_of_mem_digitChars
  have first (k : Nat) : ∀ c ∈ (digitChars d.coefficient).take k, IsFigure c :=
    fun c member => digits c (List.mem_of_mem_take member)
  have others (k : Nat) : ∀ c ∈ '.' :: (digitChars d.coefficient).drop k, IsFigure c :=
    List.forall_mem_cons.mpr ⟨by decide, fun c member => digits c (List.mem_of_mem_drop member)⟩
  have zeros (k : Nat) : ∀ c ∈ List.replicate k '0', IsFigure c := by
    intro c member
    rw [List.eq_of_mem_replicate member]
    decide
  have leading (k : Nat) : ∀ c ∈ '0' :: '.' :: List.replicate k '0', IsFigure c :=
    List.forall_mem_cons.mpr ⟨by decide, List.forall_mem_cons.mpr ⟨by decide, zeros k⟩⟩
  have mark : IsFigure 'e' := by decide
  -- One case for each way to place the point, and one for an exponent.
  simp only [Decimal.render]
  split_ifs
  · exact List.forall_mem_append.mpr ⟨digits, zeros _⟩
  · exact List.forall_mem_append.mpr ⟨first _, others _⟩
  · exact List.forall_mem_append.mpr ⟨leading _, digits⟩
  · refine List.forall_mem_append.mpr ⟨List.forall_mem_append.mpr ⟨first _, by simp⟩, ?_⟩
    exact List.forall_mem_cons.mpr ⟨mark, isFigure_of_mem_exponentChars⟩
  · refine List.forall_mem_append.mpr ⟨List.forall_mem_append.mpr ⟨first _, others _⟩, ?_⟩
    exact List.forall_mem_cons.mpr ⟨mark, isFigure_of_mem_exponentChars⟩

theorem Binary64.isFigure_of_mem_chars {x : Binary64} : ∀ c ∈ x.chars, IsFigure c := by
  cases x with
  | nan => exact isFigure_of_all (by decide)
  | infinite negative => cases negative <;> exact isFigure_of_all (by decide)
  | finite negative units count =>
    rw [chars]
    split_ifs
    · exact isFigure_of_all (by decide)
    · exact List.forall_mem_append.mpr ⟨isFigure_of_all (by decide), isFigure_of_mem_render⟩
    · exact List.forall_mem_append.mpr ⟨isFigure_of_all (by decide), isFigure_of_mem_render⟩

theorem Value.isFigure_of_mem_text {value : Value} : ∀ c ∈ value.text.toList, IsFigure c := by
  cases value with
  | number x =>
    rw [text, String.toList_ofList, Binary64.display]
    split
    · split
      · exact isFigure_of_mem_wholeChars
      · exact Binary64.isFigure_of_mem_chars
    · exact Binary64.isFigure_of_mem_chars
  | whole n =>
    rw [text, String.toList_ofList]
    exact isFigure_of_mem_wholeChars

end Reckoner
