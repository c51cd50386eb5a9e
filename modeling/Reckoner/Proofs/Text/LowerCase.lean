import Reckoner.Text.Blank
import Reckoner.Text.LowerCase

/-! # Texts that lower character by character

The lower case of most characters is a single one that does not depend on what
stands around it.  Of ASCII and of blanks it is what `Char.toLower` says:

* `LowersAlone` — a character whose lower case is that of ASCII, wherever it stands.
* `lower_eq_map` — the lower case of a text of such characters.
* `lowersAlone_of_ascii` — ASCII lowers so.
* `lowersToItself_of_lt`, `lowersToItself_of_isBlank` — what comes before the capitals
  and blanks do not change.
* `mem_lower` — a character that does not change stays in the text.
* `lower_map_toLower` — the lower case does not depend on the letter case of ASCII.
-/

namespace Reckoner.Text

/-- The lower case of the character is that of ASCII, wherever it stands. -/
def LowersAlone (c : Char) : Prop :=
  c ≠ 'Σ' ∧ lowerChar c = [c.toLower]

instance : DecidablePred LowersAlone := fun c =>
  inferInstanceAs (Decidable (c ≠ 'Σ' ∧ lowerChar c = [c.toLower]))

/-- The character is its own lower case, wherever it stands. -/
def LowersToItself (c : Char) : Prop :=
  LowersAlone c ∧ c.toLower = c

instance : DecidablePred LowersToItself := fun c =>
  inferInstanceAs (Decidable (LowersAlone c ∧ c.toLower = c))

theorem lowerAfter_eq_map {afterCased : Bool} {s : List Char} (alone : ∀ c ∈ s, LowersAlone c) :
    lowerAfter afterCased s = s.map Char.toLower := by
  induction s generalizing afterCased with
  | nil => rfl
  | cons c s ih =>
    obtain ⟨⟨notSigma, image⟩, others⟩ := List.forall_mem_cons.mp alone
    rw [lowerAfter, if_neg notSigma, image, ih others]
    rfl

theorem lower_eq_map {s : List Char} (alone : ∀ c ∈ s, LowersAlone c) :
    lower s = s.map Char.toLower :=
  lowerAfter_eq_map alone

/-- What is checked of some code points is true of their characters. -/
theorem of_code {P : Char → Prop} {codes : List Nat}
    (checked : ∀ n ∈ codes, P (Char.ofNat n)) {c : Char} (member : c.toNat ∈ codes) : P c := by
  have holds := checked c.toNat member
  rwa [Char.ofNat_toNat] at holds

/-- The code points of the capitals of ASCII. -/
def capitalCodes : List Nat :=
  List.range' 65 26

theorem mem_capitalCodes {n : Nat} : n ∈ capitalCodes ↔ 65 ≤ n ∧ n ≤ 90 := by
  rw [capitalCodes, List.mem_range'_1]
  omega

theorem toLower_of_not_capital {c : Char} (notCapital : c.toNat ∉ capitalCodes) :
    c.toLower = c := by
  refine dif_neg ?_
  rintro ⟨atLeast, atMost⟩
  exact notCapital (mem_capitalCodes.mpr
    ⟨UInt32.le_iff_toNat_le.mp atLeast, UInt32.le_iff_toNat_le.mp atMost⟩)

theorem toNat_toLower {c : Char} (capital : c.toNat ∈ capitalCodes) :
    c.toLower.toNat = c.toNat + 32 := by
  have checked : ∀ n ∈ capitalCodes, (Char.ofNat n).toLower.toNat = n + 32 := by decide
  have small := checked c.toNat capital
  rwa [Char.ofNat_toNat] at small

theorem lowersAlone_of_ascii {c : Char} (ascii : c.toNat < 128) : LowersAlone c := by
  have notSigma : c ≠ 'Σ' := by
    rintro rfl
    exact absurd ascii (by decide)
  refine ⟨notSigma, ?_⟩
  by_cases capital : c.toNat ∈ capitalCodes
  · have small : Char.ofNat (c.toNat + 32) = c.toLower := by
      rw [← toNat_toLower capital, Char.ofNat_toNat]
    rw [mem_capitalCodes] at capital
    simp only [lowerChar, ascii, capital, if_true, decide_true, Bool.and_self, small]
  · have other : (decide (65 ≤ c.toNat) && decide (c.toNat ≤ 90)) = false := by
      rw [← Bool.decide_and, decide_eq_false_iff_not, ← mem_capitalCodes]
      exact capital
    rw [toLower_of_not_capital capital]
    simp only [lowerChar, ascii, other, if_true, Bool.false_eq_true, if_false]

theorem toLower_of_not_ascii {c : Char} (notAscii : ¬ c.toNat < 128) : c.toLower = c := by
  refine toLower_of_not_capital ?_
  rw [mem_capitalCodes]
  omega

/-- A character lowers alone if the character that it lowers to does. -/
theorem lowersAlone_of_toLower {c : Char} (lowers : LowersAlone c.toLower) : LowersAlone c := by
  by_cases ascii : c.toNat < 128
  · exact lowersAlone_of_ascii ascii
  · rwa [toLower_of_not_ascii ascii] at lowers

theorem lowersToItself_of_lt {c : Char} (early : c.toNat < 65) : LowersToItself c := by
  have notCapital : c.toNat ∉ capitalCodes := by
    rw [mem_capitalCodes]
    omega
  exact ⟨lowersAlone_of_ascii (by omega), toLower_of_not_capital notCapital⟩

/-- The code points of blanks. -/
def blankCodes : List Nat :=
  [0x9, 0xA, 0xB, 0xC, 0xD, 0x20, 0xA0, 0x1680, 0x2000, 0x2001, 0x2002, 0x2003, 0x2004, 0x2005,
    0x2006, 0x2007, 0x2008, 0x2009, 0x200A, 0x2028, 0x2029, 0x202F, 0x205F, 0x3000, 0xFEFF]

theorem mem_blankCodes {c : Char} (blank : isBlank c = true) : c.toNat ∈ blankCodes := by
  simp only [isBlank, Bool.or_eq_true, Bool.and_eq_true, decide_eq_true_eq, beq_iff_eq] at blank
  simp only [blankCodes, List.mem_cons, List.not_mem_nil, or_false]
  omega

theorem lowersToItself_of_isBlank {c : Char} (blank : isBlank c = true) : LowersToItself c := by
  have checked : ∀ n ∈ blankCodes, LowersToItself (Char.ofNat n) := by decide +kernel
  exact of_code checked (mem_blankCodes blank)

theorem mem_lowerAfter {c : Char} (lowers : LowersToItself c) {afterCased : Bool} {s : List Char}
    (member : c ∈ s) : c ∈ lowerAfter afterCased s := by
  obtain ⟨⟨notSigma, image⟩, same⟩ := lowers
  induction s generalizing afterCased with
  | nil => cases member
  | cons d s ih =>
    rw [lowerAfter, List.mem_append]
    rcases List.mem_cons.mp member with rfl | later
    · left
      rw [if_neg notSigma, image, same]
      exact List.mem_singleton_self _
    · exact .inr (ih later)

theorem mem_lower {c : Char} (lowers : LowersToItself c) {s : List Char} (member : c ∈ s) :
    c ∈ lower s :=
  mem_lowerAfter lowers member

/-! ## The letter case of ASCII -/

theorem not_isCaseIgnorable_letter {c : Char}
    (letter : 65 ≤ c.toNat ∧ c.toNat ≤ 90 ∨ 97 ≤ c.toNat ∧ c.toNat ≤ 122 ∨ c = 'Σ') :
    isCaseIgnorable c = false := by
  have apart : ∀ range ∈ caseIgnorableRanges,
      range.2 < 65 ∨ (90 < range.1 ∧ range.2 < 97) ∨ (122 < range.1 ∧ range.2 < 'Σ'.toNat) ∨
        'Σ'.toNat < range.1 := by
    decide +kernel
  have code : 122 < 'Σ'.toNat := by decide
  rw [isCaseIgnorable, inRanges, List.any_eq_false]
  intro range member
  have outside := apart range member
  simp only [Bool.and_eq_true, decide_eq_true_eq]
  rcases letter with capital | small | rfl <;> omega

theorem isCased_letter {c : Char}
    (letter : 65 ≤ c.toNat ∧ c.toNat ≤ 90 ∨ 97 ≤ c.toNat ∧ c.toNat ≤ 122) :
    isCased c = true := by
  rw [isCased, inRanges, List.any_eq_true]
  simp only [Bool.and_eq_true, decide_eq_true_eq]
  rcases letter with capital | small
  · exact ⟨(65, 90), .head _, capital⟩
  · exact ⟨(97, 122), .tail _ (.head _), small⟩

/-- The character and its small letter of ASCII have the same lower case, wherever they stand, and
    do the same to the lower cases around them. -/
theorem toLower_alike (c : Char) :
    (c.toLower = 'Σ' ↔ c = 'Σ') ∧ lowerChar c.toLower = lowerChar c ∧
      isCased c.toLower = isCased c ∧ isCaseIgnorable c.toLower = isCaseIgnorable c := by
  by_cases capital : c.toNat ∈ capitalCodes
  · have code := toNat_toLower capital
    obtain ⟨least, greatest⟩ := mem_capitalCodes.mp capital
    obtain ⟨notSigma, image⟩ := lowersAlone_of_ascii (c := c) (by omega)
    obtain ⟨notSigma', image'⟩ := lowersAlone_of_ascii (c := c.toLower) (by omega)
    have small : c.toLower.toLower = c.toLower := by
      apply toLower_of_not_capital
      rw [mem_capitalCodes]
      omega
    refine ⟨iff_of_false notSigma' notSigma, by rw [image', image, small], ?_, ?_⟩
    · rw [isCased_letter (by omega), isCased_letter (by omega)]
    · rw [not_isCaseIgnorable_letter (by omega), not_isCaseIgnorable_letter (by omega)]
  · rw [toLower_of_not_capital capital]
    exact ⟨Iff.rfl, rfl, rfl, rfl⟩

theorem startsCased_map_toLower (s : List Char) :
    startsCased (s.map Char.toLower) = startsCased s := by
  induction s with
  | nil => rfl
  | cons c s ih =>
    obtain ⟨_, _, cased, ignorable⟩ := toLower_alike c
    rw [List.map_cons, startsCased, startsCased, cased, ignorable, ih]

theorem lowerAfter_map_toLower (afterCased : Bool) (s : List Char) :
    lowerAfter afterCased (s.map Char.toLower) = lowerAfter afterCased s := by
  induction s generalizing afterCased with
  | nil => rfl
  | cons c s ih =>
    obtain ⟨sigma, image, cased, ignorable⟩ := toLower_alike c
    simp only [List.map_cons, lowerAfter, sigma, image, cased, ignorable, ih,
      startsCased_map_toLower]

theorem lower_map_toLower (s : List Char) : lower (s.map Char.toLower) = lower s :=
  lowerAfter_map_toLower false s

end Reckoner.Text
