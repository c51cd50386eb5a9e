import Reckoner.Input
import Mathlib.Data.List.Basic
import Mathlib.Data.List.TakeWhile

/-! # Texts without superfluous blanks

Words with one space between any two of them are what normalisation leaves of a text, and it
leaves them as they are:

* `IsWord`, `spaced` — words, and words with a space between them.
* `trim_eq_nil_iff` — of blanks alone nothing is left.
* `trim_eq_self`, `squeezeAfter_spaced` — nothing is taken off, and no blanks are joined.
* `normalizeText?_spaced` — such a text is its own normal form.
-/

namespace Reckoner

namespace Text

def IsWord (s : List Char) : Prop :=
  s ≠ [] ∧ ∀ c ∈ s, isBlank c = false

theorem isWord_of_all {s : List Char} (nonempty : s ≠ [])
    (inked : (s.all fun c => !isBlank c) = true) : IsWord s :=
  ⟨nonempty, fun c member => by simpa using List.all_eq_true.mp inked c member⟩

/-- The words with a space between any two of them. -/
def spaced (words : List (List Char)) : List Char :=
  [' '].intercalate words

/-! ## Trimming -/

theorem dropWhile_isBlank_eq_self {s : List Char} (inked : ∀ c ∈ s.head?, isBlank c = false) :
    s.dropWhile isBlank = s := by
  cases s with
  | nil => rfl
  | cons c rest =>
    have isInked : isBlank c = false := inked c rfl
    rw [List.dropWhile_cons_of_neg (by simp [isInked])]

theorem trim_eq_nil_iff {s : List Char} : trim s = [] ↔ ∀ c ∈ s, isBlank c = true := by
  rw [trim, trimEnd, trimStart, List.reverse_eq_nil_iff, List.dropWhile_eq_nil_iff]
  simp only [List.mem_reverse]
  constructor
  · intro blank
    by_contra inked
    rw [← List.dropWhile_eq_nil_iff] at inked
    -- What is left begins with a character that is not blank.
    have first := List.head_dropWhile_not isBlank inked
    rw [blank _ (List.head_mem inked)] at first
    cases first
  · intro blank c member
    exact blank c ((List.dropWhile_sublist _).subset member)

theorem trim_eq_self {s : List Char} (first : ∀ c ∈ s.head?, isBlank c = false)
    (last : ∀ c ∈ s.getLast?, isBlank c = false) : trim s = s := by
  have reversed : ∀ c ∈ s.reverse.head?, isBlank c = false := by
    rw [List.head?_reverse]
    exact last
  rw [trim, trimEnd, trimStart, dropWhile_isBlank_eq_self first,
    dropWhile_isBlank_eq_self reversed, List.reverse_reverse]

theorem spaced_cons_cons (word next : List Char) (words : List (List Char)) :
    spaced (word :: next :: words) = word ++ ' ' :: spaced (next :: words) := by
  simp [spaced, List.intercalate]

theorem spaced_singleton (word : List Char) : spaced [word] = word := by
  simp [spaced, List.intercalate]

theorem head?_spaced {word : List Char} (isWord : IsWord word) (words : List (List Char)) :
    (spaced (word :: words)).head? = word.head? := by
  cases words with
  | nil => rw [spaced_singleton]
  | cons next words => rw [spaced_cons_cons, List.head?_append_of_ne_nil _ isWord.1]

theorem spaced_ne_nil {word : List Char} (isWord : IsWord word) (words : List (List Char)) :
    spaced (word :: words) ≠ [] := by
  intro empty
  have := head?_spaced isWord words
  rw [empty, List.head?_nil, eq_comm, List.head?_eq_none_iff] at this
  exact isWord.1 this

theorem exists_getLast?_spaced {words : List (List Char)} (areWords : ∀ w ∈ words, IsWord w)
    (nonempty : words ≠ []) : ∃ word ∈ words, (spaced words).getLast? = word.getLast? := by
  induction words with
  | nil => exact absurd rfl nonempty
  | cons word words ih =>
    obtain ⟨_, others⟩ := List.forall_mem_cons.mp areWords
    cases words with
    | nil => exact ⟨word, List.mem_singleton_self _, by rw [spaced_singleton]⟩
    | cons next words =>
      obtain ⟨last, member, same⟩ := ih others (List.cons_ne_nil _ _)
      refine ⟨last, List.mem_cons_of_mem _ member, ?_⟩
      rw [spaced_cons_cons, List.getLast?_append_of_ne_nil _ (List.cons_ne_nil _ _),
        List.getLast?_cons_of_ne_nil (spaced_ne_nil (others next (List.mem_cons_self ..)) words),
        same]

theorem trim_spaced {words : List (List Char)} (areWords : ∀ w ∈ words, IsWord w)
    (nonempty : words ≠ []) : trim (spaced words) = spaced words := by
  obtain ⟨last, member, same⟩ := exists_getLast?_spaced areWords nonempty
  apply trim_eq_self
  · cases words with
    | nil => exact absurd rfl nonempty
    | cons word words =>
      have isWord := areWords word (List.mem_cons_self ..)
      rw [head?_spaced isWord]
      exact fun c isFirst => isWord.2 c (List.mem_of_mem_head? isFirst)
  · rw [same]
    exact fun c isLast => (areWords last member).2 c (List.mem_of_getLast? isLast)

/-! ## Squeezing -/

theorem squeezeAfter_inked {s : List Char} (inked : ∀ c ∈ s, isBlank c = false)
    (rest : List Char) : squeezeAfter false (s ++ rest) = s ++ squeezeAfter false rest := by
  induction s with
  | nil => rfl
  | cons c s ih =>
    obtain ⟨here, others⟩ := List.forall_mem_cons.mp inked
    rw [List.cons_append, squeezeAfter, if_neg (by simp [here]), ih others, List.cons_append]

theorem squeezeAfter_word {word : List Char} (isWord : IsWord word) (afterBlank : Bool)
    (rest : List Char) : squeezeAfter afterBlank (word ++ rest) =
      word ++ squeezeAfter false rest := by
  obtain ⟨nonempty, inked⟩ := isWord
  cases word with
  | nil => exact absurd rfl nonempty
  | cons c word =>
    obtain ⟨here, others⟩ := List.forall_mem_cons.mp inked
    rw [List.cons_append, squeezeAfter, if_neg (by simp [here]), squeezeAfter_inked others,
      List.cons_append]

theorem squeezeAfter_spaced {words : List (List Char)} (areWords : ∀ w ∈ words, IsWord w)
    (afterBlank : Bool) : squeezeAfter afterBlank (spaced words) = spaced words := by
  -- A text begins after no blank, but each later word after the space before it.
  induction words generalizing afterBlank with
  | nil => rfl
  | cons word words ih =>
    obtain ⟨isWord, others⟩ := List.forall_mem_cons.mp areWords
    cases words with
    | nil =>
      have single := squeezeAfter_word isWord afterBlank []
      rwa [List.append_nil, squeezeAfter, List.append_nil, ← spaced_singleton word] at single
    | cons next words =>
      rw [spaced_cons_cons, squeezeAfter_word isWord, squeezeAfter, if_pos (by decide),
        if_neg (by decide), ih others]

end Text

theorem normalizeText?_spaced {words : List (List Char)} (areWords : ∀ w ∈ words, Text.IsWord w)
    (nonempty : words ≠ []) :
    normalizeText? (String.ofList (Text.spaced words)) =
      some (String.ofList (Text.spaced words)) := by
  have isText : Text.spaced words ≠ [] := by
    cases words with
    | nil => exact absurd rfl nonempty
    | cons word words => exact Text.spaced_ne_nil (areWords word (List.mem_cons_self ..)) words
  rw [normalizeText?, String.toList_ofList, Text.trim_spaced areWords nonempty, Text.squeeze,
    Text.squeezeAfter_spaced areWords]
  split
  next empty => exact absurd empty isText
  next => rfl

end Reckoner
