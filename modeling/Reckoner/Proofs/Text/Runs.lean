import Reckoner.Proofs.Text.Words
import Mathlib.Data.List.DropRight

/-! # The words of a text

Every text is some words with blanks around them, and the normal form of the text is these words
with single spaces.

* `Runs` — the words are the maximal runs of characters that are not blank.
* `words_eq_iff` — every text has such words, and they are what is found in it.
* `exists_trim` — trimming takes blanks off both ends, and nothing else.
* `squeeze_trim`, `normalizeText?_eq` — what normalisation makes of a text.
* `normalizeText?_again` — a normal form is left as it is.
-/

namespace Reckoner

namespace Text

/-- The words are the maximal runs of characters that are not blank. -/
inductive Runs : List Char → List (List Char) → Prop where
  | blank {gap : List Char} : (∀ c ∈ gap, isBlank c = true) → Runs gap []
  /-- A word ends where the text ends or a blank follows. -/
  | word {gap word rest : List Char} {words : List (List Char)} :
      (∀ c ∈ gap, isBlank c = true) → IsWord word → (∀ c ∈ rest.head?, isBlank c = true) →
        Runs rest words → Runs (gap ++ (word ++ rest)) (word :: words)

/-! ## Finding the words -/

theorem splitAtBlanks_ne_nil (s : List Char) : splitAtBlanks s ≠ [] := by
  fun_cases splitAtBlanks s <;> simp

theorem splitAtBlanks_cons_inked {c : Char} (inked : isBlank c = false) (rest : List Char) :
    splitAtBlanks (c :: rest) = (splitAtBlanks rest).modifyHead (c :: ·) := by
  rw [splitAtBlanks, if_neg (by simp [inked])]
  split
  next none => exact absurd none (splitAtBlanks_ne_nil rest)
  next piece pieces cut => rw [cut, List.modifyHead_cons]

theorem splitAtBlanks_append_inked {s : List Char} (inked : ∀ c ∈ s, isBlank c = false)
    (rest : List Char) :
    splitAtBlanks (s ++ rest) = (splitAtBlanks rest).modifyHead (s ++ ·) := by
  induction s with
  | nil => cases cut : splitAtBlanks rest <;> simp [cut]
  | cons c s ih =>
    obtain ⟨here, others⟩ := List.forall_mem_cons.mp inked
    rw [List.cons_append, splitAtBlanks_cons_inked here, ih others, List.modifyHead_modifyHead]
    rfl

theorem words_cons_blank {c : Char} (blank : isBlank c = true) (rest : List Char) :
    words (c :: rest) = words rest := by
  simp [words, splitAtBlanks, blank]

theorem words_append_blank {gap : List Char} (blank : ∀ c ∈ gap, isBlank c = true)
    (rest : List Char) : words (gap ++ rest) = words rest := by
  induction gap with
  | nil => rfl
  | cons c gap ih =>
    obtain ⟨here, others⟩ := List.forall_mem_cons.mp blank
    rw [List.cons_append, words_cons_blank here, ih others]

theorem words_append_word {word rest : List Char} (isWord : IsWord word)
    (ends : ∀ c ∈ rest.head?, isBlank c = true) : words (word ++ rest) = word :: words rest := by
  rw [words, splitAtBlanks_append_inked isWord.2]
  cases rest with
  | nil => simp [splitAtBlanks, words, isWord.1]
  | cons c rest =>
    -- The blank that ends the word leaves an empty piece before it.
    simp [splitAtBlanks, words, ends c rfl, isWord.1]

theorem words_of_runs {s : List Char} {found : List (List Char)} (runs : Runs s found) :
    words s = found := by
  induction runs with
  | @blank gap blank =>
    have none := words_append_blank blank []
    rwa [List.append_nil] at none
  | word blank isWord ends _ ih =>
    rw [words_append_blank blank, words_append_word isWord ends, ih]

theorem Runs.cons_blank {c : Char} {s : List Char} {found : List (List Char)}
    (blank : isBlank c = true) (runs : Runs s found) : Runs (c :: s) found := by
  cases runs with
  | blank others => exact .blank (List.forall_mem_cons.mpr ⟨blank, others⟩)
  | @word gap word rest words others isWord ends later =>
    have blanks : ∀ d ∈ c :: gap, isBlank d = true := List.forall_mem_cons.mpr ⟨blank, others⟩
    exact @Runs.word (c :: gap) word rest words blanks isWord ends later

theorem Runs.append_word {word rest : List Char} {words : List (List Char)} (isWord : IsWord word)
    (ends : ∀ c ∈ rest.head?, isBlank c = true) (runs : Runs rest words) :
    Runs (word ++ rest) (word :: words) :=
  @Runs.word [] word rest words (by simp) isWord ends runs

/-- A character that is not blank begins a word, or is put before the first one. -/
theorem Runs.cons_inked {c : Char} {s : List Char} {found : List (List Char)}
    (inked : isBlank c = false) (runs : Runs s found) : ∃ more, Runs (c :: s) more := by
  have alone : IsWord [c] := ⟨List.cons_ne_nil _ _, by simpa using inked⟩
  cases runs with
  | blank others =>
    have ends : ∀ d ∈ s.head?, isBlank d = true :=
      fun d first => others d (List.mem_of_mem_head? first)
    exact ⟨[[c]], .append_word alone ends (.blank others)⟩
  | @word gap word rest words others isWord ends later =>
    cases gap with
    | nil =>
      have longer : IsWord (c :: word) :=
        ⟨List.cons_ne_nil _ _, List.forall_mem_cons.mpr ⟨inked, isWord.2⟩⟩
      exact ⟨(c :: word) :: words, .append_word longer ends later⟩
    | cons d gap =>
      have ends' : ∀ e ∈ (d :: gap ++ (word ++ rest)).head?, isBlank e = true := by
        simpa using others d (List.mem_cons_self ..)
      exact ⟨[c] :: word :: words, .append_word alone ends' (.word others isWord ends later)⟩

theorem exists_runs (s : List Char) : ∃ found, Runs s found := by
  induction s with
  | nil => exact ⟨[], .blank (by simp)⟩
  | cons c s ih =>
    obtain ⟨found, runs⟩ := ih
    cases blank : isBlank c with
    | true => exact ⟨found, runs.cons_blank blank⟩
    | false => exact runs.cons_inked blank

theorem words_eq_iff {s : List Char} {found : List (List Char)} :
    words s = found ↔ Runs s found := by
  constructor
  · rintro rfl
    obtain ⟨found, runs⟩ := exists_runs s
    rwa [words_of_runs runs]
  · exact words_of_runs

theorem runs_words (s : List Char) : Runs s (words s) :=
  words_eq_iff.mp rfl

theorem isWord_of_mem_words {s word : List Char} (member : word ∈ words s) : IsWord word := by
  have runs := runs_words s
  generalize words s = found at member runs
  induction runs with
  | blank => cases member
  | word _ isWord _ _ ih =>
    rcases List.mem_cons.mp member with rfl | later
    · exact isWord
    · exact ih later

theorem words_eq_nil_iff {s : List Char} : words s = [] ↔ ∀ c ∈ s, isBlank c = true := by
  rw [words_eq_iff]
  constructor
  · rintro (⟨blank⟩ | _)
    exact blank
  · exact .blank

/-! ## Normalisation -/

theorem words_concat_blanks {s gap : List Char} (blank : ∀ c ∈ gap, isBlank c = true) :
    words (s ++ gap) = words s := by
  have runs := runs_words s
  generalize words s = found at runs
  induction runs with
  | blank others =>
    exact words_of_runs (.blank (List.forall_mem_append.mpr ⟨others, blank⟩))
  | @word before word rest later others isWord ends _ ih =>
    have ends' : ∀ c ∈ (rest ++ gap).head?, isBlank c = true := by
      cases rest with
      | nil => exact fun c first => blank c (List.mem_of_mem_head? first)
      | cons d rest => exact ends
    rw [List.append_assoc, words_append_blank others, List.append_assoc,
      words_append_word isWord ends', ih]

/-- Trimming takes blanks off both ends, and nothing else. -/
theorem exists_trim (s : List Char) :
    ∃ before after, s = before ++ (trim s ++ after) ∧ (∀ c ∈ before, isBlank c = true) ∧
      ∀ c ∈ after, isBlank c = true := by
  refine ⟨s.takeWhile isBlank, (trimStart s).rtakeWhile isBlank, ?_, ?_, ?_⟩
  · have ended : trim s ++ (trimStart s).rtakeWhile isBlank = trimStart s :=
      List.rdropWhile_append_rtakeWhile
    rw [ended]
    exact List.takeWhile_append_dropWhile.symm
  · exact fun c => List.mem_takeWhile_imp
  · exact fun c => List.mem_rtakeWhile_imp

theorem trim_append_blank {before s after : List Char}
    (blank : ∀ c ∈ before, isBlank c = true) (blank' : ∀ c ∈ after, isBlank c = true) :
    trim (before ++ (s ++ after)) = trim s := by
  have started : trimStart (before ++ (s ++ after)) = trimStart (s ++ after) :=
    List.dropWhile_append_of_pos blank
  rw [trim, started]
  by_cases inked : ∀ c ∈ s, isBlank c = true
  · have allBlank : ∀ c ∈ s ++ after, isBlank c = true := List.forall_mem_append.mpr ⟨inked, blank'⟩
    exact (trim_eq_nil_iff.mpr allBlank).trans (trim_eq_nil_iff.mpr inked).symm
  · have nonempty : s.dropWhile isBlank ≠ [] := mt List.dropWhile_eq_nil_iff.mp inked
    have kept : trimStart (s ++ after) = trimStart s ++ after := by
      simp [trimStart, List.dropWhile_append, nonempty]
    rw [kept]
    show (List.dropWhile isBlank (trimStart s ++ after).reverse).reverse = trim s
    rw [List.reverse_append, List.dropWhile_append_of_pos fun c member =>
      blank' c (List.mem_reverse.mp member)]
    rfl

theorem words_trim (s : List Char) : words (trim s) = words s := by
  obtain ⟨before, after, whole, blank, blank'⟩ := exists_trim s
  rw [whole, words_append_blank blank, words_concat_blanks blank', ← whole]

theorem trim_last {s : List Char} : ∀ c ∈ (trim s).getLast?, isBlank c = false := by
  intro c last
  obtain ⟨nonempty, rfl⟩ := List.mem_getLast?_eq_getLast last
  have kept := List.rdropWhile_last_not isBlank (trimStart s) nonempty
  exact Bool.eq_false_iff.mpr kept

theorem trim_first {s : List Char} : ∀ c ∈ (trim s).head?, isBlank c = false := by
  intro c first
  -- What is taken off the end leaves the first character, unless nothing is left.
  obtain ⟨after, whole⟩ : trim s <+: trimStart s := List.rdropWhile_prefix isBlank _
  obtain ⟨rest, begins⟩ := List.head?_eq_some_iff.mp (Option.mem_def.mp first)
  have nonempty : s.dropWhile isBlank ≠ [] := by
    intro empty
    simp [begins, trimStart, empty] at whole
  have kept := List.head_dropWhile_not isBlank nonempty
  simp only [trimStart, begins] at whole
  simpa [← whole] using kept

theorem trim_trim (s : List Char) : trim (trim s) = trim s :=
  trim_eq_self trim_first trim_last

theorem squeezeAfter_gap {gap : List Char} (blank : ∀ c ∈ gap, isBlank c = true)
    (rest : List Char) : squeezeAfter true (gap ++ rest) = squeezeAfter true rest := by
  induction gap with
  | nil => rfl
  | cons c gap ih =>
    obtain ⟨here, others⟩ := List.forall_mem_cons.mp blank
    rw [List.cons_append, squeezeAfter, if_pos here, if_pos rfl, ih others]

theorem squeezeAfter_cons_blank {c : Char} (blank : isBlank c = true) (rest : List Char) :
    squeezeAfter false (c :: rest) = ' ' :: squeezeAfter true (c :: rest) := by
  simp [squeezeAfter, blank]

/-- After a blank, the words are left of a text that does not end in one. -/
theorem squeezeAfter_runs {s : List Char} {found : List (List Char)} (runs : Runs s found)
    (last : ∀ c ∈ s.getLast?, isBlank c = false) : squeezeAfter true s = spaced found := by
  induction runs with
  | @blank gap blank =>
    cases ends : gap.getLast? with
    | none => rw [List.getLast?_eq_none_iff.mp ends]; rfl
    | some c =>
      have inked := last c ends
      rw [blank c (List.mem_of_getLast? ends)] at inked
      cases inked
  | @word gap word rest words blank isWord ends runs ih =>
    rw [squeezeAfter_gap blank, squeezeAfter_word isWord]
    cases rest with
    | nil =>
      rw [← words_of_runs runs]
      simp [squeezeAfter, Text.words, splitAtBlanks, spaced_singleton]
    | cons c rest =>
      have last' : ∀ d ∈ (c :: rest).getLast?, isBlank d = false := by
        simpa only [List.getLast?_append_of_ne_nil _ (List.append_ne_nil_of_right_ne_nil word
          (List.cons_ne_nil c rest)), List.getLast?_append_of_ne_nil _ (List.cons_ne_nil c rest)]
          using last
      rw [squeezeAfter_cons_blank (ends c rfl), ih last']
      cases words with
      | nil =>
        -- A last character that is not blank is in a word.
        have blank := words_eq_nil_iff.mp (words_of_runs runs)
        have inked := last' _ (List.getLast?_eq_getLast_of_ne_nil (List.cons_ne_nil c rest))
        rw [blank _ (List.getLast_mem _)] at inked
        cases inked
      | cons next words => rw [spaced_cons_cons]

theorem squeeze_trim (s : List Char) : squeeze (trim s) = spaced (words s) := by
  have first := trim_first (s := s)
  have runs := squeezeAfter_runs (runs_words (trim s)) trim_last
  rw [words_trim] at runs
  rw [← runs, squeeze]
  cases trimmed : trim s with
  | nil => rfl
  | cons c rest =>
    rw [trimmed] at first
    simp [squeezeAfter, first c rfl]

theorem squeeze_inked {s : List Char} (inked : ∀ c ∈ s, isBlank c = false) : squeeze s = s := by
  have none := squeezeAfter_inked inked []
  rwa [List.append_nil, squeezeAfter, List.append_nil] at none

/-- Where there was a blank, a space is left. -/
theorem space_mem_squeeze {c : Char} (blank : isBlank c = true) {s : List Char} (member : c ∈ s) :
    ' ' ∈ squeeze s := by
  unfold squeeze
  induction s with
  | nil => cases member
  | cons d s ih =>
    cases here : isBlank d with
    | true => simp [squeezeAfter, here]
    | false =>
      have later : c ∈ s := by
        rcases List.mem_cons.mp member with rfl | later
        · rw [here] at blank
          cases blank
        · exact later
      simpa [squeezeAfter, here] using .inr (ih later)

end Text

/-! ## Questions -/

theorem normalizeText?_eq (s : String) :
    normalizeText? s =
      if Text.words s.toList = [] then none
      else some (String.ofList (Text.spaced (Text.words s.toList))) := by
  rw [normalizeText?, Text.squeeze_trim]
  cases found : Text.words s.toList with
  | nil => rfl
  | cons word words =>
    have isWord : Text.IsWord word :=
      Text.isWord_of_mem_words (found ▸ List.mem_cons_self ..)
    have isText := Text.spaced_ne_nil isWord words
    split
    next empty => exact absurd empty isText
    next => rfl

/-- A normal form is left as it is. -/
theorem normalizeText?_again {s text : String} (normalized : normalizeText? s = some text) :
    normalizeText? text = some text := by
  rw [normalizeText?_eq] at normalized
  split_ifs at normalized with none
  cases normalized
  exact normalizeText?_spaced (fun _ => Text.isWord_of_mem_words) none

end Reckoner
