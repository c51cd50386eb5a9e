import Reckoner.Text.Lines
import Mathlib.Data.List.Basic

/-! # Lines as they are written

A text is some lines, each with an end of its own kind, and perhaps one more without an end.

* `Writes` — the text is these lines.
* `lines_eq_iff` — every text is some lines, and these are what is found in it.
* `writes_feeds` — lines that are each ended by a line feed.
* `lines_withLineEnd` — other ends in the place of the line feeds make no other lines.
-/

namespace Reckoner.Text

/-- No line ends in it. -/
def IsOneLine (s : List Char) : Prop :=
  ∀ c ∈ s, c ≠ '\n' ∧ c ≠ '\r'

instance (s : List Char) : Decidable (IsOneLine s) :=
  List.decidableBAll _ s

/-- The text is these lines; the last may lack its end if it is not empty. -/
inductive Writes : List Char → List (List Char) → Prop where
  | nil : Writes [] []
  | unended {line : List Char} : IsOneLine line → line ≠ [] → Writes line [line]
  | feed {line rest : List Char} {more : List (List Char)} :
      IsOneLine line → Writes rest more → Writes (line ++ '\n' :: rest) (line :: more)
  | returnFeed {line rest : List Char} {more : List (List Char)} :
      IsOneLine line → Writes rest more → Writes (line ++ '\r' :: '\n' :: rest) (line :: more)
  /-- A carriage return alone: what follows it is no line feed. -/
  | carriageReturn {line rest : List Char} {more : List (List Char)} :
      IsOneLine line → rest.head? ≠ some '\n' → Writes rest more →
        Writes (line ++ '\r' :: rest) (line :: more)

section Pieces

variable {line rest : List Char}

theorem pieces_ne_nil (s : List Char) : pieces s ≠ [] := by
  fun_cases pieces s <;> simp

theorem pieces_cons {c : Char} (inside : c ≠ '\n' ∧ c ≠ '\r') (rest : List Char) :
    pieces (c :: rest) = (pieces rest).modifyHead (c :: ·) := by
  rw [pieces]
  · split
    next none => exact absurd none (pieces_ne_nil rest)
    next piece more cut => rw [cut, List.modifyHead_cons]
  all_goals simp [inside]

/-- A line that is put before a text becomes the beginning of its first piece. -/
theorem pieces_append (oneLine : IsOneLine line) (rest : List Char) :
    pieces (line ++ rest) = (pieces rest).modifyHead (line ++ ·) := by
  induction line with
  | nil => cases cut : pieces rest <;> simp [cut]
  | cons c line ih =>
    obtain ⟨inside, others⟩ := List.forall_mem_cons.mp oneLine
    rw [List.cons_append, pieces_cons inside, ih others, List.modifyHead_modifyHead]
    rfl

theorem lines_of_pieces {s : List Char} (cut : pieces s = line :: pieces rest) :
    lines s = line :: lines rest := by
  simp only [lines]
  rw [cut, List.getLast?_cons_of_ne_nil (pieces_ne_nil rest),
    List.dropLast_cons_of_ne_nil (pieces_ne_nil rest)]
  split_ifs <;> rfl

end Pieces

theorem lines_of_writes {s : List Char} {ls : List (List Char)} (writes : Writes s ls) :
    lines s = ls := by
  induction writes with
  | nil => rfl
  | @unended line oneLine nonempty =>
    have cut := pieces_append oneLine []
    rw [List.append_nil] at cut
    simp [lines, cut, pieces, nonempty]
  | @feed line rest more oneLine _ ih =>
    rw [← ih]
    apply lines_of_pieces
    rw [pieces_append oneLine, pieces, List.modifyHead_cons, List.append_nil]
  | @returnFeed line rest more oneLine _ ih =>
    rw [← ih]
    apply lines_of_pieces
    rw [pieces_append oneLine, pieces, List.modifyHead_cons, List.append_nil]
  | @carriageReturn line rest more oneLine alone _ ih =>
    rw [← ih]
    apply lines_of_pieces
    rw [pieces_append oneLine, pieces, List.modifyHead_cons, List.append_nil]
    rintro after rfl
    exact alone rfl

/-- What stands before the first line end, if there is one. -/
theorem exists_line (s : List Char) :
    ∃ line rest, s = line ++ rest ∧ IsOneLine line ∧
      (rest = [] ∨ ∃ after, rest = '\n' :: after ∨ rest = '\r' :: after) := by
  induction s with
  | nil => exact ⟨[], [], rfl, by simp [IsOneLine], .inl rfl⟩
  | cons c s ih =>
    by_cases ends : c = '\n' ∨ c = '\r'
    · exact ⟨[], c :: s, rfl, by simp [IsOneLine], .inr ⟨s, by simpa using ends⟩⟩
    · obtain ⟨line, rest, rfl, oneLine, after⟩ := ih
      exact ⟨c :: line, rest, rfl, List.forall_mem_cons.mpr ⟨not_or.mp ends, oneLine⟩, after⟩

theorem exists_writes (s : List Char) : ∃ ls, Writes s ls := by
  induction length : s.length using Nat.strongRecOn generalizing s with
  | ind n ih =>
    subst length
    obtain ⟨line, rest, rfl, oneLine, none | ⟨after, feed | returns⟩⟩ := exists_line s
    · subst none
      rw [List.append_nil]
      by_cases empty : line = []
      · exact ⟨[], empty ▸ .nil⟩
      · exact ⟨[line], .unended oneLine empty⟩
    · subst feed
      obtain ⟨more, writes⟩ := ih after.length (by simp; omega) after rfl
      exact ⟨line :: more, .feed oneLine writes⟩
    · subst returns
      -- A line feed after the carriage return belongs to it.
      by_cases both : ∃ later, after = '\n' :: later
      · obtain ⟨later, rfl⟩ := both
        obtain ⟨more, writes⟩ := ih later.length (by simp; omega) later rfl
        exact ⟨line :: more, .returnFeed oneLine writes⟩
      · obtain ⟨more, writes⟩ := ih after.length (by simp; omega) after rfl
        refine ⟨line :: more, .carriageReturn oneLine ?_ writes⟩
        intro first
        exact both (List.head?_eq_some_iff.mp first)

theorem lines_eq_iff {s : List Char} {ls : List (List Char)} : lines s = ls ↔ Writes s ls := by
  constructor
  · rintro rfl
    obtain ⟨ls, writes⟩ := exists_writes s
    rwa [lines_of_writes writes]
  · exact lines_of_writes

theorem writes_feeds {ls : List (List Char)} (oneLine : ∀ line ∈ ls, IsOneLine line) :
    Writes (ls.flatMap (· ++ ['\n'])) ls := by
  induction ls with
  | nil => exact .nil
  | cons line more ih =>
    obtain ⟨here, others⟩ := List.forall_mem_cons.mp oneLine
    rw [List.flatMap_cons, List.append_assoc]
    exact .feed here (ih others)

/-! ## Other line ends -/

/-- The text with another end in the place of each line feed. -/
def withLineEnd (ending s : List Char) : List Char :=
  s.flatMap fun c => if c = '\n' then ending else [c]

section LineEnds

variable {line rest : List Char}

theorem withLineEnd_oneLine (ending : List Char) (oneLine : IsOneLine line) :
    withLineEnd ending line = line := by
  induction line with
  | nil => rfl
  | cons c line ih =>
    obtain ⟨inside, others⟩ := List.forall_mem_cons.mp oneLine
    have later := ih others
    simp only [withLineEnd, List.flatMap_cons] at later ⊢
    simp [inside.1, later]

theorem withLineEnd_feed (ending : List Char) (oneLine : IsOneLine line) :
    withLineEnd ending (line ++ '\n' :: rest) = line ++ (ending ++ withLineEnd ending rest) := by
  have here := withLineEnd_oneLine ending oneLine
  simp only [withLineEnd, List.flatMap_append, List.flatMap_cons] at here ⊢
  simp [here]

/-- Carriage returns in the place of the line feeds are not followed by any. -/
theorem head?_withLineEnd_return (s : List Char) : (withLineEnd ['\r'] s).head? ≠ some '\n' := by
  cases s with
  | nil => simp [withLineEnd]
  | cons c s =>
    by_cases feed : c = '\n'
    · simp [withLineEnd, feed]
    · simp [withLineEnd, feed]

theorem Writes.withLineEnd {s : List Char} {ls : List (List Char)} (writes : Writes s ls)
    (plain : '\r' ∉ s) {ending : List Char} (known : ending = ['\r', '\n'] ∨ ending = ['\r']) :
    Writes (withLineEnd ending s) ls := by
  induction writes with
  | nil => exact .nil
  | unended oneLine nonempty =>
    rw [withLineEnd_oneLine ending oneLine]
    exact .unended oneLine nonempty
  | @feed line rest more oneLine _ ih =>
    have later := ih fun returns => plain (by simp [returns])
    rw [withLineEnd_feed ending oneLine]
    rcases known with rfl | rfl
    · exact .returnFeed oneLine later
    · exact .carriageReturn oneLine (head?_withLineEnd_return rest) later
  | returnFeed => simp at plain
  | carriageReturn => simp at plain

theorem lines_withLineEnd {s : List Char} (plain : '\r' ∉ s) {ending : List Char}
    (known : ending = ['\r', '\n'] ∨ ending = ['\r']) :
    lines (withLineEnd ending s) = lines s :=
  lines_of_writes ((lines_eq_iff.mp rfl).withLineEnd plain known)

end LineEnds

end Reckoner.Text
