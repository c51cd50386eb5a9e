import Reckoner.Phrase.Table
import Reckoner.Proofs.Phrase.Operands

/-! # Reading by tables

A table is tried group by group, and each group pattern by pattern; the first pattern that
matches decides, even if what it captures is no number.  What a pattern is does not matter, only
what it finds in a text.  A phrase book is a table of phrasings.

* `PatternTable.IsFirst.first?_eq` — the first pattern that matches decides.
* `PatternTable.read_append`, `understands_append` — tables in a row.
* `PhraseBook.read_table` — a phrase book reads as its table does.
* `PatternTable.reading_composes` — reading by tables that are joined or split.
-/

namespace Reckoner

namespace PatternTable

/-! ## The first match -/

section First

variable (table table' : PatternTable) (lower : List Char)

theorem first?_append :
    (table ++ table').first? lower = (table.first? lower).or (table'.first? lower) :=
  List.findSome?_append

theorem first?_cons (group : PatternGroup) :
    first? (group :: table) lower = (group.first? lower).or (table.first? lower) := by
  rw [first?, List.findSome?_cons]
  cases group.first? lower <;> rfl

theorem group_first?_append (operation : String) (patterns patterns' : List Pattern) :
    PatternGroup.first? ⟨operation, patterns ++ patterns'⟩ lower =
      (PatternGroup.first? ⟨operation, patterns⟩ lower).or
        (PatternGroup.first? ⟨operation, patterns'⟩ lower) :=
  List.findSome?_append

/-- A group can be cut anywhere between its patterns. -/
theorem first?_split (operation : String) (patterns patterns' : List Pattern) :
    (table ++ ⟨operation, patterns ++ patterns'⟩ :: table').first? lower =
      (table ++ ⟨operation, patterns⟩ :: ⟨operation, patterns'⟩ :: table').first? lower := by
  simp only [first?_append, first?_cons, group_first?_append, Option.or_assoc]

variable {table table' lower}

theorem group_first?_eq_none {operation : String} {patterns : List Pattern}
    (nowhere : ∀ pattern ∈ patterns, pattern.find? lower = none) :
    PatternGroup.first? ⟨operation, patterns⟩ lower = none := by
  rw [PatternGroup.first?, List.findSome?_eq_none_iff]
  intro pattern member
  rw [nowhere pattern member, Option.map_none]

theorem first?_eq_none
    (nowhere : ∀ group ∈ table, ∀ pattern ∈ group.patterns, pattern.find? lower = none) :
    table.first? lower = none := by
  rw [first?, List.findSome?_eq_none_iff]
  exact fun group member => group_first?_eq_none (nowhere group member)

end First

/-- The pattern matches, and no pattern before it in the table does. -/
structure IsFirst (table : PatternTable) (lower : List Char) (operation : String)
    (pattern : Pattern) (captures : List (Option (List Char))) : Prop where
  found : pattern.find? lower = some captures
  placed : ∃ (groups groups' : PatternTable) (patterns patterns' : List Pattern),
    table = groups ++ ⟨operation, patterns ++ pattern :: patterns'⟩ :: groups' ∧
      (∀ group ∈ groups, ∀ earlier ∈ group.patterns, earlier.find? lower = none) ∧
      ∀ earlier ∈ patterns, earlier.find? lower = none

theorem IsFirst.first?_eq {table : PatternTable} {lower : List Char} {operation : String}
    {pattern : Pattern} {captures : List (Option (List Char))}
    (isFirst : table.IsFirst lower operation pattern captures) :
    table.first? lower = some ⟨operation, pattern.isReversed, captures⟩ := by
  obtain ⟨groups, groups', patterns, patterns', rfl, noGroup, noPattern⟩ := isFirst.placed
  have earlier : PatternGroup.first? ⟨operation, patterns⟩ lower = none :=
    group_first?_eq_none noPattern
  have here : PatternGroup.first? ⟨operation, pattern :: patterns'⟩ lower =
      some ⟨operation, pattern.isReversed, captures⟩ := by
    rw [PatternGroup.first?, List.findSome?_cons, isFirst.found, Option.map_some]
  rw [first?_append, first?_eq_none noGroup, first?_cons, group_first?_append, earlier, here]
  rfl

/-! ## Reading -/

section Read

variable {table : PatternTable} {text : String}

theorem read_of_first? {found : PatternMatch}
    (first : table.first? (Text.lower text.toList) = some found) :
    table.read text = found.request text := by
  rw [read, first]

theorem request_ne_none (found : PatternMatch) (text : String) : found.request text ≠ .ok none := by
  rw [PatternMatch.request]
  cases found.operands <;> simp [Except.map]

theorem understands_eq_false_iff : table.understands text = false ↔ table.read text = .ok none := by
  rw [understands, read]
  cases table.first? (Text.lower text.toList) with
  | none => simp
  | some found => simp [request_ne_none]

theorem understands_append (table table' : PatternTable) (text : String) :
    (table ++ table').understands text = (table.understands text || table'.understands text) := by
  rw [understands, first?_append, Option.isSome_or]
  rfl

theorem read_append (table table' : PatternTable) (text : String) :
    (table ++ table').read text =
      if table.understands text then table.read text else table'.read text := by
  cases first : table.first? (Text.lower text.toList) with
  | none => simp [read, understands, first?_append, first]
  | some found => simp [read, understands, first?_append, first]

end Read

/-! ## Captures that are no numbers -/

/-- The first capture that is not finite is the one that the error names. -/
theorem mapM_readOperand_append {before after : List (List Char)} {numeral : List Char}
    (finite : ∀ earlier ∈ before, (Binary64.read earlier).isFinite = true)
    (notFinite : (Binary64.read numeral).isFinite = false) :
    (before ++ numeral :: after).mapM readOperand =
      .error (.parsing (.notFinite (String.ofList numeral))) := by
  induction before with
  | nil =>
    rw [List.nil_append, List.mapM_cons, readOperand_of_not_finite (by simp [notFinite])]
    rfl
  | cons earlier before ih =>
    obtain ⟨here, others⟩ := List.forall_mem_cons.mp finite
    rw [List.cons_append, List.mapM_cons, readOperand_of_finite here, ih others]
    rfl

theorem request_of_malformed {found : PatternMatch} {before after : List (List Char)}
    {numeral : List Char} (captured : found.captures.filterMap id = before ++ numeral :: after)
    (finite : ∀ earlier ∈ before, (Binary64.read earlier).isFinite = true)
    (notFinite : (Binary64.read numeral).isFinite = false) (text : String) :
    found.request text = .error (.parsing (.notFinite (String.ofList numeral))) := by
  rw [PatternMatch.request, PatternMatch.operands, captured,
    mapM_readOperand_append finite notFinite]
  rfl

end PatternTable

/-! ## Phrase books -/

namespace PhraseBook

variable (book : PhraseBook) (text : String)

theorem group_first?_table (group : PhraseGroup) (lower : List Char) :
    PatternGroup.first? ⟨group.operation, group.phrasings.map Phrasing.pattern⟩ lower =
      (group.firstFit? lower).map Fit.patternMatch := by
  rw [PatternGroup.first?, PhraseGroup.firstFit?, List.findSome?_map, List.map_findSome?]
  congr 1
  funext phrasing
  simp only [Function.comp, Phrasing.pattern, Option.map_map]
  rfl

theorem first?_table (lower : List Char) :
    book.table.first? lower = (book.firstFit? lower).map Fit.patternMatch := by
  rw [PatternTable.first?, table, firstFit?, List.findSome?_map, List.map_findSome?]
  congr 1
  funext group
  exact group_first?_table group lower

theorem understands_table : book.table.understands text = book.understands text := by
  rw [PatternTable.understands, first?_table, Option.isSome_map, understands]

theorem operands_patternMatch (fit : Fit) :
    fit.patternMatch.operands = fit.operands := by
  rw [PatternMatch.operands, Fit.operands, Fit.patternMatch, List.filterMap_map]
  simp

theorem read_table : book.table.read text = book.read text := by
  rw [PatternTable.read, first?_table, read]
  cases book.firstFit? (Text.lower text.toList) with
  | none => rfl
  | some fit =>
    simp only [Option.map_some, PatternMatch.request, operands_patternMatch]
    rfl

end PhraseBook

/-! ## Joining and splitting -/

namespace PatternTable

/-- Of two tables in a row the second is asked only what the first does not understand, and it
does not matter where a group is cut in two.  A table understands exactly the questions that it
answers with a request or an error, and the error is that of the first pattern that matches,
whatever stands after it.  All this holds of phrase books, which are tables. -/
theorem reading_composes (table table' : PatternTable) (text : String) :
    ((table ++ table').read text =
        if table.understands text then table.read text else table'.read text) ∧
    ((table ++ table').understands text = (table.understands text || table'.understands text)) ∧
    (∀ (operation : String) (patterns patterns' : List Pattern),
      let whole : PatternTable := table ++ ⟨operation, patterns ++ patterns'⟩ :: table'
      let parts : PatternTable :=
        table ++ ⟨operation, patterns⟩ :: ⟨operation, patterns'⟩ :: table'
      whole.read text = parts.read text ∧ whole.understands text = parts.understands text) ∧
    (table.understands text = false ↔ table.read text = .ok none) ∧
    (∀ (operation : String) (pattern : Pattern) (captures : List (Option (List Char)))
        (before after : List (List Char)) (numeral : List Char),
      table.IsFirst (Text.lower text.toList) operation pattern captures →
        captures.filterMap id = before ++ numeral :: after →
          (∀ earlier ∈ before, (Binary64.read earlier).isFinite = true) →
            (Binary64.read numeral).isFinite = false →
              (table ++ table').read text =
                .error (.parsing (.notFinite (String.ofList numeral)))) ∧
    ∀ book : PhraseBook,
      book.table.read text = book.read text ∧
        book.table.understands text = book.understands text := by
  refine ⟨read_append table table' text, understands_append table table' text, ?_,
    understands_eq_false_iff, ?_, fun book => ⟨book.read_table text, book.understands_table text⟩⟩
  · intro operation patterns patterns'
    simp only [read, understands, first?_split, and_self]
  · intro operation pattern captures before after numeral isFirst captured finite notFinite
    have first := isFirst.first?_eq
    rw [read_append, if_pos (by rw [understands, first]; rfl), read_of_first? first]
    exact request_of_malformed captured finite notFinite text

/-- A pattern that captures the whole question, after a group that takes no part, decides with an
error, though the phrase book after it understands the question. -/
theorem reading_composes_past_malformed :
    let whole : Pattern := { find? := fun lower => some [none, some lower], isReversed := false }
    let table : PatternTable := [⟨"sin", []⟩, ⟨"sqrt", [whole]⟩]
    let text := "sqrt of 16"
    table.IsFirst (Text.lower text.toList) "sqrt" whole [none, some text.toList] ∧
      (Binary64.read text.toList).isFinite = false ∧
      PhraseBook.standard.table.understands text = true ∧
      (table ++ PhraseBook.standard.table).read text =
        .error (.parsing (.notFinite (String.ofList text.toList))) := by
  intro whole table text
  obtain ⟨found, notFinite, understood⟩ :
      whole.find? (Text.lower text.toList) = some [none, some text.toList] ∧
        (Binary64.read text.toList).isFinite = false ∧
        PhraseBook.standard.table.understands text = true := by
    decide +kernel
  have isFirst : table.IsFirst (Text.lower text.toList) "sqrt" whole [none, some text.toList] :=
    ⟨found, [⟨"sin", []⟩], [], [], [], rfl, by simp, by simp⟩
  have malformed := (reading_composes table PhraseBook.standard.table text).2.2.2.2.1 "sqrt" _ _
    [] [] text.toList isFirst rfl (by simp) notFinite
  exact ⟨isFirst, notFinite, understood, malformed⟩

end PatternTable

end Reckoner
