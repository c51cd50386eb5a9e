import Reckoner.Proofs.Phrase.Captures

/-! # Keywords within keywords

A keyword of two words ends in its second word, so the second word occurs wherever both do.  If it
asks for an earlier operation, the two words together never decide how a question is read.

* `Phrasing.leading_startsAt_iff`, `occursIn_leading_iff` — where one of some keywords occurs.
* `Phrasing.occursIn_leading_of_ending` — the second word occurs wherever both do.
* `PhraseBook.Commits.not_occursIn_before` — no phrasing of an earlier operation occurs.
* `PhraseBook.natural_log_shadowed` — "natural log" is read as "log".
-/

namespace Reckoner

open PhraseBook

/-! ## Keywords and their operands -/

namespace Phrasing

variable {keywords : List String} {s before after : List Char}

theorem leading_startsAt_iff : (leading keywords).StartsAt before after ↔
    atWordBoundary before.getLast? after.head? = true ∧
      ∃ keyword ∈ keywords, ∃ x ∈ language argument, ∃ rest,
        after = keyword.toList ++ (x ++ rest) := by
  refine and_congr ⟨fun boundary => boundary rfl, fun boundary _ => boundary⟩ ?_
  simp only [leading, mem_language_cons, mem_oneOf_language]
  constructor
  · rintro ⟨_, rest, ⟨_, ⟨keyword, member, rfl⟩, x, fits, rfl⟩, rfl⟩
    exact ⟨keyword, member, x, fits, rest, List.append_assoc ..⟩
  · rintro ⟨keyword, member, x, fits, rest, rfl⟩
    exact ⟨_, rest, ⟨_, ⟨keyword, member, rfl⟩, x, fits, rfl⟩, (List.append_assoc ..).symm⟩

theorem leading_startsAt_iff_single : (leading keywords).StartsAt before after ↔
    ∃ keyword ∈ keywords, (leading [keyword]).StartsAt before after := by
  simp only [leading_startsAt_iff, List.mem_singleton, exists_eq_left]
  constructor
  · rintro ⟨boundary, keyword, member, follows⟩
    exact ⟨keyword, member, boundary, follows⟩
  · rintro ⟨keyword, member, boundary, follows⟩
    exact ⟨boundary, keyword, member, follows⟩

theorem occursIn_leading_iff (keywords : List String) : (leading keywords).OccursIn s ↔
    ∃ keyword ∈ keywords, (leading [keyword]).OccursIn s := by
  constructor
  · rintro ⟨before, after, parts, starts⟩
    obtain ⟨keyword, member, starts⟩ := leading_startsAt_iff_single.mp starts
    exact ⟨keyword, member, before, after, parts, starts⟩
  · rintro ⟨keyword, member, before, after, parts, starts⟩
    exact ⟨before, after, parts, leading_startsAt_iff_single.mpr ⟨keyword, member, starts⟩⟩

/-- A keyword that is a word at the end of another occurs wherever the other does. -/
theorem occursIn_leading_of_ending {long short : String} {front : List Char} {c d : Char}
    (ending : long.toList = front ++ c :: short.toList) (first : short.toList.head? = some d)
    (boundary : atWordBoundary (some c) (some d) = true)
    (occurs : (leading [long]).OccursIn s) : (leading [short]).OccursIn s := by
  obtain ⟨before, _, rfl, starts⟩ := occurs
  obtain ⟨-, _, isLong, x, fits, rest, rfl⟩ := leading_startsAt_iff.mp starts
  obtain rfl := List.mem_singleton.mp isLong
  -- The shorter keyword stands where the longer one has its last word boundary.
  refine ⟨before ++ (front ++ [c]), short.toList ++ (x ++ rest), by simp [ending],
    leading_startsAt_iff.mpr ⟨?_, short, List.mem_singleton_self short, x, fits, rest, rfl⟩⟩
  rw [← List.append_assoc, List.getLast?_concat, List.head?_append, first]
  exact boundary

end Phrasing

/-! ## Earlier operations -/

theorem Operation.mem_all (operation : Operation) : operation ∈ Operation.all := by
  cases operation <;> decide

namespace PhraseBook

/-- Where the book commits to an operation, nothing asks for an earlier one. -/
theorem Commits.not_occursIn_before {s : List Char} {operation other : Operation} {p : Phrasing}
    (commits : standard.Commits s (group operation) p)
    (earlier : Operation.all.idxOf other < Operation.all.idxOf operation) :
    ∀ q ∈ phrasings other, ¬q.OccursIn s := by
  obtain ⟨groups, groups', split, skipped⟩ := commits.group_first
  obtain ⟨before, rest, all, rfl, isRest⟩ := List.map_eq_append_iff.mp split
  obtain ⟨operation', after, rfl, same, -⟩ := List.map_eq_cons_iff.mp isRest
  obtain rfl : operation' = operation :=
    Operation.name_injective (congrArg PhraseGroup.operation same)
  rw [all] at earlier
  have bound : (before ++ operation' :: after).idxOf operation' ≤ before.length := by
    rw [List.idxOf_append]
    split
    next => exact List.idxOf_le_length
    next => simp
  have member : other ∈ before := by
    by_contra absent
    rw [List.idxOf_append_of_notMem absent] at earlier
    omega
  exact skipped _ (List.mem_map_of_mem member)

/-- An operation decides how a question is read only if it comes no later than the others that are
asked for. -/
theorem idxOf_le_of_occursIn {s : List Char} {fit : Fit} (found : standard.firstFit? s = some fit)
    {other : Operation} (occurs : ∃ q ∈ phrasings other, q.OccursIn s) :
    ∃ operation : Operation, fit.operation = operation.name ∧
      Operation.all.idxOf operation ≤ Operation.all.idxOf other := by
  obtain ⟨operation, named, commits, -⟩ := standard_firstFit? found
  refine ⟨operation, named, ?_⟩
  by_contra later
  obtain ⟨q, member, occurs⟩ := occurs
  exact commits.not_occursIn_before (Nat.lt_of_not_le later) q member occurs

/-- A question that asks for an operation is read as this or an earlier one, or a numeral in it is
too large. -/
theorem read_of_occursIn {text : String} {other : Operation}
    (occurs : ∃ q ∈ phrasings other, q.OccursIn (Text.lower text.toList)) :
    (∃ request operation, standard.read text = .ok (some request) ∧
      request.operation = Operation.name operation ∧
        Operation.all.idxOf operation ≤ Operation.all.idxOf other) ∨
    ∃ error, standard.read text = .error error ∧ error.code = .parsing := by
  have inBook : group other ∈ standard.groups := List.mem_map_of_mem other.mem_all
  have understood : standard.understands text = true :=
    understands_iff.mpr ⟨group other, inBook, occurs⟩
  obtain ⟨fit, found⟩ := Option.isSome_iff_exists.mp understood
  obtain ⟨operation, named, notLater⟩ := idxOf_le_of_occursIn found occurs
  simp only [read, found]
  cases taken : fit.operands with
  | ok operands => exact .inl ⟨_, operation, rfl, named, notLater⟩
  | error error => exact .inr ⟨error, rfl, Fit.operands_error taken⟩

/-! ## Logarithms -/

section Logarithms

variable {s : List Char}

theorem occursIn_ln_iff : (∃ p ∈ phrasings .ln, p.OccursIn s) ↔
    (leading ["ln"]).OccursIn s ∨ (leading ["natural log"]).OccursIn s := by
  simp [phrasings, Phrasing.occursIn_leading_iff ["ln", "natural log"]]

theorem occursIn_log_of_natural_log (occurs : (leading ["natural log"]).OccursIn s) :
    ∃ p ∈ phrasings .log, p.OccursIn s := by
  have ending : "natural log".toList = "natural".toList ++ ' ' :: "log".toList := by decide
  have log := Phrasing.occursIn_leading_of_ending ending rfl rfl occurs
  refine ⟨leading ["log", "logarithm"], List.mem_singleton_self _, ?_⟩
  exact (Phrasing.occursIn_leading_iff _).mpr ⟨"log", by simp, log⟩

end Logarithms

/-- Where "natural log" is followed by an operand, so is "log", which comes before "ln": the
question is not read as "ln", whatever else is in it.  So it is the word "ln" that asks for every
"ln". -/
theorem natural_log_shadowed (text : String) :
    let lower := Text.lower text.toList
    ((∃ p ∈ phrasings .ln, p.OccursIn lower) ↔
      (leading ["ln"]).OccursIn lower ∨ (leading ["natural log"]).OccursIn lower) ∧
    ((leading ["natural log"]).OccursIn lower →
      (∃ p ∈ phrasings .log, p.OccursIn lower) ∧
      ((∃ request operation, standard.read text = .ok (some request) ∧
        request.operation = Operation.name operation ∧ operation ≠ .ln ∧
          Operation.all.idxOf operation ≤ Operation.all.idxOf .log) ∨
      ∃ error, standard.read text = .error error ∧ error.code = .parsing)) ∧
    ∀ request, standard.read text = .ok (some request) →
      request.operation = Operation.name .ln → (leading ["ln"]).OccursIn lower := by
  intro lower
  refine ⟨occursIn_ln_iff, fun natural => ?_, fun request reads named => ?_⟩
  · have log := occursIn_log_of_natural_log natural
    refine ⟨log, (read_of_occursIn log).imp_left ?_⟩
    rintro ⟨request, operation, reads, named, notLater⟩
    refine ⟨request, operation, reads, named, ?_, notLater⟩
    rintro rfl
    exact absurd notLater (by decide)
  · obtain ⟨fit, operands, found, -, rfl⟩ := exists_fit_of_read reads
    have occurs : fit.phrasing.OccursIn lower :=
      Phrasing.find?_isSome.mp (by rw [find?_of_firstFit? found]; rfl)
    obtain ⟨operation, isNamed, -, member, -⟩ := standard_firstFit? found
    obtain rfl : operation = .ln := Operation.name_injective (isNamed.symm.trans named)
    refine (occursIn_ln_iff.mp ⟨_, member, occurs⟩).resolve_right fun natural => ?_
    -- Then "log" would decide, and the request be none for "ln".
    obtain ⟨_, isNamed', notLater⟩ :=
      idxOf_le_of_occursIn found (occursIn_log_of_natural_log natural)
    obtain rfl := Operation.name_injective (isNamed.symm.trans isNamed')
    exact absurd notLater (by decide)

/-- A question with "natural log" in it, and a sine behind that. -/
theorem natural_log_shadowed_by_sine :
    let text := "Natural LOG of (100) or sin 30"
    (leading ["natural log"]).OccursIn (Text.lower text.toList) ∧
      ∃ request operation, standard.read text = .ok (some request) ∧
        request.operation = Operation.name operation ∧ operation ≠ .ln := by
  intro text
  obtain ⟨natural, finite⟩ :
      ((leading ["natural log"]).find? (Text.lower text.toList)).isSome = true ∧
        (standard.read text).isOk = true := by
    decide +kernel
  have occurs := Phrasing.find?_isSome.mp natural
  obtain ⟨-, hidden, -⟩ := natural_log_shadowed text
  obtain ⟨-, ⟨request, operation, reads, named, other, -⟩ | ⟨error, failed, -⟩⟩ := hidden occurs
  · exact ⟨occurs, request, operation, reads, named, other⟩
  · rw [failed] at finite
    cases finite

end PhraseBook

end Reckoner
