import Reckoner.Chain

/-! # Which part of a chain decides

A chain asks its parts one after another.  It goes past a part only if that part has
nothing to say, and the first other one decides: by its answer, or by its failure.

* `IsFirst` — the parts before it are skipped.
* `firstWith_decides`, `firstRequest_decides` — the first part that is not skipped decides.
* `ParserChain.Throws`, `CalculatorChain.Throws` — what a part of a chain fails with.
* `ParserChain.read_eq_error`, `CalculatorChain.evaluate_eq_error` — a chain fails with that
  and with nothing else.
-/

namespace Reckoner

/-! ## Searches -/

/-- `part` stands in the list, and the parts before it are skipped. -/
inductive IsFirst {α : Type} (skips : α → Prop) (part : α) : List α → Prop where
  | head {rest : List α} : IsFirst skips part (part :: rest)
  | tail {other : α} {rest : List α} :
      skips other → IsFirst skips part rest → IsFirst skips part (other :: rest)

theorem exists_isFirst {α : Type} (skips : α → Prop) (parts : List α) :
    (∀ part ∈ parts, skips part) ∨ ∃ part, IsFirst skips part parts ∧ ¬ skips part := by
  induction parts with
  | nil => exact .inl (by simp)
  | cons part rest ih =>
    by_cases skipped : skips part
    · rcases ih with all | ⟨later, first, stays⟩
      · exact .inl (List.forall_mem_cons.mpr ⟨skipped, all⟩)
      · exact .inr ⟨later, .tail skipped first, stays⟩
    · exact .inr ⟨part, .head, skipped⟩

section FirstWith

variable {α : Type} {test : α → Except Failure Bool} {parts : List α} {part : α}
  {failure : Failure}

theorem firstWith_cons_of_skipped (skipped : test part = .ok false) (rest : List α) :
    firstWith test (part :: rest) = firstWith test rest := by
  simp [firstWith, skipped, bind, Except.bind]

theorem firstWith_of_all_skipped (skipped : ∀ part ∈ parts, test part = .ok false) :
    firstWith test parts = .ok none := by
  induction parts with
  | nil => rfl
  | cons part rest ih =>
    obtain ⟨here, later⟩ := List.forall_mem_cons.mp skipped
    rw [firstWith_cons_of_skipped here, ih later]

theorem firstWith_decides (first : IsFirst (test · = .ok false) part parts)
    (stays : test part ≠ .ok false) :
    firstWith test parts = (test part).map fun _ => some part := by
  induction first with
  | head =>
    cases tested : test part with
    | error thrown => simp [firstWith, tested, bind, Except.bind, Except.map]
    | ok holds =>
      cases holds with
      | false => exact absurd tested stays
      | true => simp [firstWith, tested, bind, Except.bind, pure, Except.pure, Except.map]
  | tail skipped _ ih => rw [firstWith_cons_of_skipped skipped, ih]

theorem firstWith_eq_error :
    firstWith test parts = .error failure ↔
      ∃ part, IsFirst (test · = .ok false) part parts ∧ test part = .error failure := by
  constructor
  · intro failed
    rcases exists_isFirst (test · = .ok false) parts with all | ⟨part, first, stays⟩
    · rw [firstWith_of_all_skipped all] at failed
      cases failed
    · rw [firstWith_decides first stays] at failed
      cases tested : test part with
      | error thrown =>
        rw [tested] at failed
        cases failed
        exact ⟨part, first, tested⟩
      | ok holds =>
        rw [tested] at failed
        cases failed
  · rintro ⟨part, first, thrown⟩
    rw [firstWith_decides first (by simp [thrown]), thrown]
    rfl

theorem firstWith_eq_some :
    firstWith test parts = .ok (some part) ↔
      IsFirst (test · = .ok false) part parts ∧ test part = .ok true := by
  constructor
  · intro found
    rcases exists_isFirst (test · = .ok false) parts with all | ⟨other, first, stays⟩
    · rw [firstWith_of_all_skipped all] at found
      cases found
    · rw [firstWith_decides first stays] at found
      cases tested : test other with
      | error thrown =>
        rw [tested] at found
        cases found
      | ok holds =>
        rw [tested] at found
        cases found
        cases holds with
        | false => exact absurd tested stays
        | true => exact ⟨first, tested⟩
  · rintro ⟨first, holds⟩
    rw [firstWith_decides first (by simp [holds]), holds]
    rfl

theorem firstWith_eq_none :
    firstWith test parts = .ok none ↔ ∀ part ∈ parts, test part = .ok false := by
  constructor
  · intro nowhere
    rcases exists_isFirst (test · = .ok false) parts with all | ⟨part, first, stays⟩
    · exact all
    · rw [firstWith_decides first stays] at nowhere
      cases tested : test part with
      | error thrown => simp [tested, Except.map] at nowhere
      | ok holds => simp [tested, Except.map] at nowhere
  · exact firstWith_of_all_skipped

end FirstWith

/-! ## Parsers -/

/-- The parser has nothing to say about the text: it does not claim it, or makes no request
    of it. -/
inductive Parser.Declines (text : String) (parser : Parser) : Prop where
  | unclaimed : parser.claims text = .ok false → Declines text parser
  | silent : parser.claims text = .ok true → parser.read text = .ok none → Declines text parser

inductive Parser.Throws (text : String) (parser : Parser) (failure : Failure) : Prop where
  | claiming : parser.claims text = .error failure → Throws text parser failure
  | reading : parser.claims text = .ok true → parser.read text = .error failure →
      Throws text parser failure

section FirstRequest

variable {text : String} {parsers : List Parser} {parser : Parser} {failure : Failure}

theorem firstRequest_cons_of_declines (declines : parser.Declines text) (rest : List Parser) :
    firstRequest text (parser :: rest) = firstRequest text rest := by
  cases declines with
  | unclaimed claims => simp [firstRequest, claims, bind, Except.bind]
  | silent claims reads => simp [firstRequest, claims, reads, bind, Except.bind]

theorem firstRequest_of_all_decline (decline : ∀ parser ∈ parsers, parser.Declines text) :
    firstRequest text parsers = .ok none := by
  induction parsers with
  | nil => rfl
  | cons parser rest ih =>
    obtain ⟨here, later⟩ := List.forall_mem_cons.mp decline
    rw [firstRequest_cons_of_declines here, ih later]

/-- The first parser that has something to say is the only one that matters. -/
theorem firstRequest_decides (first : IsFirst (Parser.Declines text) parser parsers)
    (speaks : ¬ parser.Declines text) :
    firstRequest text parsers = firstRequest text [parser] := by
  induction first with
  | head =>
    cases claims : parser.claims text with
    | error thrown => simp [firstRequest, claims, bind, Except.bind]
    | ok claimed =>
      cases claimed with
      | false => exact absurd (.unclaimed claims) speaks
      | true =>
        cases reads : parser.read text with
        | error thrown => simp [firstRequest, claims, reads, bind, Except.bind]
        | ok request? =>
          cases request? with
          | none => exact absurd (.silent claims reads) speaks
          | some request => simp [firstRequest, claims, reads, bind, Except.bind]
  | tail declines _ ih => rw [firstRequest_cons_of_declines declines, ih]

theorem firstRequest_singleton_eq_error :
    firstRequest text [parser] = .error failure ↔ parser.Throws text failure := by
  constructor
  · intro failed
    cases claims : parser.claims text with
    | error thrown =>
      simp only [firstRequest, claims, bind, Except.bind, Except.error.injEq] at failed
      exact .claiming (failed ▸ claims)
    | ok claimed =>
      cases claimed with
      | false => simp [firstRequest, claims, bind, Except.bind] at failed
      | true =>
        cases reads : parser.read text with
        | error thrown =>
          simp only [firstRequest, claims, reads, bind, Except.bind, if_true,
            Except.error.injEq] at failed
          exact .reading claims (failed ▸ reads)
        | ok request? =>
          cases request? <;>
            simp [firstRequest, claims, reads, bind, Except.bind, pure, Except.pure] at failed
  · intro throws
    cases throws with
    | claiming claims => simp [firstRequest, claims, bind, Except.bind]
    | reading claims reads => simp [firstRequest, claims, reads, bind, Except.bind]

theorem Parser.Throws.not_declines (throws : parser.Throws text failure) :
    ¬ parser.Declines text := by
  intro declines
  cases throws with
  | claiming failed =>
    cases declines with
    | unclaimed claims => simp [failed] at claims
    | silent claims _ => simp [failed] at claims
  | reading claimed failed =>
    cases declines with
    | unclaimed claims => simp [claimed] at claims
    | silent _ reads => simp [failed] at reads

theorem firstRequest_eq_error :
    firstRequest text parsers = .error failure ↔
      ∃ parser, IsFirst (Parser.Declines text) parser parsers ∧ parser.Throws text failure := by
  constructor
  · intro failed
    rcases exists_isFirst (Parser.Declines text) parsers with all | ⟨parser, first, speaks⟩
    · rw [firstRequest_of_all_decline all] at failed
      cases failed
    · rw [firstRequest_decides first speaks] at failed
      exact ⟨parser, first, firstRequest_singleton_eq_error.mp failed⟩
  · rintro ⟨parser, first, throws⟩
    rw [firstRequest_decides first throws.not_declines]
    exact firstRequest_singleton_eq_error.mpr throws

end FirstRequest

/-- A parser of the chain fails while it is asked about the text, and those that are asked
    before it have nothing to say. -/
def ParserChain.Throws (chain : ParserChain) (text : String) (failure : Failure) : Prop :=
  ∃ parser, IsFirst (Parser.Declines text) parser (chain.ranked.map (·.part)) ∧
    parser.Throws text failure

theorem ParserChain.read_eq_error {chain : ParserChain} {text : String} {failure : Failure} :
    chain.read text = .error failure ↔ chain.Throws text failure :=
  firstRequest_eq_error

/-! ## Calculators -/

/-- A calculator of the chain fails while it is asked about the operation or evaluates it, or
    there is none for it. -/
inductive CalculatorChain.Throws (chain : CalculatorChain) (operation : String)
    (operands : List Binary64) : Failure → Prop where
  | asking {member : Member Calculator} {failure : Failure} :
      IsFirst (·.part.supports operation = .ok false) member chain.ranked →
        member.part.supports operation = .error failure → Throws chain operation operands failure
  | evaluating {member : Member Calculator} {failure : Failure} :
      IsFirst (·.part.supports operation = .ok false) member chain.ranked →
        member.part.supports operation = .ok true →
          member.part.evaluate operation operands = .error failure →
            Throws chain operation operands failure
  | unsupported :
      (∀ member ∈ chain.ranked, member.part.supports operation = .ok false) →
        Throws chain operation operands (.calculation (.unsupportedOperation operation))

namespace CalculatorChain

variable {chain : CalculatorChain} {operation : String} {operands : List Binary64}
  {failure : Failure}

theorem evaluate_of_find?_some {member : Member Calculator}
    (found : chain.find? operation = .ok (some member)) :
    chain.evaluate operation operands = member.part.evaluate operation operands := by
  simp [evaluate, found, evaluateWith, bind, Except.bind]

theorem evaluate_of_find?_none (found : chain.find? operation = .ok none) :
    chain.evaluate operation operands =
      .error (.calculation (.unsupportedOperation operation)) := by
  simp [evaluate, found, evaluateWith, bind, Except.bind]

theorem evaluate_of_find?_error (failed : chain.find? operation = .error failure) :
    chain.evaluate operation operands = .error failure := by
  simp [evaluate, failed, bind, Except.bind]

theorem evaluate_eq_error :
    chain.evaluate operation operands = .error failure ↔
      chain.Throws operation operands failure := by
  constructor
  · intro failed
    cases found : chain.find? operation with
    | error thrown =>
      rw [evaluate_of_find?_error found] at failed
      cases failed
      obtain ⟨member, first, supports⟩ := firstWith_eq_error.mp found
      exact .asking first supports
    | ok member? =>
      cases member? with
      | none =>
        rw [evaluate_of_find?_none found] at failed
        cases failed
        exact .unsupported (firstWith_eq_none.mp found)
      | some member =>
        rw [evaluate_of_find?_some found] at failed
        obtain ⟨first, supports⟩ := firstWith_eq_some.mp found
        exact .evaluating first supports failed
  · intro throws
    cases throws with
    | asking first supports =>
      exact evaluate_of_find?_error (firstWith_eq_error.mpr ⟨_, first, supports⟩)
    | evaluating first supports failed =>
      rw [evaluate_of_find?_some (firstWith_eq_some.mpr ⟨first, supports⟩), failed]
    | unsupported none => exact evaluate_of_find?_none (firstWith_eq_none.mpr none)

end CalculatorChain

end Reckoner
