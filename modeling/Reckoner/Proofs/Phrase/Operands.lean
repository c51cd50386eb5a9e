import Reckoner.Proofs.Evaluation
import Reckoner.Proofs.Phrase.Search

/-! # The operands of a request

Every phrasing of an operation captures as many numerals as any other, and with the
exponent that `square` and `cube` imply they are as many as the operation takes:

* `mapM_readOperand` — operands are the numbers of numerals, and all finite.
* `Operation.operandCount` — how many operands a question gives an operation.
* `PhraseBook.isFor_of_standard_read` — the request that a question makes.
-/

namespace Reckoner

/-! ## Reading numerals -/

theorem readOperand_of_finite {numeral : List Char}
    (finite : (Binary64.read numeral).isFinite = true) :
    readOperand numeral = .ok (Binary64.read numeral) :=
  if_pos finite

theorem readOperand_of_not_finite {numeral : List Char}
    (notFinite : ¬ (Binary64.read numeral).isFinite = true) :
    readOperand numeral = .error (.parsing (.notFinite (String.ofList numeral))) :=
  if_neg notFinite

/-- Numerals are read as operands exactly if all of them are finite. -/
theorem mapM_readOperand {numerals : List (List Char)} {operands : List Binary64} :
    numerals.mapM readOperand = .ok operands ↔
      operands = numerals.map Binary64.read ∧ ∀ x ∈ operands, x.isFinite = true := by
  induction numerals generalizing operands with
  | nil =>
    constructor
    · rintro ⟨⟩
      exact ⟨rfl, by simp⟩
    · rintro ⟨rfl, _⟩
      rfl
  | cons numeral numerals ih =>
    rw [List.mapM_cons, List.map_cons]
    by_cases finite : (Binary64.read numeral).isFinite = true
    · rw [readOperand_of_finite finite]
      cases others : numerals.mapM readOperand with
      | error error =>
        constructor
        · rintro ⟨⟩
        · rintro ⟨rfl, allFinite⟩
          have tailFinite := (List.forall_mem_cons.mp allFinite).2
          rw [ih.mpr ⟨rfl, tailFinite⟩] at others
          cases others
      | ok rest =>
        obtain ⟨rfl, restFinite⟩ := ih.mp others
        constructor
        · rintro ⟨⟩
          exact ⟨rfl, List.forall_mem_cons.mpr ⟨finite, restFinite⟩⟩
        · rintro ⟨rfl, _⟩
          rfl
    · rw [readOperand_of_not_finite finite]
      constructor
      · rintro ⟨⟩
      · rintro ⟨rfl, allFinite⟩
        exact absurd (allFinite _ List.mem_cons_self) finite

theorem mapM_readOperand_error {numerals : List (List Char)} {error : CalcError}
    (failed : numerals.mapM readOperand = .error error) : error.code = .parsing := by
  induction numerals with
  | nil => cases failed
  | cons numeral numerals ih =>
    rw [List.mapM_cons] at failed
    by_cases finite : (Binary64.read numeral).isFinite = true
    · rw [readOperand_of_finite finite] at failed
      cases others : numerals.mapM readOperand with
      | error later =>
        rw [others] at failed
        cases failed
        exact ih others
      | ok rest =>
        rw [others] at failed
        cases failed
    · rw [readOperand_of_not_finite finite] at failed
      cases failed
      rfl

/-- The operands of a fit are the numbers of its numerals, in the order of the operation. -/
theorem Fit.operands_eq_ok {fit : Fit} {operands : List Binary64}
    (read : fit.operands = .ok operands) :
    operands =
        (if fit.phrasing.isReversed then (fit.numerals.map Binary64.read).reverse
          else fit.numerals.map Binary64.read) ∧
      ∀ x ∈ operands, x.isFinite = true := by
  unfold Fit.operands at read
  cases captured : fit.numerals.mapM readOperand with
  | error error =>
    rw [captured] at read
    cases read
  | ok inOrder =>
    rw [captured] at read
    obtain ⟨rfl, finite⟩ := mapM_readOperand.mp captured
    cases read
    cases fit.phrasing.isReversed with
    | false => exact ⟨rfl, finite⟩
    | true => exact ⟨rfl, by simpa using finite⟩

theorem Fit.length_operands {fit : Fit} {operands : List Binary64}
    (read : fit.operands = .ok operands) : operands.length = fit.numerals.length := by
  rw [(Fit.operands_eq_ok read).1]
  split <;> simp

theorem Fit.operands_error {fit : Fit} {error : CalcError} (failed : fit.operands = .error error) :
    error.code = .parsing := by
  unfold Fit.operands at failed
  cases captured : fit.numerals.mapM readOperand with
  | error error =>
    rw [captured] at failed
    cases failed
    exact mapM_readOperand_error captured
  | ok inOrder =>
    rw [captured] at failed
    cases failed

/-! ## Counting operands -/

/-- How many operands a question gives an operation. -/
def Operation.operandCount : Operation → Nat
  | add | subtract | multiply | divide | power | square | cube => 2
  | sqrt | cbrt | sin | cos | tan | log | ln | factorial => 1

theorem countP_captures (operation : Operation) :
    ∀ p ∈ PhraseBook.phrasings operation,
      p.pieces.countP Piece.captures + operation.impliedExponent?.toList.length =
        operation.operandCount := by
  cases operation <;> decide

theorem impliedExponent?_isFinite {operation : Operation} {exponent : Binary64}
    (implied : operation.impliedExponent? = some exponent) : exponent.isFinite = true := by
  have two : (2 : Binary64).isFinite = true := by decide +kernel
  have three : (3 : Binary64).isFinite = true := by decide +kernel
  cases operation <;>
    simp only [Operation.impliedExponent?, reduceCtorEq, Option.some.injEq] at implied
  case square => exact implied ▸ two
  case cube => exact implied ▸ three

theorem operandCount_of_implied {operation : Operation} {exponent : Binary64}
    (implied : operation.impliedExponent? = some exponent) : operation.operandCount = 2 := by
  cases operation <;> first | rfl | simp [Operation.impliedExponent?] at implied

/-- The exponent that an operation implies completes a base alone. -/
theorem completeOperands_of_captured {operation : Operation} {operands : List Binary64}
    (count : operands.length + operation.impliedExponent?.toList.length =
      operation.operandCount) :
    completeOperands operation.name operands =
      operands ++ operation.impliedExponent?.toList := by
  simp only [completeOperands, Operation.ofName?_name, Option.bind_some]
  cases implied : operation.impliedExponent? with
  | none => simp
  | some exponent =>
    -- An implied exponent leaves one operand to capture, the base.
    rw [implied, operandCount_of_implied implied] at count
    obtain ⟨base, rfl⟩ := List.length_eq_one_iff.mp (by simpa using count)
    rfl

theorem completeOperands_of_operandCount {operation : Operation} {operands : List Binary64}
    (count : operands.length = operation.operandCount) :
    completeOperands operation.name operands = operands := by
  simp only [completeOperands, Operation.ofName?_name, Option.bind_some]
  cases implied : operation.impliedExponent? with
  | none => rfl
  | some exponent =>
    rw [operandCount_of_implied implied] at count
    obtain ⟨base, given, rfl⟩ := List.length_eq_two.mp count
    rfl

theorem accepts_operandCount (operation : Operation) :
    operation.arity.accepts operation.operandCount = true := by
  cases operation <;> rfl

/-! ## Requests -/

/-- A request for an operation of the calculator, with as many operands as a question
    gives it, all of them finite. -/
structure Request.IsFor (request : Request) (operation : Operation) : Prop where
  named : request.operation = operation.name
  count : request.operands.length = operation.operandCount
  finite : ∀ x ∈ request.operands, x.isFinite = true

namespace PhraseBook

theorem exists_fit_of_read {book : PhraseBook} {text : String} {request : Request}
    (read : book.read text = .ok (some request)) :
    ∃ fit operands, book.firstFit? (Text.lower text.toList) = some fit ∧
      fit.operands = .ok operands ∧
      request =
        { operation := fit.operation
          operands := completeOperands fit.operation operands
          question := text } := by
  unfold PhraseBook.read at read
  split at read
  · cases read
  next fit found =>
    cases taken : fit.operands with
    | error error => simp [taken, Except.map] at read
    | ok operands =>
      simp only [taken, Except.map, Except.ok.injEq, Option.some.injEq] at read
      exact ⟨fit, operands, found, taken, read.symm⟩

theorem code_of_read {book : PhraseBook} {text : String} {error : CalcError}
    (failed : book.read text = .error error) : error.code = .parsing := by
  unfold PhraseBook.read at failed
  split at failed
  · cases failed
  next fit _ =>
    cases taken : fit.operands with
    | error fault =>
      simp only [taken, Except.map, Except.error.injEq] at failed
      exact failed ▸ Fit.operands_error taken
    | ok operands => simp [taken, Except.map] at failed

/-- A fit of the standard book belongs to an operation, and captures the operands that
    the operation does not imply. -/
theorem standard_firstFit? {s : List Char} {fit : Fit}
    (found : standard.firstFit? s = some fit) :
    ∃ operation : Operation, fit.operation = operation.name ∧
      standard.Commits s (PhraseBook.group operation) fit.phrasing ∧
      fit.phrasing ∈ phrasings operation ∧
      fit.numerals.length + operation.impliedExponent?.toList.length =
        operation.operandCount := by
  obtain ⟨group, before, x, after, named, commits, _, spelt⟩ := firstFit?_commits found
  obtain ⟨_, _, groups, _⟩ := commits.group_first
  obtain ⟨_, _, inGroup, _⟩ := commits.phrasing_first
  -- Each group of the standard book belongs to an operation and has its name.
  have inBook : group ∈ standard.groups := by simp [groups]
  obtain ⟨operation, _, rfl⟩ := List.mem_map.mp inBook
  have member : fit.phrasing ∈ phrasings operation := by
    show fit.phrasing ∈ (PhraseBook.group operation).phrasings
    simp [inGroup]
  refine ⟨operation, named, commits, member, ?_⟩
  rw [spelt.length_numerals, countP_captures operation _ member]

theorem isFor_of_standard_read {text : String} {request : Request}
    (read : standard.read text = .ok (some request)) :
    ∃ operation, request.IsFor operation := by
  obtain ⟨fit, operands, found, taken, rfl⟩ := exists_fit_of_read read
  obtain ⟨operation, named, _, _, count⟩ := standard_firstFit? found
  obtain ⟨_, finite⟩ := Fit.operands_eq_ok taken
  rw [← Fit.length_operands taken] at count
  have completed := completeOperands_of_captured count
  simp only [named, completed]
  refine ⟨operation, rfl, ?_, ?_⟩
  · rw [List.length_append, count]
  · intro x member
    rcases List.mem_append.mp member with captured | implied
    · exact finite x captured
    · exact impliedExponent?_isFinite (Option.mem_toList.mp implied)

end PhraseBook

end Reckoner
