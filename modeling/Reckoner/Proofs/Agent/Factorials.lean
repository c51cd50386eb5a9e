import Reckoner.Proofs.Agent.Replay
import Reckoner.Proofs.Decimal.Whole
import Reckoner.Proofs.Evaluation.Factorial
import Reckoner.Proofs.Phrase.Documented
import Reckoner.Proofs.Text.Words

/-! # Questions for a factorial

"n!", "n factorial" and "factorial of n" are answered with the exact factorial, all its digits
shown and recorded, up to the limit that is set; above it they are refused:

* `factorialQuestions` — the questions for the factorial of a number.
* `normalizeText?_of_asks`, `command?_of_asks`, `read_of_asks` — what is made of them.
* `Agent.answer_factorial` — what they are answered with.
-/

namespace Reckoner

/-- The questions for the factorial of `n`, which is written in decimal. -/
def factorialQuestions (n : Nat) : List String :=
  [toString n ++ "!", toString n ++ " factorial", "factorial of " ++ toString n]

theorem isNumeral_digitChars (n : Nat) : IsNumeral (digitChars n) := by
  obtain ⟨c, rest, split⟩ := List.exists_cons_of_ne_nil (digitChars_ne_nil n)
  have digits := fun c => isDigit_of_mem_digitChars (n := n) (c := c)
  rw [split] at digits ⊢
  obtain ⟨first, others⟩ := List.forall_mem_cons.mp digits
  exact .inl ⟨c, rest, [], by simp, first, others, .inl rfl⟩

/-- The documented ways to ask for a factorial with no more than spaces around the words. -/
def factorialTemplates : List Template :=
  [.trailing "!", .trailing "factorial", .of "factorial"]

/-- All that is left to read of a text of one of these forms is the operand. -/
def IsFactorialForm (template : Template) : Bool :=
  template.all TemplatePart.isPlain &&
    (firstSketchFit? template.sketch PhraseBook.standard.entries).any fun fit =>
      fit.operation = Operation.factorial.name ∧ fit.inOrder = [.first]

theorem factorialTemplates_certain : factorialTemplates.all IsFactorialForm = true := by
  decide +kernel

section Asks

variable {n : Nat} {question : String} (asks : question ∈ factorialQuestions n)
include asks

/-! ## Normalisation -/

theorem exists_words_of_asks :
    ∃ words, (∀ w ∈ words, Text.IsWord w) ∧ words ≠ [] ∧
      question = String.ofList (Text.spaced words) := by
  have inked {c : Char} (digit : c ∈ digitChars n) : Text.isBlank c = false :=
    isBlank_of_isDigit (isDigit_of_mem_digitChars digit)
  have number : Text.IsWord (digitChars n) := ⟨digitChars_ne_nil n, fun _ => inked⟩
  have keyword : Text.IsWord "factorial".toList := Text.isWord_of_all (by decide) (by decide)
  have link : Text.IsWord "of".toList := Text.isWord_of_all (by decide) (by decide)
  have marked : Text.IsWord (digitChars n ++ ['!']) := by
    refine ⟨by simp, fun c member => ?_⟩
    rcases List.mem_append.mp member with digit | mark
    · exact inked digit
    · rw [List.mem_singleton.mp mark]
      decide
  simp only [factorialQuestions, List.mem_cons, List.not_mem_nil, or_false] at asks
  rcases asks with rfl | rfl | rfl
  · refine ⟨[digitChars n ++ ['!']], by simpa using marked, by simp, ?_⟩
    rw [← String.toList_inj]
    simp [Text.spaced_singleton, digitChars]
  · refine ⟨[digitChars n, "factorial".toList], by simpa using ⟨number, keyword⟩, by simp, ?_⟩
    rw [← String.toList_inj]
    simp [Text.spaced_cons_cons, Text.spaced_singleton, digitChars]
  · refine ⟨["factorial".toList, "of".toList, digitChars n],
      by simpa using ⟨keyword, link, number⟩, by simp, ?_⟩
    rw [← String.toList_inj]
    simp [Text.spaced_cons_cons, Text.spaced_singleton, digitChars]

theorem normalizeText?_of_asks : normalizeText? question = some question := by
  obtain ⟨words, areWords, nonempty, rfl⟩ := exists_words_of_asks asks
  exact normalizeText?_spaced areWords nonempty

/-! ## Reading -/

theorem exists_template_of_asks :
    ∃ template ∈ factorialTemplates, template.Writes (fun _ => digitChars n) question.toList := by
  have space : TemplatePart.gap.Writes (fun _ => digitChars n) [' '] := PhraseBook.writes_gap rfl
  have nothing : TemplatePart.gap.Writes (fun _ => digitChars n) [] := PhraseBook.writes_gap rfl
  simp only [factorialQuestions, List.mem_cons, List.not_mem_nil, or_false] at asks
  rcases asks with rfl | rfl | rfl
  · exact ⟨.trailing "!", by decide, digitChars n, _, by simp [digitChars], rfl,
      [], _, rfl, nothing, "!".toList, [], rfl, rfl, rfl⟩
  · exact ⟨.trailing "factorial", by decide, digitChars n, _, by simp [digitChars], rfl,
      [' '], _, rfl, space, "factorial".toList, [], rfl, rfl, rfl⟩
  · exact ⟨.of "factorial", by decide,
      "factorial".toList, " of ".toList ++ digitChars n, by simp [digitChars], rfl,
      [' '], "of ".toList ++ digitChars n, rfl, space,
      "of".toList, ' ' :: digitChars n, rfl, rfl,
      [' '], digitChars n, rfl, space, digitChars n, [], by simp, rfl, rfl⟩

theorem exists_fit_of_asks : ∃ sketch fit,
    firstSketchFit? sketch PhraseBook.standard.entries = some fit ∧
      fit.operation = Operation.factorial.name ∧ fit.inOrder = [.first] ∧
      Sketch.Covers (fun _ => digitChars n) sketch (Text.lower question.toList) := by
  -- The sketch of a template is checked once, whatever the numeral in it is.
  obtain ⟨template, known, writes⟩ := exists_template_of_asks asks
  have form := List.all_eq_true.mp factorialTemplates_certain template known
  obtain ⟨plain, isCertain⟩ := Bool.and_eq_true_iff.mp form
  obtain ⟨fit, certain, settled⟩ := (Option.any_eq_true ..).mp isCertain
  obtain ⟨named, places⟩ := of_decide_eq_true settled
  exact ⟨template.sketch, fit, certain, named, places,
    Template.covers_lower (fun _ => isNumeral_digitChars n) (List.all_eq_true.mp plain) writes⟩

theorem read_of_asks (small : n < 2 ^ 53) :
    PhraseBook.standard.read question =
      .ok (some
        { operation := Operation.factorial.name
          operands := [Binary64.read (digitChars n)]
          question }) := by
  obtain ⟨sketch, fit, certain, named, places, covers⟩ := exists_fit_of_asks asks
  have finite := Binary64.isFinite_of_toInt? (Binary64.toInt?_read_digitChars small)
  rw [PhraseBook.read_of_sketch (fun _ => isNumeral_digitChars n) certain covers fun _ => finite,
    named, places, List.map_singleton, completeOperands_factorial]

end Asks

/-! ## Commands -/

theorem firstFit?_of_command : (["help", "history", "clear"].all fun name =>
    (PhraseBook.standard.firstFit? name.toList).isNone) = true := by
  decide +kernel

/-- A command is no calculation. -/
theorem command?_of_read {question : String} {request : Request}
    (read : PhraseBook.standard.read question = .ok (some request)) :
    Agent.command? question = none := by
  rw [Agent.command?_eq_none]
  intro isCommand
  -- No phrase fits the word of a command, so nothing would have been read.
  have nothing := List.all_eq_true.mp firstFit?_of_command _ isCommand
  rw [String.toList_ofList, Option.isNone_iff_eq_none] at nothing
  simp only [PhraseBook.read, nothing] at read
  cases read

/-! ## Answers -/

theorem Value.text_natCast (n : Nat) : (Value.whole n).text = toString n := by
  have unsigned : ¬ (n : Int) < 0 := Int.not_lt.mpr (Int.natCast_nonneg n)
  simp [Value.text, wholeChars, unsigned, digitChars, Nat.repr]

theorem History.latest?_record (h : History) (entry : Entry) :
    (h.record entry).latest? = some entry := by
  have positive := h.capacity_pos
  simp only [latest?, record, newest, List.getLast?_drop, List.length_append, List.length_singleton,
    List.getLast?_concat]
  rw [if_neg (by omega)]

namespace Agent

section Standard

variable (s : Settings) (history : History) (now : Binary64) {n : Nat} {question : String}
  (asks : question ∈ factorialQuestions n) (small : n < 2 ^ 53)
include asks small

/-- The question gets past normalisation, commands and parsers as a request for a factorial. -/
theorem answer_of_asks :
    (standard s history).answer now (.text question) =
      (standard s history).fulfil now question
        { operation := Operation.factorial.name
          operands := [Binary64.read (digitChars n)]
          question } := by
  have read := read_of_asks asks small
  have parsed : (standard s history).parsers.read question =
      liftFailure (PhraseBook.standard.read question) := standard_parsers_read question
  rw [read] at parsed
  simp only [answer, answerText, normalizeText?_of_asks asks, command?_of_read read, ask, parsed,
    liftFailure, Except.mapError]

theorem answer_within {m : Nat} (limit : s.maxFactorial.toInt? = some (m : Int)) (within : n ≤ m) :
    ((standard s history).answer now (.text question)).outcome =
        .result "factorial" (.whole n.factorial) ("The answer is " ++ toString n.factorial) ∧
      ((standard s history).answer now (.text question)).agent.history.latest? =
        some
          { query := question
            result := toString n.factorial
            operationType := "factorial"
            timestamp := now } := by
  have evaluated : (standard s history).calculators.evaluate Operation.factorial.name
      [Binary64.read (digitChars n)] = liftFailure _ := standard_calculators_evaluate ..
  rw [evaluate_factorial limit (Binary64.toInt?_read_digitChars small),
    if_neg (Nat.not_lt.mpr within)] at evaluated
  rw [answer_of_asks s history now asks small]
  simp only [fulfil, evaluated, liftFailure, Except.mapError, Value.text_natCast, Texts.answer]
  exact ⟨rfl, History.latest?_record ..⟩

theorem answer_above {m : Nat} (limit : s.maxFactorial.toInt? = some (m : Int)) (above : m < n) :
    ((standard s history).answer now (.text question)).outcome =
        .failure (.known .invalidDomain)
          (CalcError.invalidDomain (.factorialAbove s.maxFactorial.text)).message ∧
      ((standard s history).answer now (.text question)).agent = standard s history := by
  have evaluated : (standard s history).calculators.evaluate Operation.factorial.name
      [Binary64.read (digitChars n)] = liftFailure _ := standard_calculators_evaluate ..
  rw [evaluate_factorial limit (Binary64.toInt?_read_digitChars small), if_pos above] at evaluated
  rw [answer_of_asks s history now asks small]
  simp only [fulfil, evaluated, liftFailure, Except.mapError, evaluationFailed, and_true]
  rfl

end Standard

/-- A factorial up to the limit is answered exactly and recorded so, in whichever way it is
asked for; one above the limit is refused and leaves the agent as it was. -/
theorem answer_factorial {s : Settings} {a : Agent} (reachable : Reachable s a) {m n : Nat}
    (limit : s.maxFactorial.toInt? = some (m : Int)) (small : n < 2 ^ 53) {question : String}
    (asks : question ∈ factorialQuestions n) (now : Binary64) :
    (n ≤ m →
      (a.answer now (.text question)).outcome =
          .result "factorial" (.whole n.factorial) ("The answer is " ++ toString n.factorial) ∧
        (a.answer now (.text question)).agent.history.latest? =
          some
            { query := question
              result := toString n.factorial
              operationType := "factorial"
              timestamp := now }) ∧
    (m < n →
      (a.answer now (.text question)).outcome =
          .failure (.known .invalidDomain)
            (CalcError.invalidDomain (.factorialAbove s.maxFactorial.text)).message ∧
        (a.answer now (.text question)).agent = a) := by
  obtain ⟨history, rfl⟩ := reachable.eq_standard
  exact ⟨answer_within s history now asks small limit, answer_above s history now asks small limit⟩

/-- The factorial of zero, and one that is above the standard limit. -/
theorem answer_factorial_at_bounds :
    (fresh.answer 0 (.text "factorial of 0")).outcome =
        .result "factorial" (.whole 1) "The answer is 1" ∧
      (fresh.answer 0 (.text "10001!")).agent = fresh := by
  have limit : Settings.standard.maxFactorial.toInt? = some ((10000 : Nat) : Int) := by
    decide +kernel
  have asksZero : "factorial of 0" ∈ factorialQuestions 0 := by decide
  have asksMore : "10001!" ∈ factorialQuestions 10001 := by decide
  have lower := answer_factorial reachable_fresh limit (by decide) asksZero 0
  have upper := answer_factorial reachable_fresh limit (by decide) asksMore 0
  exact ⟨(lower.1 (by decide)).1, (upper.2 (by decide)).2⟩

end Agent

end Reckoner
