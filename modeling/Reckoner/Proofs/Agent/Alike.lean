import Reckoner.Proofs.Agent.Reachable
import Reckoner.Proofs.Text.LowerCase
import Reckoner.Proofs.Text.Runs

/-! # Questions that are alike

Blanks and letter case do not count: what a question is answered with depends on the lower case of
its normal form, and only the entry for it tells how it was typed.

* `loweredForm?` — the lower case of the normal form.
* `isExitCommand_iff` — the words that end a conversation are told by it.
* `PhraseBook.read_congr` — so is what is read of a question.
* `Reply.Alike`, `Agent.answerText_alike` — so is what it is answered with.
* `Agent.normal_form_decides` — all this of the agents of the library.
-/

namespace Reckoner

/-- The lower case of the normal form of a question. -/
def loweredForm? (typed : String) : Option String :=
  (normalizeText? typed).map fun text => String.ofList (Text.lower text.toList)

/-! ## Ending a conversation -/

theorem exitCommands_inked :
    ∀ word ∈ exitCommands, word ≠ "" ∧ ∀ c ∈ word.toList, Text.isBlank c = false := by
  have checked : ∀ word ∈ exitCommands, word ≠ "" ∧ word.toList.any Text.isBlank = false := by
    decide
  simpa only [List.any_eq_false, Bool.not_eq_true] using checked

/-- A text whose lower case has no blanks has none itself. -/
theorem inked_of_lower {s : List Char} (inked : ∀ c ∈ Text.lower s, Text.isBlank c = false) :
    ∀ c ∈ s, Text.isBlank c = false := by
  intro c member
  by_contra blank
  rw [Bool.not_eq_false] at blank
  have kept := inked c (Text.mem_lower (Text.lowersToItself_of_isBlank blank) member)
  rw [blank] at kept
  cases kept

theorem inked_of_squeeze {s : List Char} (inked : ∀ c ∈ Text.squeeze s, Text.isBlank c = false) :
    ∀ c ∈ s, Text.isBlank c = false := by
  intro c member
  by_contra blank
  rw [Bool.not_eq_false] at blank
  exact absurd (inked _ (Text.space_mem_squeeze blank member)) (by decide)

theorem normalizeText?_eq_some {s text : String} :
    normalizeText? s = some text ↔
      text ≠ "" ∧ Text.squeeze (Text.trim s.toList) = text.toList := by
  unfold normalizeText?
  cases Text.squeeze (Text.trim s.toList) with
  | nil =>
    simp only [reduceCtorEq, false_iff, not_and]
    intro nonempty empty
    exact nonempty (String.toList_inj.mp empty.symm)
  | cons c rest =>
    simp only [Option.some.injEq]
    constructor
    · rintro rfl
      simp
    · rintro ⟨_, whole⟩
      rw [whole, String.ofList_toList]

theorem isExitCommand_iff {line : String} :
    isExitCommand line = true ↔ ∃ word ∈ exitCommands, loweredForm? line = some word := by
  rw [isExitCommand, List.contains_iff_mem]
  constructor
  · intro known
    obtain ⟨nonempty, inked⟩ := exitCommands_inked _ known
    rw [String.toList_ofList] at inked
    -- The line is a single word, so there is nothing to squeeze.
    have squeezed := Text.squeeze_inked (inked_of_lower inked)
    have isText : Text.trim line.toList ≠ [] := by
      intro empty
      rw [empty] at nonempty
      exact nonempty rfl
    have normalized : normalizeText? line = some (String.ofList (Text.trim line.toList)) :=
      normalizeText?_eq_some.mpr ⟨by simpa using isText, by rw [squeezed, String.toList_ofList]⟩
    exact ⟨_, known, by rw [loweredForm?, normalized, Option.map_some, String.toList_ofList]⟩
  · rintro ⟨word, known, lowered⟩
    obtain ⟨text, normalized, rfl⟩ := Option.map_eq_some_iff.mp lowered
    have inked := (exitCommands_inked _ known).2
    rw [String.toList_ofList, ← (normalizeText?_eq_some.mp normalized).2] at inked
    have squeezed := Text.squeeze_inked (inked_of_squeeze (inked_of_lower inked))
    rwa [← squeezed, (normalizeText?_eq_some.mp normalized).2]

/-! ## Reading -/

/-- The request without the question as it was asked. -/
def Request.reworded (question : String) (request : Request) : Request :=
  { request with question }

theorem PhraseBook.read_congr {text text' : String}
    (same : Text.lower text.toList = Text.lower text'.toList) (book : PhraseBook) :
    book.read text' = (book.read text).map (Option.map (Request.reworded text')) := by
  unfold PhraseBook.read
  rw [← same]
  cases book.firstFit? (Text.lower text.toList) with
  | none => rfl
  | some fit =>
    simp only
    cases fit.operands with
    | error error => rfl
    | ok operands => rfl

/-! ## Answering -/

/-- The histories are the same but for the query and the time of the newest entry. -/
inductive History.Alike : History → History → Prop where
  | same (history : History) : Alike history history
  | newest {history history' : History} {older : List Entry} {entry entry' : Entry} :
      history.capacity = history'.capacity → history.entries = older ++ [entry] →
        history'.entries = older ++ [entry'] → entry.result = entry'.result →
          entry.operationType = entry'.operationType → Alike history history'

/-- The outcomes are the same, and so are the agents, but for the query and the time of the newest
    entry. -/
structure Reply.Alike (reply reply' : Reply) : Prop where
  outcome : reply.outcome = reply'.outcome
  parts : reply'.agent = { reply.agent with history := reply'.agent.history }
  history : History.Alike reply.agent.history reply'.agent.history

theorem Reply.Alike.of_eq {reply reply' : Reply} (outcome : reply.outcome = reply'.outcome)
    (agent : reply.agent = reply'.agent) : Reply.Alike reply reply' where
  outcome := outcome
  parts := by rw [agent]
  history := agent ▸ .same _

theorem History.exists_record_concat (h : History) :
    ∃ older, ∀ entry, (h.record entry).entries = older ++ [entry] := by
  have positive := h.capacity_pos
  refine ⟨h.entries.drop (h.entries.length + 1 - h.capacity), fun entry => ?_⟩
  simp only [record, newest, List.length_append, List.length_singleton]
  exact List.drop_append_of_le_length (by omega)

namespace Agent

section Stages

variable (s : Settings) (history : History) (now now' : Binary64) (typed typed' : String)

theorem fulfil_alike (a : Agent) (question : String) (request : Request) :
    Reply.Alike (a.fulfil now typed request)
      (a.fulfil now' typed' (request.reworded question)) := by
  simp only [fulfil, Request.reworded]
  cases a.calculators.evaluate request.operation request.operands with
  | error failure => exact .of_eq rfl rfl
  | ok value =>
    obtain ⟨older, recorded⟩ := a.history.exists_record_concat
    exact
      { outcome := rfl
        parts := rfl
        history := .newest rfl (recorded _) (recorded _) rfl rfl }

theorem ask_alike {text text' : String}
    (same : Text.lower text.toList = Text.lower text'.toList) :
    Reply.Alike ((standard s history).ask now typed text)
      ((standard s history).ask now' typed' text') := by
  have read (question : String) : (standard s history).parsers.read question =
      liftFailure (PhraseBook.standard.read question) := standard_parsers_read question
  simp only [ask, read, PhraseBook.read_congr same]
  cases PhraseBook.standard.read text with
  | error error => exact .of_eq rfl rfl
  | ok request? =>
    cases request? with
    | none => exact .of_eq rfl rfl
    | some request => exact fulfil_alike now now' typed typed' _ text' request

theorem answerText_alike (same : loweredForm? typed = loweredForm? typed') :
    Reply.Alike ((standard s history).answerText now typed)
      ((standard s history).answerText now' typed') := by
  simp only [loweredForm?] at same
  unfold answerText
  cases normalized : normalizeText? typed with
  | none =>
    rw [normalized, Option.map_none, eq_comm, Option.map_eq_none_iff] at same
    simp only [same]
    exact .of_eq rfl rfl
  | some text =>
    rw [normalized, Option.map_some, eq_comm, Option.map_eq_some_iff] at same
    obtain ⟨text', normalized', lowered⟩ := same
    rw [← String.toList_inj, String.toList_ofList, String.toList_ofList] at lowered
    -- Either both are the same command or both are read.
    have commands : command? text' = command? text := by rw [command?, command?, lowered]
    simp only [normalized', commands]
    cases command? text with
    | some command => exact .of_eq rfl rfl
    | none => exact ask_alike s history now now' typed typed' lowered.symm

end Stages

/-- What normalisation makes of an input, and that no more of a question than the lower case of its
    normal form decides what the agent answers. -/
structure DecidedByNormalForm (a : Agent) : Prop where
  /-- No text, or blanks alone. -/
  none_iff (raw : RawInput) : raw.normalize? = none ↔
    ∀ typed, raw = .text typed → ∀ c ∈ typed.toList, Text.isBlank c = true
  /-- Otherwise the words, with single spaces between them. -/
  spaced (typed : String) : ∃ words, Text.Runs typed.toList words ∧
    (words ≠ [] → normalizeText? typed = some (String.ofList (Text.spaced words)))
  again (raw : RawInput) (text : String) : raw.normalize? = some text →
    normalizeText? text = some text
  exits (line : String) : isExitCommand line = true ↔
    loweredForm? line ∈ ["quit", "exit", "bye", "goodbye"].map some
  answers (typed typed' : String) (now now' : Binary64) : loweredForm? typed = loweredForm? typed' →
    Reply.Alike (a.answer now (.text typed)) (a.answer now' (.text typed'))

/-- Of the agents of the library, whatever they were asked before. -/
theorem normal_form_decides {s : Settings} {a : Agent} (reachable : Reachable s a) :
    DecidedByNormalForm a where
  none_iff raw := by
    cases raw with
    | text typed =>
      simp only [RawInput.normalize?, normalizeText?_eq, RawInput.text.injEq, forall_eq',
        ← Text.words_eq_nil_iff, ite_eq_left_iff, reduceCtorEq, imp_false, Classical.not_not]
    | other => simp [RawInput.normalize?]
  spaced typed := by
    refine ⟨Text.words typed.toList, Text.runs_words _, fun nonempty => ?_⟩
    rw [normalizeText?_eq, if_neg nonempty]
  again raw text normalized := by
    cases raw with
    | text typed => exact normalizeText?_again normalized
    | other => cases normalized
  exits line := by
    rw [isExitCommand_iff, List.mem_map]
    exact exists_congr fun word => and_congr_right fun _ => eq_comm
  answers typed typed' now now' same := by
    obtain ⟨history, rfl⟩ := reachable.eq_standard
    exact answerText_alike s history now now' typed typed' same

/-- A factorial in capitals, with other blanks and at another time. -/
theorem normal_form_decides_factorial :
    let a := (fresh.answer 0 (.text "2 + 2")).agent
    Reachable .standard a ∧ loweredForm? " 6\tFACTORIAL\n" = loweredForm? "6 Factorial" ∧
      Reply.Alike (a.answer 1 (.text " 6\tFACTORIAL\n")) (a.answer 2 (.text "6 Factorial")) := by
  intro a
  have reachable : Reachable .standard a := reachable_fresh.answer 0 (.text "2 + 2")
  have same : loweredForm? " 6\tFACTORIAL\n" = loweredForm? "6 Factorial" := by decide
  exact ⟨reachable, same, (normal_form_decides reachable).answers _ _ 1 2 same⟩

end Agent

end Reckoner
