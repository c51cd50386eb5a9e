import Reckoner.Cli.Execution
import Reckoner.Proofs.Config.Agents
import Mathlib.Data.List.TakeDrop

/-! # Questions on the command line

The words of a question pass through two scans, that of the program and that of the command.  A
word that does not look like a switch comes out of both of them as it went in.

* `readWord_eq_plain_iff` — the words that no scan takes for a switch, whichever it knows.
* `scan_of_inert` — what a scan makes of words in which there is no switch that it knows.
* `version_mem_given` — a word that asks for the version does so wherever it stands.
* `Askable.parse_of_not_asksVersion` — the meaning of a question in words.
* `AnswersWords`, `AsksWords`, `asks_words` — what comes of a question in words.
-/

namespace Reckoner

namespace Cli

/-! ## Words -/

section Words

variable {known : List Switch} {word : String}

theorem looksLikeSwitch_iff :
    looksLikeSwitch word = true ↔ ∃ letter rest, word.toList = '-' :: letter :: rest := by
  unfold looksLikeSwitch
  split
  next letter rest dash => exact iff_of_true rfl ⟨letter, rest, dash⟩
  next other =>
    refine iff_of_false nofun ?_
    rintro ⟨letter, rest, dash⟩
    exact other letter rest dash

theorem Switch.long_toList (s : Switch) : s.long.toList = '-' :: '-' :: s.word.toList :=
  String.toList_append ..

theorem Switch.looksLikeSwitch_of_isTyped {s : Switch} (typed : s.isTyped word = true) :
    looksLikeSwitch word = true := by
  rw [isTyped, Bool.or_eq_true, decide_eq_true_eq, decide_eq_true_eq] at typed
  rw [looksLikeSwitch_iff]
  rcases typed with rfl | short
  · exact ⟨_, _, s.long_toList⟩
  · obtain ⟨letter, _, rfl⟩ := Option.map_eq_some_iff.mp short
    exact ⟨letter, [], String.toList_ofList⟩

theorem looksLikeSwitch_of_readAssignment? {assigned : Switch × String}
    (reads : readAssignment? known word = some assigned) : looksLikeSwitch word = true := by
  unfold readAssignment? at reads
  split at reads
  next name text cut =>
    obtain ⟨s, found, -⟩ := Option.map_eq_some_iff.mp reads
    have named := List.find?_some found
    simp only [Bool.and_eq_true, decide_eq_true_eq] at named
    have whole : word.toList = name ++ '=' :: text := by
      rw [List.span_eq_takeWhile_dropWhile, Prod.mk.injEq] at cut
      rw [← cut.1, ← cut.2, List.takeWhile_append_dropWhile]
    have isName : name = '-' :: '-' :: s.word.toList := by
      rw [← s.long_toList, named.2, String.toList_ofList]
    rw [isName] at whole
    exact looksLikeSwitch_iff.mpr ⟨_, _, whole⟩
  next => cases reads

/-- Which words are no switches does not depend on the switches that are known. -/
theorem readWord_eq_plain_iff : readWord known word = .plain ↔ looksLikeSwitch word = false := by
  constructor
  · intro plain
    unfold readWord at plain
    split at plain
    next => cases plain
    next =>
      split at plain
      next => cases plain
      next =>
        split at plain
        next => split at plain <;> cases plain
        next other => exact Bool.not_eq_true _ ▸ other
  · intro other
    have unknown : known.find? (·.isTyped word) = none := by
      refine List.find?_eq_none.mpr fun s _ typed => ?_
      simp [Switch.looksLikeSwitch_of_isTyped typed] at other
    have unassigned : readAssignment? known word = none := by
      refine Option.eq_none_iff_forall_ne_some.mpr fun assigned reads => ?_
      simp [looksLikeSwitch_of_readAssignment? reads] at other
    simp [readWord, unknown, unassigned, other]

theorem readWord_nil (dashed : looksLikeSwitch word = true) : readWord [] word = .unknown := by
  have unassigned : readAssignment? [] word = none := by
    unfold readAssignment?
    split <;> rfl
  have letters (rest : List Char) : readLetters [] rest = ([], rest) := by
    cases rest <;> rfl
  simp only [readWord, List.find?_nil, unassigned, dashed, letters, if_true]

/-- The word asks for the version, on its own or as the first of some letters. -/
def AsksVersion (word : String) : Prop :=
  word = Switch.version.long ∨ ∃ rest, word.toList = '-' :: 'V' :: rest

theorem readAssignment?_programSwitches : readAssignment? programSwitches word = none := by
  unfold readAssignment?
  split
  next name text cut => simp [programSwitches, Switch.takesValue, Switch.valueName?]
  next => rfl

theorem asksVersion_of_isTyped (typed : Switch.version.isTyped word = true) :
    AsksVersion word := by
  rw [Switch.isTyped, Bool.or_eq_true, decide_eq_true_eq, decide_eq_true_eq] at typed
  refine typed.imp_right fun short => ⟨[], ?_⟩
  rw [← Option.some.inj short, String.toList_ofList]

theorem looksLikeSwitch_of_asksVersion (asks : AsksVersion word) : looksLikeSwitch word = true := by
  rw [looksLikeSwitch_iff]
  rcases asks with rfl | ⟨rest, isWord⟩
  · exact ⟨_, _, Switch.version.long_toList⟩
  · exact ⟨_, _, isWord⟩

theorem readWord_of_asksVersion (asks : AsksVersion word) :
    readWord programSwitches word = .switch .version ∨
      ∃ found others, readWord programSwitches word = .letters (.version :: found) others := by
  have dashed := looksLikeSwitch_of_asksVersion asks
  cases typed : Switch.version.isTyped word with
  | true => exact .inl (by simp [readWord, programSwitches, typed])
  | false =>
    obtain ⟨rest, isWord⟩ := asks.resolve_left fun long => by simp [Switch.isTyped, long] at typed
    have untyped : programSwitches.find? (·.isTyped word) = none := by
      simp [programSwitches, typed]
    obtain ⟨found, others, letters⟩ : ∃ found others,
        readLetters programSwitches ('V' :: rest) = (.version :: found, others) := ⟨_, _, rfl⟩
    refine .inr ⟨found, others, ?_⟩
    simp only [readWord, untyped, readAssignment?_programSwitches, dashed, if_true, isWord,
      List.drop_succ_cons, List.drop_zero, letters]

theorem readWord_of_not_asksVersion (dashed : looksLikeSwitch word = true)
    (silent : ¬ AsksVersion word) : readWord programSwitches word = .unknown := by
  obtain ⟨letter, rest, isWord⟩ := looksLikeSwitch_iff.mp dashed
  have untyped : programSwitches.find? (·.isTyped word) = none := by
    simp [programSwitches, mt asksVersion_of_isTyped silent]
  have other : letter ≠ 'V' := by
    rintro rfl
    exact silent (.inr ⟨rest, isWord⟩)
  have letters : readLetters programSwitches (letter :: rest) = ([], letter :: rest) := by
    simp [readLetters, programSwitches, Switch.letter?, other.symm]
  simp only [readWord, untyped, readAssignment?_programSwitches, dashed, if_true, isWord,
    List.drop_succ_cons, List.drop_zero, letters]

end Words

/-! ## Scans -/

section Scans

variable {known : List Switch} {words : List String}

/-- The scan reads nothing out of the words: each is a word like any other, or one that looks like
    a switch but is none of those that are known. -/
def Inert (known : List Switch) (words : List String) : Prop :=
  ∀ word ∈ words, word ≠ terminator ∧
    (looksLikeSwitch word = true → readWord known word = .unknown)

theorem scanFrom_true_of_inert (inert : Inert known words) :
    scanFrom known true words = { Scan.empty with unknown := words } := by
  induction words with
  | nil => rfl
  | cons word rest ih =>
    obtain ⟨⟨inside, unknown⟩, others⟩ := List.forall_mem_cons.mp inert
    rw [scanFrom, if_neg inside]
    cases dashed : looksLikeSwitch word with
    | true =>
      simp only [unknown dashed, ih others]
      rfl
    | false =>
      simp only [readWord_eq_plain_iff.mpr dashed, ih others]
      rfl

/-- The words up to the first that looks like a switch are operands. -/
theorem scan_of_inert (inert : Inert known words) :
    scan known words =
      { Scan.empty with
        operands := words.takeWhile (!looksLikeSwitch ·)
        unknown := words.dropWhile (!looksLikeSwitch ·) } := by
  unfold scan
  induction words with
  | nil => rfl
  | cons word rest ih =>
    obtain ⟨⟨inside, unknown⟩, others⟩ := List.forall_mem_cons.mp inert
    rw [scanFrom, if_neg inside]
    cases dashed : looksLikeSwitch word with
    | true =>
      simp only [unknown dashed, scanFrom_true_of_inert others, List.takeWhile_cons, dashed,
        List.dropWhile_cons]
      rfl
    | false =>
      simp only [readWord_eq_plain_iff.mpr dashed, ih others, List.takeWhile_cons, dashed,
        List.dropWhile_cons]
      rfl

@[simp]
theorem Scan.given_push (words : List String) (unknownBefore : Bool) (scanned : Scan) :
    (scanned.push words unknownBefore).given = scanned.given := by
  unfold push
  split <;> rfl

theorem version_mem_given (inside : terminator ∉ words) (asks : ∃ word ∈ words, AsksVersion word)
    (unknownBefore : Bool) :
    Given.flag .version ∈ (scanFrom programSwitches unknownBefore words).given := by
  induction words generalizing unknownBefore with
  | nil => simp at asks
  | cons word rest ih =>
    obtain ⟨inside, others⟩ := List.forall_mem_cons.mp (List.forall_mem_ne'.mpr inside)
    rw [scanFrom, if_neg inside]
    by_cases here : AsksVersion word
    · rcases readWord_of_asksVersion here with isSwitch | ⟨found, rest, isLetters⟩
      · simp [isSwitch, Scan.give, Switch.takesValue, Switch.valueName?]
      · simp [isLetters, Scan.give]
    · have later : ∃ word ∈ rest, AsksVersion word :=
        by simpa [here] using asks
      have found := ih (List.forall_mem_ne'.mp others) later
      cases dashed : looksLikeSwitch word with
      | true =>
        simp only [readWord_of_not_asksVersion dashed here, Scan.given_push]
        exact found true
      | false =>
        simp only [readWord_eq_plain_iff.mpr dashed, Scan.given_push]
        exact found unknownBefore

end Scans

/-! ## Questions -/

/-- The words neither ask for help nor end the switches. -/
structure Askable (words : List String) : Prop where
  helpless : ∀ word ∈ words, Switch.help.isTyped word = false
  inside : terminator ∉ words

section Questions

variable (defaults : Config) {words : List String} (askable : Askable words)
include askable

theorem Askable.parse_of_asksVersion (asks : ∃ word ∈ words, AsksVersion word) :
    parse defaults (Subcommand.ask.name :: words) = .error .version := by
  obtain ⟨word, member, asks⟩ := asks
  have inside : terminator ∉ Subcommand.ask.name :: words :=
    List.not_mem_cons_of_ne_of_not_mem (by decide) askable.inside
  have given := version_mem_given inside ⟨word, List.mem_cons_of_mem _ member, asks⟩ false
  exact if_pos (List.contains_iff_mem.mpr given)

theorem Askable.inert {others : List String} (part : others ⊆ words) : Inert [] others := by
  refine fun word member => ⟨?_, readWord_nil⟩
  rintro rfl
  exact askable.inside (part member)

/-- What is left to a command for questions once the program has scanned the words. -/
theorem Askable.parseCommand :
    parseCommand defaults .ask (words.takeWhile (!looksLikeSwitch ·))
        (words.dropWhile (!looksLikeSwitch ·)) =
      match words.find? looksLikeSwitch with
      | some word => .error (.misuse (.unknownSwitch word (similarSwitches .ask word)))
      | none => (invocation .ask ⟨defaults.host, defaults.port⟩ words).mapError .misuse := by
  cases found : words.find? looksLikeSwitch with
  | none =>
    have plain : ∀ word ∈ words, (!looksLikeSwitch word) = true := by
      simpa using found
    rw [List.takeWhile_eq_self_iff.mpr plain, List.dropWhile_eq_nil_iff.mpr plain]
    show (invocation .ask ⟨defaults.host, defaults.port⟩ (words ++ [])).mapError
      Ending.misuse = _
    rw [List.append_nil]
  | some word =>
    obtain ⟨dashed, before, after, rfl, plain⟩ := List.find?_eq_some_iff_append.mp found
    have scanned : scan [] (word :: after) = { Scan.empty with unknown := word :: after } := by
      rw [scan_of_inert (askable.inert (List.subset_append_right ..))]
      simp only [List.takeWhile_cons, List.dropWhile_cons, dashed]
      rfl
    have helpless : asksForHelp (word :: after) = false :=
      List.any_eq_false.mpr fun word member => by
        simp [askable.helpless word (List.mem_append_right _ member)]
    have rest : (before ++ word :: after).dropWhile (!looksLikeSwitch ·) = word :: after := by
      rw [List.dropWhile_append_of_pos plain, List.dropWhile_cons_of_neg (by simp [dashed])]
    rw [rest]
    simp only [Cli.parseCommand, Subcommand.switches, scanned, helpless]
    rfl

theorem Askable.parse_of_not_asksVersion (silent : ¬ ∃ word ∈ words, AsksVersion word) :
    parse defaults (Subcommand.ask.name :: words) =
      match words.find? looksLikeSwitch with
      | some word => .error (.misuse (.unknownSwitch word (similarSwitches .ask word)))
      | none => (invocation .ask ⟨defaults.host, defaults.port⟩ words).mapError .misuse := by
  have inert : Inert programSwitches (Subcommand.ask.name :: words) := by
    refine List.forall_mem_cons.mpr ⟨by decide, fun word member => ⟨?_, fun dashed => ?_⟩⟩
    · rintro rfl
      exact askable.inside member
    · exact readWord_of_not_asksVersion dashed fun asks => silent ⟨word, member, asks⟩
  have scanned := scan_of_inert inert
  rw [List.takeWhile_cons_of_pos (by decide), List.dropWhile_cons_of_pos (by decide)] at scanned
  have named : Subcommand.ofName? Subcommand.ask.name = some .ask := rfl
  simp only [parse, scanned, named]
  exact askable.parseCommand defaults

end Questions

section Outcomes

variable (config : Config) (now : Binary64) (a : Agent) (input : String) (words : List String)

/-- The words are answered as one question, with spaces between them: the answer is all that is
    written, and the exit code tells whether it is an error. -/
def AnswersWords : Prop :=
  let reply := a.answer now (.text (" ".intercalate words))
  run config now a input (Subcommand.ask.name :: words) =
    .ok
      { output := reply.outcome.text ++ "\n"
        exitCode := if reply.outcome.isError then 1 else 0
        agent := reply.agent
        log := reply.log
        listening? := none }

/-- What comes of a question in words. -/
structure AsksWords : Prop where
  answered : words.find? looksLikeSwitch = none → AnswersWords config now a input words
  /-- It does not matter how the question is split. -/
  split (others : List String) : words.find? looksLikeSwitch = none →
    others.find? looksLikeSwitch = none → others ≠ [] →
    " ".intercalate others = " ".intercalate words →
    run config now a input (Subcommand.ask.name :: others) =
      run config now a input (Subcommand.ask.name :: words)
  refused (word : String) : words.find? looksLikeSwitch = some word →
    (¬ ∃ word ∈ words, AsksVersion word) →
    run config now a input (Subcommand.ask.name :: words) =
      .error (.misuse (.unknownSwitch word (similarSwitches .ask word)))
  version : (∃ word ∈ words, AsksVersion word) →
    run config now a input (Subcommand.ask.name :: words) = .error .version

end Outcomes

theorem askable_of_find? {words : List String} (plain : words.find? looksLikeSwitch = none) :
    Askable words where
  helpless word member := by
    have other := List.find?_eq_none.mp plain word member
    exact Bool.eq_false_iff.mpr fun typed => other (Switch.looksLikeSwitch_of_isTyped typed)
  inside member := List.find?_eq_none.mp plain _ member (by decide)

theorem answersWords_of_find? (config : Config) (now : Binary64) (a : Agent) (input : String)
    {words : List String} (nonempty : words ≠ []) (plain : words.find? looksLikeSwitch = none) :
    AnswersWords config now a input words := by
  have silent : ¬ ∃ word ∈ words, AsksVersion word := fun ⟨word, member, asks⟩ =>
    List.find?_eq_none.mp plain word member (looksLikeSwitch_of_asksVersion asks)
  obtain ⟨word, rest, rfl⟩ := List.exists_cons_of_ne_nil nonempty
  rw [AnswersWords, run, (askable_of_find? plain).parse_of_not_asksVersion config silent, plain]
  rfl

/-- Under a valid configuration there is an agent, and whichever it is, a question in words is
    answered unless one of the words looks like a switch. -/
theorem asks_words {env : Environment} {config : Config} (loaded : Config.load env = .ok config)
    {words : List String} (nonempty : words ≠ []) (askable : Askable words) :
    (∃ a, Agent.new? config.settings = .ok a) ∧
      ∀ now a input, AsksWords config now a input words := by
  refine ⟨Config.exists_agent loaded, fun now a input => ⟨?_, ?_, ?_, ?_⟩⟩
  · exact answersWords_of_find? config now a input nonempty
  · intro others plain plainOthers nonemptyOthers same
    have here := answersWords_of_find? config now a input nonempty plain
    have there := answersWords_of_find? config now a input nonemptyOthers plainOthers
    rw [AnswersWords, same] at there
    exact there.trans here.symm
  · intro word found silent
    rw [run, askable.parse_of_not_asksVersion config silent, found]
    rfl
  · intro asks
    rw [run, askable.parse_of_asksVersion config asks]
    rfl

/-- The sign of an operand that is not a word of its own, with all of the question as one word and
    with the operand in a part of it. -/
theorem asks_words_with_sign :
    let words := ["what's", "5", "+ -3"]
    ∃ config, Config.load (fun _ => none) = .ok config ∧ Askable words ∧
      run config 1 Agent.fresh "" ["ask", "what's 5 + -3"] =
        run config 1 Agent.fresh "" ("ask" :: words) ∧
      (run config 1 Agent.fresh "" ("ask" :: words)).map (·.output) = .ok "The answer is 2\n" := by
  intro words
  have plain : words.find? looksLikeSwitch = none := by decide
  have askable := askable_of_find? plain
  have answer : (Agent.fresh.answer 1 (.text (" ".intercalate words))).outcome.text =
      "The answer is 2" := by decide +kernel
  obtain ⟨config, loaded⟩ : ∃ config, Config.load (fun _ => none) = .ok config := ⟨_, rfl⟩
  obtain ⟨-, asks⟩ := asks_words loaded (List.cons_ne_nil _ _) askable
  have asks := asks 1 Agent.fresh ""
  have answered := asks.answered plain
  have whole := asks.split ["what's 5 + -3"] plain (by decide) (List.cons_ne_nil _ _) (by decide)
  refine ⟨config, loaded, askable, whole, ?_⟩
  rw [AnswersWords, answer] at answered
  exact congrArg (Except.map (·.output)) answered

/-- A negative operand that is a word of its own is taken for a switch. -/
theorem negative_operand_refused :
    let words := ["5", "+", "-3"]
    ∃ config, Config.load (fun _ => none) = .ok config ∧
      Agent.new? config.settings = .ok Agent.fresh ∧ Askable words ∧
      (∀ word ∈ words, Switch.version.isTyped word = false) ∧
      (Agent.fresh.answer 1 (.text (" ".intercalate words))).outcome.text = "The answer is 2" ∧
      run config 1 Agent.fresh "" ("ask" :: words) = .error (.misuse (.unknownSwitch "-3" [])) ∧
      ¬ AnswersWords config 1 Agent.fresh "" words := by
  intro words
  have answer : (Agent.fresh.answer 1 (.text (" ".intercalate words))).outcome.text =
      "The answer is 2" := by decide +kernel
  have helpless : ∀ word ∈ words, Switch.help.isTyped word = false := by decide
  have refused (config : Config) : run config 1 Agent.fresh "" ("ask" :: words) =
      .error (.misuse (.unknownSwitch "-3" [])) := rfl
  refine ⟨_, rfl, Agent.new?_standard, ⟨helpless, by decide⟩, by decide, answer, refused _, ?_⟩
  intro answered
  cases (refused _).symm.trans answered

end Cli
end Reckoner
