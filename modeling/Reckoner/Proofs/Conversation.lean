import Reckoner.Repl
import Reckoner.Proofs.Agent.Reachable
import Reckoner.Proofs.Agent.Undated
import Reckoner.Proofs.Text.Lines
import Mathlib.Data.List.TakeWhile

/-! # Conversations, line by line

A conversation hears one line after another and stops at the first exit command.  What it has
heard by then is what the lines before that command make of it.

* `IsAskedIn`, `isAskedIn_iff` — the lines of an input before its first exit command.
* `hear_of_goesOn` — what is said in answer to lines that go on.
* `converse_answers` — a whole conversation, which `run` is at a clock that stands still.
-/

namespace Reckoner.Repl

/-! ## Lines before an exit command -/

/-- The lines are those of the input before the first that is an exit command, if there is one. -/
structure IsAskedIn (input : String) (asked : List String) : Prop where
  goOn : ∀ line ∈ asked, isExitCommand line = false
  written : ∃ rest, Text.Writes input.toList ((asked ++ rest).map String.toList) ∧
    ∀ line ∈ rest.head?, isExitCommand line = true

theorem map_toList_map_ofList (ls : List (List Char)) :
    (ls.map String.ofList).map String.toList = ls := by
  simp [List.map_map, Function.comp_def]

theorem isAskedIn_asked (input : String) : IsAskedIn input (asked input) where
  goOn := by
    intro line member
    simpa using List.mem_takeWhile_imp member
  written := by
    refine ⟨((Text.lines input.toList).map String.ofList).dropWhile (!isExitCommand ·), ?_, ?_⟩
    · rw [asked, List.takeWhile_append_dropWhile, map_toList_map_ofList]
      exact Text.lines_eq_iff.mp rfl
    · intro line first
      have stops := List.head?_dropWhile_not (!isExitCommand ·)
        ((Text.lines input.toList).map String.ofList)
      rw [Option.mem_def.mp first] at stops
      simpa using stops

theorem IsAskedIn.eq_asked {input : String} {lines : List String}
    (isAsked : IsAskedIn input lines) : lines = asked input := by
  obtain ⟨rest, writes, stops⟩ := isAsked.written
  have split : (Text.lines input.toList).map String.ofList = lines ++ rest := by
    rw [Text.lines_of_writes writes]
    simp [List.map_map, Function.comp_def]
  have goOn : ∀ line ∈ lines, (!isExitCommand line) = true := by simpa using isAsked.goOn
  rw [asked, split, List.takeWhile_append_of_pos goOn]
  cases rest with
  | nil => simp
  | cons line rest => simp [stops line rfl]

theorem isAskedIn_iff {input : String} {lines : List String} :
    IsAskedIn input lines ↔ lines = asked input :=
  ⟨IsAskedIn.eq_asked, fun same => same ▸ isAskedIn_asked input⟩

/-! ## What is heard -/

/-- Questions with the times that the clock shows for them, if `count` came before. -/
def timed (clock : Nat → Binary64) (count : Nat) (questions : List String) :
    List (Binary64 × String) :=
  questions.mapIdx fun place question => (clock (count + place), question)

theorem timed_cons (clock : Nat → Binary64) (count : Nat) (question : String) (rest : List String) :
    timed clock count (question :: rest) =
      (clock count, question) :: timed clock (count + 1) rest := by
  simp [timed, List.mapIdx_cons, Nat.add_assoc, Nat.add_comm 1]

section Heard

variable (invitation : String) (clock : Nat → Binary64)

/-- The lines after an exit command are not heard. -/
theorem hear_takeWhile (t : Transcript) (lines : List String) :
    t.hear invitation clock (lines.takeWhile (!isExitCommand ·)) =
      t.hear invitation clock lines := by
  induction lines generalizing t with
  | nil => rfl
  | cons line rest ih =>
    by_cases ends : isExitCommand line = true
    · simp [Transcript.hear, ends]
    · simp [Transcript.hear, ends, ih]

theorem hear_of_goesOn (t : Transcript) {lines : List String}
    (goOn : ∀ line ∈ lines, isExitCommand line = false) :
    let heard := t.hear invitation clock lines
    let told := t.agent.talk (timed clock t.answered lines)
    heard.answered = t.answered + lines.length ∧
      heard.output = t.output ++ String.join (told.1.map (turnText invitation)) ∧
      heard.agent = told.2 := by
  induction lines generalizing t with
  | nil => simp [Transcript.hear, timed, Agent.talk]
  | cons line rest ih =>
    obtain ⟨here, others⟩ := List.forall_mem_cons.mp goOn
    obtain ⟨answered, output, agent⟩ := ih (t.turn invitation clock line) others
    simp only [Transcript.hear, here, timed_cons]
    refine ⟨?_, ?_, agent⟩
    · rw [if_neg (by simp), answered, List.length_cons]
      simp only [Transcript.turn]
      omega
    · rw [if_neg (by simp), output]
      simp only [Transcript.turn, Agent.talk, Agent.answer, List.map_cons, String.join_cons,
        String.append_assoc]

/-- At a clock that stands still, the lines are answered one after another at its time. -/
theorem hear_at (now : Binary64) (t : Transcript) {lines : List String}
    (goOn : ∀ line ∈ lines, isExitCommand line = false) :
    let answers := answerAll now t.agent lines
    t.hear invitation (fun _ => now) lines =
      { answered := t.answered + answers.texts.length
        output := t.output ++ String.join (answers.texts.map (turnText invitation))
        agent := answers.agent
        log := t.log ++ answers.log } := by
  induction lines generalizing t with
  | nil => simp [Transcript.hear, answerAll]
  | cons line rest ih =>
    obtain ⟨here, others⟩ := List.forall_mem_cons.mp goOn
    have later := ih (t.turn invitation (fun _ => now) line) others
    dsimp only at later
    rw [Transcript.hear, here, if_neg (by simp), later]
    simp [Transcript.turn, answerAll, Nat.add_assoc, Nat.add_comm 1, String.append_assoc]

end Heard

/-! ## Whole conversations -/

theorem opening_eq (invitation : String) :
    opening invitation = Texts.welcome ++ "\n\n" ++ invitation := by
  simp [opening, toString]

theorem turnText_eq (invitation answer : String) :
    turnText invitation answer = "Agent: " ++ answer ++ "\n\n" ++ invitation := by
  simp [turnText, speak, toString]

theorem closing_eq : closing = "\nAgent: " ++ Texts.goodbye ++ "\n" := by
  simp [closing, speak, toString, ← String.append_assoc]

theorem converse_congr (invitation : String) (clock : Nat → Binary64) (a : Agent)
    {input input' : String} (same : Text.lines input.toList = Text.lines input'.toList) :
    converse invitation clock a input = converse invitation clock a input' := by
  simp only [converse, same]

theorem run_eq_converse (invitation : String) (now : Binary64) (a : Agent) (input : String) :
    run invitation now a input = converse invitation (fun _ => now) a input := by
  have goOn := (isAskedIn_asked input).goOn
  simp only [converse, run]
  rw [← hear_takeWhile, ← asked, hear_at invitation now _ goOn]
  simp [Transcript.opened]

/-- A conversation answers the lines before the first exit command, in their order and each by the
agent that the lines before it left, shows the answers between an opening and a closing, and
leaves the agent of the last answer.  It does not matter which ends the lines have. -/
theorem converse_answers (invitation : String) (clock : Nat → Binary64) (a : Agent)
    (input : String) :
    ((∀ lines, IsAskedIn input lines ↔ lines = asked input) ∧
      let told := a.talk (timed clock 0 (asked input))
      let transcript := converse invitation clock a input
      transcript.answered = (asked input).length ∧
        transcript.output =
          Texts.welcome ++ "\n\n" ++ invitation ++
            String.join (told.1.map fun answer => "Agent: " ++ answer ++ "\n\n" ++ invitation) ++
            "\nAgent: " ++ Texts.goodbye ++ "\n" ∧
        transcript.agent = told.2) ∧
    ('\r' ∉ input.toList →
      ∀ ending : List Char, ending = ['\r', '\n'] ∨ ending = ['\r'] →
        converse invitation clock a (String.ofList (Text.withLineEnd ending input.toList)) =
          converse invitation clock a input) ∧
    ∀ now, run invitation now a input = converse invitation (fun _ => now) a input := by
  refine ⟨⟨fun lines => isAskedIn_iff, ?_⟩, ?_, fun now => run_eq_converse invitation now a input⟩
  · obtain ⟨answered, output, agent⟩ :=
      hear_of_goesOn invitation clock (.opened invitation a) (isAskedIn_asked input).goOn
    simp only [converse]
    rw [← hear_takeWhile, ← asked]
    refine ⟨by rw [answered, Transcript.opened, Nat.zero_add], ?_, agent⟩
    rw [output, Transcript.opened, opening_eq, closing_eq, funext (turnText_eq invitation)]
    simp only [String.append_assoc]
  · intro plain ending known
    apply converse_congr
    rw [String.toList_ofList]
    exact Text.lines_withLineEnd plain known

/-- Two lines are answered before the exit command, and carriage returns part them as well. -/
theorem converse_answers_until_quit :
    let input := "2 + 2\nhistory\n Quit \n5 squared"
    asked input = ["2 + 2", "history"] ∧ '\r' ∉ input.toList ∧
      converse "> " .ofNat Agent.fresh (String.ofList (Text.withLineEnd ['\r'] input.toList)) =
        converse "> " .ofNat Agent.fresh input := by
  intro input
  obtain ⟨heard, plain⟩ : asked input = ["2 + 2", "history"] ∧ '\r' ∉ input.toList := by
    decide +kernel
  have same := (converse_answers "> " .ofNat Agent.fresh input).2.1 plain ['\r'] (.inr rfl)
  exact ⟨heard, plain, same⟩

end Reckoner.Repl
