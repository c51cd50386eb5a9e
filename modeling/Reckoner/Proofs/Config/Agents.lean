import Reckoner.Proofs.Config.Variables
import Reckoner.Proofs.Resource

/-! # The agent of a configuration

A configuration that is read makes an agent, and the agent keeps within it.

* `Config.Fits`, `Config.fits_of_load` — the numbers of a configuration that is read.
* `Agent.answered` — how many answers there were since the history was last cleared.
* `Agent.step_count`, `Agent.run_count` — so many entries are held, up to the capacity.
* `Agent.text_of_history` — what the history command says.
* `Config.load_makes_agent` — all of it, with the settings that make no agent.
-/

namespace Reckoner

/-! ## Numbers of a configuration -/

namespace Config

/-- The numbers are within their bounds, and the settings of the agent are these very numbers. -/
structure Fits (c : Config) : Prop where
  maxHistory_pos : 1 ≤ c.maxHistory
  historyDisplayLimit_pos : 1 ≤ c.historyDisplayLimit
  port_le : c.port ≤ 65535
  maxHistory : c.settings.maxHistory.toInt? = some (c.maxHistory : Int)
  historyDisplayLimit : c.settings.historyDisplayLimit.toInt? = some (c.historyDisplayLimit : Int)
  maxFactorial : c.settings.maxFactorial.toInt? = some (c.maxFactorial : Int)

theorem toInt?_ofNat_of_safe {n : Nat} (safe : (n : Int) ≤ safeLimit) :
    (Binary64.ofNat n).toInt? = some (n : Int) := by
  have small : n < 2 ^ 53 := by
    unfold safeLimit at safe
    omega
  exact Binary64.toInt?_ofNat (isCount_of_lt small)

theorem fits_of_load {env : Environment} {c : Config} (loaded : load env = .ok c) : c.Fits := by
  have reads := load_eq_ok_iff.mp loaded
  have maxHistory : 1 ≤ c.maxHistory ∧ (c.maxHistory : Int) ≤ safeLimit ∧ _ :=
    maxHistoryVariable.bounds_of_read 1 rfl (by decide) (reads .maxHistory)
  have historyDisplay : 1 ≤ c.historyDisplayLimit ∧ (c.historyDisplayLimit : Int) ≤ safeLimit ∧ _ :=
    historyDisplayVariable.bounds_of_read 1 rfl (by decide) (reads .historyDisplay)
  have maxFactorial : 0 ≤ c.maxFactorial ∧ (c.maxFactorial : Int) ≤ safeLimit ∧ _ :=
    maxFactorialVariable.bounds_of_read 0 rfl (by decide) (reads .maxFactorial)
  have port : (c.port : Int) ≤ 65535 :=
    (portVariable.bounds_of_read 0 rfl (by decide) (reads .port)).2.2 65535 rfl
  exact
    { maxHistory_pos := maxHistory.1
      historyDisplayLimit_pos := historyDisplay.1
      port_le := by exact_mod_cast port
      maxHistory := by rw [settings, toInt?_ofNat_of_safe maxHistory.2.1]
      historyDisplayLimit := by rw [settings, toInt?_ofNat_of_safe historyDisplay.2.1]
      maxFactorial := by rw [settings, toInt?_ofNat_of_safe maxFactorial.2.1] }

theorem Fits.exists_agent {c : Config} (fits : c.Fits) : ∃ a, Agent.new? c.settings = .ok a :=
  ⟨_, Agent.new?_of_withCapacity
    (History.withCapacity_of_toInt? fits.maxHistory fits.maxHistory_pos)⟩

theorem exists_agent {env : Environment} {config : Config} (loaded : load env = .ok config) :
    ∃ a, Agent.new? config.settings = .ok a :=
  (fits_of_load loaded).exists_agent

end Config

/-! ## Capacities -/

theorem History.withCapacity_eq_error_iff {capacity : Binary64} {bad : BadCapacity} :
    withCapacity capacity = .error bad ↔
      (¬∃ n : Nat, 0 < n ∧ capacity.toInt? = some (n : Int)) ∧ bad = ⟨capacity.text⟩ := by
  unfold withCapacity
  cases whole : capacity.toInt? with
  | none => simp [@eq_comm _ bad]
  | some m =>
    by_cases positive : 0 < m.toNat
    · have isPositive : ∃ n : Nat, 0 < n ∧ m = n := ⟨m.toNat, positive, by omega⟩
      simp [positive, isPositive]
    · have notPositive : ¬∃ n : Nat, 0 < n ∧ m = n := by
        rintro ⟨n, above, rfl⟩
        omega
      simp [positive, notPositive, @eq_comm _ bad]

theorem BadCapacity.message_eq (given : String) :
    message ⟨given⟩ = "max_history must be a positive integer, got " ++ given := rfl

theorem Agent.new?_eq_error_iff {s : Settings} {bad : BadCapacity} :
    new? s = .error bad ↔ History.withCapacity s.maxHistory = .error bad := by
  unfold new? withChains?
  cases History.withCapacity s.maxHistory <;> simp [Except.map]

/-- What an agent is made with. -/
theorem Agent.parts_of_new? {s : Settings} {a : Agent} (made : new? s = .ok a) :
    s.maxHistory.toInt? = some (a.history.capacity : Int) ∧ a.history.entries = [] ∧
      a.displayLimit = s.historyDisplayLimit := by
  obtain ⟨_, holds, rfl⟩ := new?_eq_ok made
  obtain ⟨n, positive, whole, rfl⟩ := History.withCapacity_eq_ok holds
  refine ⟨whole.trans (congrArg some ?_), rfl, rfl⟩
  exact (Int.toNat_of_nonneg (by omega)).symm

/-! ## Calls -/

/-- How many answers there were since the history was last cleared, after an outcome that `count` of
them came before. -/
def Outcome.answeredAfter (count : Nat) : Outcome → Nat
  | result .. => count + 1
  | command .clear _ => 0
  | command .help _ | command .history _ | error .. => count

theorem Outcome.Leaves.count {raw : RawInput} {now : Binary64} {before after : History}
    {outcome : Outcome} (leaves : outcome.Leaves raw now before after) {count : Nat}
    (counted : before.count = min before.capacity count) :
    after.capacity = before.capacity ∧
      after.count = min before.capacity (outcome.answeredAfter count) := by
  cases outcome with
  | result operation value text =>
    obtain ⟨_, _, capacity, entries, _⟩ := leaves
    have bound := before.length_le
    refine ⟨capacity, ?_⟩
    unfold History.count at counted ⊢
    rw [entries, answeredAfter]
    -- There is one entry more, or the oldest has gone for it.
    split <;> simp only [List.length_tail, List.length_append, List.length_singleton] <;> omega
  | command command text =>
    cases command with
    | help =>
      obtain rfl : after = before := leaves
      exact ⟨rfl, counted⟩
    | history =>
      obtain rfl : after = before := leaves
      exact ⟨rfl, counted⟩
    | clear =>
      obtain ⟨capacity, entries⟩ := leaves
      refine ⟨capacity, ?_⟩
      rw [History.count, entries, answeredAfter, Nat.min_zero, List.length_nil]
  | error code text =>
    obtain rfl : after = before := leaves
    exact ⟨rfl, counted⟩

namespace Agent

def answeredAfter (a : Agent) (count : Nat) : AgentCall → Nat
  | .answer now raw => (a.answer now raw).outcome.answeredAfter count
  | .clearHistory => 0

/-- How many answers there were since the history was last cleared, after some calls. -/
def answered : Agent → Nat → List AgentCall → Nat
  | _, count, [] => count
  | a, count, call :: calls => (a.step call).answered (a.answeredAfter count call) calls

section Step

variable (a : Agent) (call : AgentCall)

theorem step_parts : ∃ history, a.step call = { a with history } := by
  cases call with
  | answer now raw => exact answer_agent a now raw
  | clearHistory => exact ⟨_, rfl⟩

theorem step_displayLimit : (a.step call).displayLimit = a.displayLimit := by
  obtain ⟨history, changed⟩ := a.step_parts call
  rw [changed]

/-- A call keeps the capacity, and the history holds as many of the answers since it was last
cleared as there is room for. -/
theorem step_count {count : Nat} (counted : a.history.count = min a.history.capacity count) :
    (a.step call).history.capacity = a.history.capacity ∧
      (a.step call).history.count = min a.history.capacity (a.answeredAfter count call) := by
  cases call with
  | clearHistory => exact ⟨rfl, (Nat.min_zero _).symm⟩
  | answer now raw =>
    cases raw with
    | text typed => exact (a.answerText_leaves now typed).count counted
    | other => exact ⟨rfl, counted⟩

end Step

theorem run_displayLimit (a : Agent) (calls : List AgentCall) :
    (a.run calls).displayLimit = a.displayLimit := by
  induction calls generalizing a with
  | nil => rfl
  | cons call calls ih => exact (ih (a.step call)).trans (a.step_displayLimit call)

/-- The step for each call, over a run of them. -/
theorem run_count {a : Agent} {count : Nat} (calls : List AgentCall)
    (counted : a.history.count = min a.history.capacity count) :
    (a.run calls).history.capacity = a.history.capacity ∧
      (a.run calls).history.count = min a.history.capacity (a.answered count calls) := by
  induction calls generalizing a count with
  | nil => exact ⟨rfl, counted⟩
  | cons call calls ih =>
    obtain ⟨capacity, counted⟩ := a.step_count call counted
    rw [← capacity] at counted ⊢
    exact ih counted

/-! ## The history command -/

section Shown

variable {a : Agent} {now : Binary64} {typed text : String} {command : Command}

theorem fulfil_ne_command (request : Request) :
    (a.fulfil now typed request).outcome ≠ .command command text := by
  unfold fulfil
  split
  next failure _ => cases failure <;> nofun
  next => nofun

theorem ask_ne_command (question : String) :
    (a.ask now typed question).outcome ≠ .command command text := by
  unfold ask
  split
  next failure _ => cases failure <;> nofun
  next => nofun
  next => exact fulfil_ne_command _

theorem answer_history (a : Agent) (now : Binary64) :
    (a.answer now (.text "history")).outcome =
      .command .history (a.historyText a.displayLimit) := by
  have normal : normalizeText? "history" = some "history" := by decide
  have isCommand : command? "history" = some .history := by decide
  simp only [answer, answerText, normal, isCommand, runCommand]

/-- Whatever shows the history shows the text of its newest entries. -/
theorem text_of_history {raw : RawInput}
    (asked : (a.answer now raw).outcome = .command .history text) :
    text = a.historyText a.displayLimit := by
  cases raw with
  | other => cases asked
  | text typed =>
    simp only [answer, answerText] at asked
    split at asked
    next => cases asked
    next =>
      split at asked
      next command _ =>
        cases command with
        | history =>
          cases asked
          rfl
        | help => cases asked
        | clear => cases asked
      next => exact absurd asked (ask_ne_command _)

end Shown

end Agent

/-! ## The agent within its configuration -/

/-- The agent holds at most as many entries as the configuration says, `count` if there is room for
them, and lists at most as many as it says. -/
structure Config.Keeps (c : Config) (a : Agent) (count : Nat) : Prop where
  capacity : a.history.capacity = c.maxHistory
  count : a.history.count = min c.maxHistory count
  lists (now : Binary64) : ∃ text, (a.answer now (.text "history")).outcome = .command .history text
  listed (now : Binary64) (raw : RawInput) (text : String) :
    (a.answer now raw).outcome = .command .history text →
      ∃ shown, Texts.Lists shown text ∧ shown = a.history.entries.reverse.take shown.length ∧
        shown.length = min c.historyDisplayLimit a.history.count

theorem Config.Fits.keeps {c : Config} {a : Agent} (fits : c.Fits)
    (made : Agent.new? c.settings = .ok a) (calls : List AgentCall) :
    c.Keeps (a.run calls) (a.answered 0 calls) := by
  obtain ⟨whole, empty, displayLimit⟩ := Agent.parts_of_new? made
  have capacity : a.history.capacity = c.maxHistory :=
    Int.ofNat_inj.mp (Option.some.inj (whole.symm.trans fits.maxHistory))
  have none : a.history.count = min a.history.capacity 0 := by
    rw [History.count, empty, Nat.min_zero, List.length_nil]
  obtain ⟨capacity', count⟩ := Agent.run_count calls none
  rw [capacity] at capacity' count
  refine ⟨capacity', count, fun now => ⟨_, Agent.answer_history _ now⟩,
    fun now raw text asked => ?_⟩
  have whole : (a.run calls).displayLimit.toInt? = some (c.historyDisplayLimit : Int) := by
    rw [a.run_displayLimit, displayLimit, fits.historyDisplayLimit]
  rw [Agent.text_of_history asked, Agent.historyText, Resource.recent_of_toInt? _ whole]
  have length : ((a.run calls).history.entries.reverse.take
      (min c.historyDisplayLimit (a.run calls).history.count)).length =
        min c.historyDisplayLimit (a.run calls).history.count := by
    rw [List.length_take, List.length_reverse]
    exact min_eq_left (Nat.min_le_right ..)
  exact ⟨_, Texts.history_lists _, by rw [length], length⟩

/-- A configuration that is read has numbers that can be worked with and makes an agent, which
keeps within it whatever it is called for.  Settings make no agent exactly if their capacity is no
positive whole number, and then it is said which capacity they have. -/
theorem Config.load_makes_agent :
    (∀ env c, Config.load env = .ok c → c.Fits ∧ ∃ a, Agent.new? c.settings = .ok a ∧
      ∀ calls, c.Keeps (a.run calls) (a.answered 0 calls)) ∧
    ∀ s : Settings, (¬∃ n : Nat, 0 < n ∧ s.maxHistory.toInt? = some (n : Int)) ↔
      ∃ bad, Agent.new? s = .error bad ∧
        bad.message = "max_history must be a positive integer, got " ++ s.maxHistory.text := by
  refine ⟨fun env c loaded => ?_, fun s => ?_⟩
  · have fits := Config.fits_of_load loaded
    obtain ⟨a, made⟩ := fits.exists_agent
    exact ⟨fits, a, made, fits.keeps made⟩
  · simp only [Agent.new?_eq_error_iff, History.withCapacity_eq_error_iff]
    constructor
    · intro notPositive
      exact ⟨_, ⟨notPositive, rfl⟩, BadCapacity.message_eq _⟩
    · rintro ⟨_, ⟨notPositive, _⟩, _⟩
      exact notPositive

/-- Of three answers two are held. -/
theorem Config.load_makes_agent_of_two :
    let env : Environment := fun name =>
      if name = "CALC_MAX_HISTORY" then some "0x2"
      else if name = "CALC_HISTORY_DISPLAY" then some " 1e0\n" else none
    let calls : List AgentCall :=
      [.answer 0 (.text "1 + 1"), .answer 1 (.text "2 + 2"), .answer 2 (.text "3 + 3")]
    ∃ c, Config.load env = .ok c ∧ ∃ a, Agent.new? c.settings = .ok a ∧
      (a.run calls).history.count = 2 ∧ c.Keeps (a.run calls) 3 := by
  intro env calls
  let c : Config := ⟨2, 1, 10000, .from .info, "0.0.0.0", 5000⟩
  have loaded : Config.load env = .ok c := by decide +kernel
  obtain ⟨fits, a, made, keeps⟩ := Config.load_makes_agent.1 env c loaded
  obtain ⟨history, holds, rfl⟩ := Agent.new?_eq_ok made
  have isNew : History.withCapacity c.settings.maxHistory = .ok (.new 2 (by decide)) :=
    History.withCapacity_of_toInt? fits.maxHistory (by decide)
  obtain rfl := Except.ok.inj (isNew.symm.trans holds)
  have three : (Agent.standard c.settings (.new 2 (by decide))).answered 0 calls = 3 := by
    decide +kernel
  have kept := keeps calls
  rw [three] at kept
  exact ⟨c, loaded, _, made, kept.count, kept⟩

end Reckoner
