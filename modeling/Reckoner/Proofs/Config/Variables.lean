import Reckoner.Config.Basic
import Reckoner.Proofs.Binary64.Whole
import Mathlib.Data.List.TakeWhile
import Mathlib.Tactic.Choose

/-! # A configuration, variable by variable

Each variable of an environment is read as if it were the only one that is set:

* `Variable` — the variables, each with its name, its default, its reader and its field.
* `load_eq_ok_iff`, `issues_of_load` — a configuration from what its variables are read as.
* `load_only_eq_ok_iff`, `issuesOf_load_only` — the configuration of one variable alone.
* `load_factors` — all of them together against each alone.
-/

namespace Reckoner

/-- The environment in which no other variable is set. -/
def Environment.only (env : Environment) (name : String) : Environment :=
  fun other => if other = name then env other else none

/-- The environment in which one variable is set, and no other. -/
def Environment.just (name text : String) : Environment :=
  fun other => if other = name then some text else none

theorem Environment.only_just (name text : String) :
    (just name text).only name = just name text := by
  funext other
  by_cases same : other = name <;> simp [only, just, same]

/-! ## Issues of a check -/

theorem accept_eq_error {α : Type} {place : String} {messages : List String} {value : α}
    {issues : List Issue} (refused : accept place messages value = .error issues) :
    issues ≠ [] ∧ ∀ issue ∈ issues, issue.place = place := by
  unfold accept at refused
  split at refused
  next => cases refused
  next nonempty =>
    cases refused
    refine ⟨?_, by simp⟩
    simpa [List.isEmpty_iff] using nonempty

theorem accept_eq_ok {α : Type} {place : String} {messages : List String} {value accepted : α}
    (kept : accept place messages value = .ok accepted) : messages = [] ∧ accepted = value := by
  unfold accept at kept
  split at kept
  next empty => exact ⟨List.isEmpty_iff.mp empty, (Except.ok.inj kept).symm⟩
  next => cases kept

theorem wholeIssues_eq_nil_iff {bounds : Bounds} {n : Int} :
    wholeIssues bounds n = [] ↔ ((-safeLimit ≤ n ∧ n ≤ safeLimit) ∧
      ∀ least, bounds.least? = some least → least ≤ n) ∧
      ∀ greatest, bounds.greatest? = some greatest → n ≤ greatest := by
  obtain ⟨least?, greatest?⟩ := bounds
  simp only [wholeIssues, List.append_eq_nil_iff]
  refine and_congr (and_congr ?_ ?_) ?_
  · split
    next => simp; omega
    next => split <;> simp <;> omega
  · cases least? <;> simp
  · cases greatest? <;> simp

theorem integerIssues_eq_nil_iff {bounds : Bounds} {x : Binary64} :
    integerIssues bounds x = [] ↔ ∃ n, x.toInt? = some n ∧ wholeIssues bounds n = [] := by
  unfold integerIssues
  cases whole : x.toInt? with
  | none => split <;> simp
  | some n => simp [Binary64.isFinite_of_toInt? whole]

/-- A number is accepted exactly if the text is read as a whole number within the bounds. -/
theorem NumberVariable.parse_eq_ok_iff {v : NumberVariable} {text : String} {n : Nat} :
    v.parse text = .ok n ↔ ∃ m : Int, (Binary64.read text.toList).toInt? = some m ∧
      wholeIssues v.bounds m = [] ∧ n = m.toNat := by
  constructor
  · intro parsed
    obtain ⟨none, rfl⟩ := accept_eq_ok parsed
    obtain ⟨m, whole, fine⟩ := integerIssues_eq_nil_iff.mp none
    exact ⟨m, whole, fine, by rw [whole, Option.getD_some]⟩
  · rintro ⟨m, whole, fine, rfl⟩
    have none := integerIssues_eq_nil_iff.mpr ⟨m, whole, fine⟩
    simp only [parse, accept, none, whole, List.isEmpty_nil, if_true, Option.getD_some]

/-- Whatever a variable is read as keeps its bounds, if its default does. -/
theorem NumberVariable.bounds_of_read (v : NumberVariable) (least : Nat) {env : Environment}
    {n : Nat} (bounded : v.bounds.least? = some (least : Int))
    (default : wholeIssues v.bounds v.default = []) (reads : v.read env = .ok n) :
    least ≤ n ∧ (n : Int) ≤ safeLimit ∧
      ∀ greatest, v.bounds.greatest? = some greatest → (n : Int) ≤ greatest := by
  have fine : wholeIssues v.bounds n = [] := by
    unfold read at reads
    split at reads
    next text set =>
      obtain ⟨m, -, fine, rfl⟩ := parse_eq_ok_iff.mp reads
      -- The bounds leave no negative number, so none is lost where the sign is.
      have above := (wholeIssues_eq_nil_iff.mp fine).1.2 _ bounded
      rwa [Int.toNat_of_nonneg ((Int.natCast_nonneg least).trans above)]
    next =>
      cases reads
      exact default
  obtain ⟨⟨⟨_, safe⟩, above⟩, below⟩ := wholeIssues_eq_nil_iff.mp fine
  exact ⟨by exact_mod_cast above _ bounded, safe, below⟩

/-! ## Variables -/

inductive Variable where
  | maxHistory
  | historyDisplay
  | maxFactorial
  | logLevel
  | host
  | port
deriving DecidableEq

namespace Variable

open Config

def all : List Variable :=
  [maxHistory, historyDisplay, maxFactorial, logLevel, host, port]

def name : Variable → String
  | maxHistory => maxHistoryVariable.name
  | historyDisplay => historyDisplayVariable.name
  | maxFactorial => maxFactorialVariable.name
  | logLevel => logLevelName
  | host => hostName
  | port => portVariable.name

/-- What a variable stands for. -/
def Value : Variable → Type
  | maxHistory | historyDisplay | maxFactorial | port => Nat
  | logLevel => LogThreshold
  | host => String

/-- The value of a variable that is not set. -/
def default : (v : Variable) → v.Value
  | maxHistory => (100 : Nat)
  | historyDisplay => (10 : Nat)
  | maxFactorial => (10000 : Nat)
  | logLevel => LogThreshold.from .info
  | host => "0.0.0.0"
  | port => (5000 : Nat)

/-- What a text says that a variable is set to. -/
def parse : (v : Variable) → String → Checked v.Value
  | maxHistory => maxHistoryVariable.parse
  | historyDisplay => historyDisplayVariable.parse
  | maxFactorial => maxFactorialVariable.parse
  | logLevel => fun text =>
      match LogThreshold.ofName? text with
      | some level => .ok level
      | none => .error [{ place := logLevelName, message := unknownLevelMessage }]
  | host => fun text => accept hostName (nonEmptyIssues text) text
  | port => portVariable.parse

def read : (v : Variable) → Environment → Checked v.Value
  | maxHistory => maxHistoryVariable.read
  | historyDisplay => historyDisplayVariable.read
  | maxFactorial => maxFactorialVariable.read
  | logLevel => readLogLevel
  | host => readHost
  | port => portVariable.read

/-- The value of a variable in a configuration. -/
def of : (v : Variable) → Config → v.Value
  | maxHistory => Config.maxHistory
  | historyDisplay => Config.historyDisplayLimit
  | maxFactorial => Config.maxFactorial
  | logLevel => Config.logLevel
  | host => Config.host
  | port => Config.port

theorem map_name_all : all.map name = variableNames := rfl

theorem mem_all (v : Variable) : v ∈ all := by
  cases v <;> simp [all]

theorem name_injective : Function.Injective name := by
  intro v w same
  cases v <;> cases w <;> first | rfl | exact absurd same (by decide)

/-! ### Reading one variable -/

section Read

variable {v : Variable} {env env' : Environment} {issues : List Issue}

/-- A variable is read from its own text alone. -/
theorem read_eq (v : Variable) (env : Environment) :
    v.read env = match env v.name with
      | some text => v.parse text
      | none => .ok v.default := by
  cases v with
  | logLevel =>
    show readLogLevel env = _
    unfold readLogLevel
    cases set : env logLevelName <;> simp only [name, set] <;> rfl
  | host =>
    show readHost env = _
    unfold readHost
    cases set : env hostName <;> simp only [name, set] <;> rfl
  | _ => rfl

theorem read_of_absent (absent : env v.name = none) : v.read env = .ok v.default := by
  rw [read_eq, absent]

theorem read_congr (same : env v.name = env' v.name) : v.read env = v.read env' := by
  rw [read_eq, read_eq, same]

theorem parse_eq_error {text : String} (refused : v.parse text = .error issues) :
    issues ≠ [] ∧ ∀ issue ∈ issues, issue.place = v.name := by
  cases v with
  | logLevel =>
    simp only [parse] at refused
    split at refused
    next => cases refused
    next => cases refused; simp [name]
  | _ => exact accept_eq_error refused

/-- A variable that is refused has an issue, and all its issues are under its name. -/
theorem read_eq_error (refused : v.read env = .error issues) :
    issues ≠ [] ∧ ∀ issue ∈ issues, issue.place = v.name := by
  rw [read_eq] at refused
  split at refused
  next => exact parse_eq_error refused
  next => cases refused

theorem read_only_self (v : Variable) (env : Environment) : v.read (env.only v.name) = v.read env :=
  read_congr (if_pos rfl)

theorem read_only_other {w : Variable} (other : w ≠ v) :
    w.read (env.only v.name) = .ok w.default :=
  read_of_absent (if_neg (name_injective.ne other))

theorem read_just (v : Variable) (text : String) : v.read (.just v.name text) = v.parse text := by
  rw [read_eq, Environment.just, if_pos rfl]

theorem issues_read_only (v w : Variable) (env : Environment) :
    (w.read (env.only v.name)).issues = if w = v then (v.read env).issues else [] := by
  by_cases same : w = v
  · rw [if_pos same, same, read_only_self]
  · rw [if_neg same, read_only_other same, Checked.issues]

theorem exists_issue_iff :
    (∃ issue, issue ∈ (v.read env).issues) ↔ ∃ bad, v.read env = .error bad := by
  cases given : v.read env with
  | ok value => simp [Checked.issues]
  | error bad => simp [Checked.issues, List.exists_mem_of_ne_nil _ (read_eq_error given).1]

end Read

end Variable

/-! ## Configurations -/

namespace Config

/-- A configuration with the given values of the variables. -/
def ofValues (values : (v : Variable) → v.Value) : Config :=
  { maxHistory := values .maxHistory
    historyDisplayLimit := values .historyDisplay
    maxFactorial := values .maxFactorial
    logLevel := values .logLevel
    host := values .host
    port := values .port }

theorem of_ofValues (values : (v : Variable) → v.Value) (v : Variable) :
    v.of (ofValues values) = values v := by
  cases v <;> rfl

section Load

variable {env : Environment} {c : Config} {e : ConfigError}

theorem load_eq_ok_iff : load env = .ok c ↔ ∀ v : Variable, v.read env = .ok (v.of c) := by
  constructor
  · intro loaded v
    simp only [load] at loaded
    split at loaded
    next maxHistory historyDisplay maxFactorial logLevel host port =>
      cases loaded
      cases v <;> assumption
    next => cases loaded
  · intro reads
    have maxHistory : maxHistoryVariable.read env = _ := reads .maxHistory
    have historyDisplay : historyDisplayVariable.read env = _ := reads .historyDisplay
    have maxFactorial : maxFactorialVariable.read env = _ := reads .maxFactorial
    have logLevel : readLogLevel env = _ := reads .logLevel
    have host : readHost env = _ := reads .host
    have port : portVariable.read env = _ := reads .port
    simp only [load, maxHistory, historyDisplay, maxFactorial, logLevel, host, port]
    rfl

/-- What is wrong with a configuration is what is wrong with its variables, in their order. -/
theorem issues_of_load (refused : load env = .error e) :
    e.issues = Variable.all.flatMap fun v => (v.read env).issues := by
  simp only [load] at refused
  split at refused
  next => cases refused
  next =>
    cases refused
    simp only [Variable.all, List.flatMap_cons, List.flatMap_nil, List.append_assoc,
      List.append_nil]
    rfl

theorem exists_load_iff :
    (∃ c, load env = .ok c) ↔ ∀ v : Variable, ∃ value, v.read env = .ok value := by
  constructor
  · rintro ⟨c, loaded⟩ v
    exact ⟨v.of c, load_eq_ok_iff.mp loaded v⟩
  · intro reads
    choose values reads using reads
    exact ⟨ofValues values, load_eq_ok_iff.mpr fun v => by rw [reads, of_ofValues]⟩

/-! ### One variable alone -/

theorem load_only_eq_ok_iff {v : Variable} :
    (∃ c, load (env.only v.name) = .ok c) ↔ ∃ value, v.read env = .ok value := by
  rw [exists_load_iff]
  constructor
  · intro reads
    rw [← v.read_only_self]
    exact reads v
  · intro reads w
    by_cases same : w = v
    · subst same
      rwa [w.read_only_self]
    · exact ⟨_, Variable.read_only_other same⟩

theorem load_just_eq_ok_iff {v : Variable} {text : String} {value : v.Value} :
    (∃ c, load (.just v.name text) = .ok c ∧ v.of c = value) ↔ v.parse text = .ok value := by
  constructor
  · rintro ⟨c, loaded, rfl⟩
    rw [← v.read_just]
    exact load_eq_ok_iff.mp loaded v
  · intro parsed
    rw [← v.read_just] at parsed
    have alone := load_only_eq_ok_iff.mpr ⟨value, parsed⟩
    rw [Environment.only_just] at alone
    obtain ⟨c, loaded⟩ := alone
    have reads := load_eq_ok_iff.mp loaded v
    exact ⟨c, loaded, Except.ok.inj (reads.symm.trans parsed)⟩

/-- What is wrong with an environment; nothing if it gives a configuration. -/
def issuesOf (env : Environment) : List Issue :=
  match load env with
  | .ok _ => []
  | .error e => e.issues

theorem issuesOf_eq (env : Environment) :
    issuesOf env = Variable.all.flatMap fun v => (v.read env).issues := by
  unfold issuesOf
  split
  next c loaded =>
    have reads := load_eq_ok_iff.mp loaded
    simp [reads, Checked.issues]
  next e refused => exact issues_of_load refused

theorem issuesOf_load_only (v : Variable) (env : Environment) :
    issuesOf (env.only v.name) = (v.read env).issues := by
  rw [issuesOf_eq]
  simp only [Variable.issues_read_only]
  cases v <;> simp [Variable.all]

end Load

/-! ### Issues as they are shown -/

theorem text_issue (issue : Issue) : issue.text = issue.place ++ ": " ++ issue.message := by
  simp [Issue.text, toString]

/-- A name has no colon, so it is told from the text of an issue. -/
theorem name_of_text {v w : Variable} {message message' : String}
    (same : v.name ++ ": " ++ message = w.name ++ ": " ++ message') : v = w := by
  have plain (u : Variable) : ∀ c ∈ u.name.toList, (c != ':') = true := by
    apply List.all_eq_true.mp
    cases u <;> rfl
  have start (u : Variable) (rest : String) :
      (u.name ++ ": " ++ rest).toList.takeWhile (· != ':') = u.name.toList := by
    rw [String.toList_append, String.toList_append, List.append_assoc,
      List.takeWhile_append_of_pos (plain u)]
    simp
  apply Variable.name_injective
  rw [← String.toList_inj, ← start v message, same, start]

theorem names_issue_iff {issues : List Issue} {v : Variable}
    (named : ∀ issue ∈ issues, ∃ w : Variable, issue.place = w.name) :
    (∃ message, v.name ++ ": " ++ message ∈ issues.map Issue.text) ↔
      ∃ issue ∈ issues, issue.place = v.name := by
  constructor
  · rintro ⟨message, member⟩
    obtain ⟨issue, member, text⟩ := List.mem_map.mp member
    obtain ⟨w, place⟩ := named issue member
    rw [text_issue, place] at text
    exact ⟨issue, member, name_of_text text ▸ place⟩
  · rintro ⟨issue, member, place⟩
    exact ⟨issue.message, List.mem_map.mpr ⟨issue, member, by rw [text_issue, place]⟩⟩

/-! ### All variables together -/

section Together

variable {env : Environment}

theorem place_of_issue {issue : Issue} (member : issue ∈ issuesOf env) :
    ∃ v : Variable, issue ∈ (v.read env).issues ∧ issue.place = v.name := by
  rw [issuesOf_eq, List.mem_flatMap] at member
  obtain ⟨v, -, member⟩ := member
  refine ⟨v, member, ?_⟩
  cases given : v.read env with
  | ok value => simp [given, Checked.issues] at member
  | error bad =>
    rw [given] at member
    exact (Variable.read_eq_error given).2 issue member

theorem names_iff (v : Variable) :
    (∃ message, v.name ++ ": " ++ message ∈ (issuesOf env).map Issue.text) ↔
      ∃ bad, v.read env = .error bad := by
  rw [names_issue_iff fun issue member => (place_of_issue member).imp fun _ => And.right]
  constructor
  · rintro ⟨issue, member, place⟩
    obtain ⟨w, member, place'⟩ := place_of_issue member
    obtain rfl := Variable.name_injective (place.symm.trans place')
    exact Variable.exists_issue_iff.mp ⟨issue, member⟩
  · intro refused
    obtain ⟨issue, member⟩ := Variable.exists_issue_iff.mpr refused
    obtain ⟨bad, given⟩ := refused
    refine ⟨issue, ?_, ?_⟩
    · rw [issuesOf_eq, List.mem_flatMap]
      exact ⟨v, v.mem_all, member⟩
    · rw [given] at member
      exact (Variable.read_eq_error given).2 issue member

theorem load_congr {env' : Environment} (same : ∀ v : Variable, env' v.name = env v.name) :
    load env' = load env := by
  have reads (v : Variable) : v.read env' = v.read env := Variable.read_congr (same v)
  have maxHistory : maxHistoryVariable.read env' = _ := reads .maxHistory
  have historyDisplay : historyDisplayVariable.read env' = _ := reads .historyDisplay
  have maxFactorial : maxFactorialVariable.read env' = _ := reads .maxFactorial
  have logLevel : readLogLevel env' = _ := reads .logLevel
  have host : readHost env' = _ := reads .host
  have port : portVariable.read env' = _ := reads .port
  simp only [load, maxHistory, historyDisplay, maxFactorial, logLevel, host, port]
  rfl

theorem exists_error_iff {ε α : Type} {x : Except ε α} :
    (∃ e, x = .error e) ↔ ¬ ∃ a, x = .ok a := by
  cases x <;> simp

end Together

/-- An environment gives a configuration exactly if each of the variables that are read does so
alone.  What is wrong with it is, variable by variable, what is wrong with each alone, so that the
variables that are refused are named and no others; and each value is the one that its variable
gives alone.  Nothing else in the environment matters. -/
theorem load_factors (env : Environment) :
    Variable.all.map Variable.name = variableNames ∧
    ((∃ c, load env = .ok c) ↔ ∀ v : Variable, ∃ c, load (env.only v.name) = .ok c) ∧
    (∀ e, load env = .error e →
      e.issues = Variable.all.flatMap (fun v => issuesOf (env.only v.name)) ∧
        ∀ v : Variable, (∃ message, v.name ++ ": " ++ message ∈ e.issues.map Issue.text) ↔
          ∃ bad, load (env.only v.name) = .error bad) ∧
    (∀ c, load env = .ok c → ∀ v : Variable, ∃ alone,
      load (env.only v.name) = .ok alone ∧ v.of c = v.of alone ∧
        (env v.name = none → v.of c = v.default)) ∧
    ∀ env' : Environment, (∀ v : Variable, env' v.name = env v.name) → load env' = load env := by
  refine ⟨Variable.map_name_all, ?_, fun e refused => ⟨?_, fun v => ?_⟩, fun c loaded v => ?_,
    fun env' => load_congr⟩
  · simp only [load_only_eq_ok_iff, exists_load_iff]
  · simp only [issuesOf_load_only]
    exact issues_of_load refused
  · have issues : issuesOf env = e.issues := by rw [issuesOf, refused]
    rw [← issues, names_iff, exists_error_iff, exists_error_iff, load_only_eq_ok_iff]
  · have reads := load_eq_ok_iff.mp loaded v
    obtain ⟨alone, accepted⟩ := load_only_eq_ok_iff.mpr ⟨_, reads⟩
    have readsAlone := load_eq_ok_iff.mp accepted v
    rw [v.read_only_self, reads] at readsAlone
    refine ⟨alone, accepted, Except.ok.inj readsAlone, fun absent => ?_⟩
    rw [Variable.read_of_absent absent] at reads
    exact (Except.ok.inj reads).symm

/-- Two variables are refused, the second of them twice over, and a third is good. -/
theorem load_factors_of_two :
    let env : Environment := fun name =>
      if name = "CALC_MAX_HISTORY" then some "0x0" else if name = "PORT" then some "-1e300"
      else if name = "HOST" then some "::1" else none
    ∃ e, load env = .error e ∧
      e.issues.map Issue.text =
        ["CALC_MAX_HISTORY: Too small: expected number to be >=1",
          "PORT: Too small: expected int to be >=-9007199254740991",
          "PORT: Too small: expected number to be >=0"] ∧
      e.issues = Variable.all.flatMap fun v => issuesOf (env.only v.name) := by
  intro env
  have texts : (issuesOf env).map Issue.text =
      ["CALC_MAX_HISTORY: Too small: expected number to be >=1",
        "PORT: Too small: expected int to be >=-9007199254740991",
        "PORT: Too small: expected number to be >=0"] := by decide +kernel
  cases given : load env with
  | ok c => simp [issuesOf, given] at texts
  | error e =>
    rw [issuesOf, given] at texts
    exact ⟨e, rfl, texts, ((load_factors env).2.2.1 e given).1⟩

end Config
end Reckoner
