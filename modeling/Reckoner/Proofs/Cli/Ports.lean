import Reckoner.Cli.Invocation
import Reckoner.Proofs.Config.Variables
import Reckoner.Proofs.Decimal.Spelling

/-! # Two readers of a port

A port is read from a switch of the command line and from a variable of the environment, each by a
reader of its own.

* `port?_eq_some_iff`, `parse_port_eq_ok_iff` — what each of the two accepts.
* `port_readers_agree` — they accept the same texts, and read the same port from them.
-/

namespace Reckoner

namespace Cli

/-- A text is a port if it is read as a whole number up to 65535. -/
def IsPort (text : String) (n : Nat) : Prop :=
  n ≤ 65535 ∧ (Binary64.read text.toList).toInt? = some (n : Int)

theorem port?_eq_some_iff {text : String} {n : Nat} : port? text = some n ↔ IsPort text n := by
  unfold port? IsPort
  cases (Binary64.read text.toList).toInt? with
  | none => simp
  | some m =>
    simp only [Option.ite_none_right_eq_some, Option.some.injEq]
    omega

theorem wholeIssues_port_eq_nil_iff {m : Int} :
    wholeIssues Config.portVariable.bounds m = [] ↔ 0 ≤ m ∧ m ≤ 65535 := by
  rw [wholeIssues_eq_nil_iff]
  simp only [Config.portVariable, safeLimit, Option.some.injEq, forall_eq']
  omega

theorem parse_port_eq_ok_iff {text : String} {n : Nat} :
    Variable.port.parse text = .ok n ↔ IsPort text n := by
  show Config.portVariable.parse text = .ok n ↔ _
  rw [NumberVariable.parse_eq_ok_iff]
  constructor
  · rintro ⟨m, whole, fine, rfl⟩
    obtain ⟨nonneg, small⟩ := wholeIssues_port_eq_nil_iff.mp fine
    refine ⟨by omega, ?_⟩
    rw [whole, Int.toNat_of_nonneg nonneg]
  · rintro ⟨small, whole⟩
    refine ⟨n, whole, wholeIssues_port_eq_nil_iff.mpr ?_, rfl⟩
    omega

theorem load_port_iff {text : String} {n : Nat} :
    (∃ c, Config.load (.just "PORT" text) = .ok c ∧ c.port = n) ↔ IsPort text n := by
  rw [← parse_port_eq_ok_iff]
  exact Config.load_just_eq_ok_iff (v := .port)

/-- The switch and the variable accept the same texts: those that stand for a whole number up to
65535, blanks at their ends apart.  Both read that number, and the switch sets it as the port. -/
theorem port_readers_agree (text : String) :
    (∀ n, port? text = some n ↔
      ∃ c, Config.load (.just "PORT" text) = .ok c ∧ c.port = n) ∧
    (port? text = none ↔ ∃ e, Config.load (.just "PORT" text) = .error e) ∧
    (∀ n, port? text = some n ↔ n ≤ 65535 ∧
      ∃ x, Binary64.StandsFor text.toList x ∧ x.toInt? = some (n : Int)) ∧
    ∀ start : Address, addressOf start [.value .port text] =
      match Config.load (.just "PORT" text) with
      | .ok c => .ok { start with port := c.port }
      | .error _ => .error (.badPort text) := by
  have agree (n : Nat) : port? text = some n ↔
      ∃ c, Config.load (.just "PORT" text) = .ok c ∧ c.port = n := by
    rw [port?_eq_some_iff, load_port_iff]
  have refused : port? text = none ↔ ∃ e, Config.load (.just "PORT" text) = .error e := by
    rw [Config.exists_error_iff, Option.eq_none_iff_forall_ne_some, not_exists]
    constructor
    · intro none c loaded
      exact none c.port ((agree c.port).mpr ⟨c, loaded, rfl⟩)
    · intro none n accepted
      obtain ⟨c, loaded, -⟩ := (agree n).mp accepted
      exact none c loaded
  refine ⟨agree, refused, fun n => ?_, fun start => ?_⟩
  · rw [port?_eq_some_iff, IsPort, Binary64.toInt?_read_eq_some_iff]
  · cases loaded : Config.load (.just "PORT" text) with
    | ok c =>
      have accepted : port? text = some c.port := (agree c.port).mpr ⟨c, loaded, rfl⟩
      simp only [addressOf, accepted]
    | error e =>
      have noPort : port? text = none := refused.mpr ⟨e, loaded⟩
      simp only [addressOf, noPort]

end Cli

end Reckoner
