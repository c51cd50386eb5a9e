import Reckoner.Proofs.Chain.Rank
import Reckoner.Proofs.Chain.Selection

/-! # The deciding member

Of the members of a chain one decides what is made of a text or an operation: the first, in
rank order, that does not decline.  Its answer is that of the chain, whether it is a value, a
request or a failure, and no other member has a say in it.

* `Parser.answer`, `Calculator.answer` — what a part says when it is asked.
* `ParserChain.DecidedBy`, `CalculatorChain.DecidedBy` — the deciding member.
* `ParserChain.read_of_decidedBy`, `CalculatorChain.evaluate_of_decidedBy` — it decides.
* `isFirst_register` — a member of no lower priority that is registered later comes after it.
* `ParserChain.Selects`, `CalculatorChain.Selects`, `chains_select` — all of this together.
-/

namespace Reckoner

variable {α : Type}

/-! ## First members -/

section IsFirst

variable {skips : α → Prop} {part : α} {parts : List α}

theorem IsFirst.mem (first : IsFirst skips part parts) : part ∈ parts := by
  induction first with
  | head => exact List.mem_cons_self
  | tail _ _ ih => exact List.mem_cons_of_mem _ ih

theorem IsFirst.append_right (first : IsFirst skips part parts) (later : List α) :
    IsFirst skips part (parts ++ later) := by
  induction first with
  | head => exact .head
  | tail skipped _ ih => exact .tail skipped ih

theorem IsFirst.of_append {earlier later : List α} (first : IsFirst skips part (earlier ++ later))
    (notLater : part ∉ later) : IsFirst skips part earlier := by
  induction earlier with
  | nil => exact absurd first.mem notLater
  | cons other rest ih =>
    cases first with
    | head => exact .head
    | tail skipped first => exact .tail skipped (ih first)

theorem IsFirst.map {β : Type} {f : β → α} {member : β} {members : List β}
    (first : IsFirst (fun other => skips (f other)) member members) :
    IsFirst skips (f member) (members.map f) := by
  induction first with
  | head => exact .head
  | tail skipped _ ih => exact .tail skipped ih

theorem isFirst_register {chain : Chain α} {skips : Member α → Prop} {member new : Member α}
    (isRanked : chain.IsRanked) (first : IsFirst skips member chain.ranked)
    (later : member.priority ≤ new.priority) :
    IsFirst skips member (chain.register new).ranked := by
  obtain ⟨number, number'⟩ := Binary64.ne_nan_of_le later
  obtain ⟨before, after, split, split', _, above⟩ := Chain.ranked_register isRanked number'
  rw [split] at first
  rw [split']
  apply IsFirst.append_right
  apply first.of_append
  -- Behind the new member there are only members of greater priority.
  intro inside
  exact (Binary64.not_le number number').mpr (above member inside) later

end IsFirst

/-! ## Parsers -/

/-- What a parser says of a text: the request that it makes if it claims the text, or its
    failure. -/
def Parser.answer (parser : Parser) (text : String) : Except Failure (Option Request) := do
  if ← parser.claims text then parser.read text else return none

/-- The member says something about the text, and those that are asked before it do not. -/
structure ParserChain.DecidedBy (chain : ParserChain) (text : String)
    (member : Member Parser) : Prop where
  first : IsFirst (fun other => other.part.Declines text) member chain.ranked
  speaks : ¬ member.part.Declines text

namespace ParserChain

variable {chain : ParserChain} {text : String} {member new : Member Parser}

theorem firstRequest_singleton (parser : Parser) :
    firstRequest text [parser] = parser.answer text := by
  unfold Parser.answer
  cases claims : parser.claims text with
  | error failure => simp [firstRequest, claims, bind, Except.bind]
  | ok claimed =>
    cases claimed with
    | false => simp [firstRequest, claims, bind, Except.bind, pure, Except.pure]
    | true =>
      cases reads : parser.read text with
      | error failure => simp [firstRequest, claims, reads, bind, Except.bind]
      | ok request? =>
        cases request? <;>
          simp [firstRequest, claims, reads, bind, Except.bind, pure, Except.pure]

theorem read_of_decidedBy (decided : chain.DecidedBy text member) :
    chain.read text = member.part.answer text := by
  rw [← firstRequest_singleton]
  exact firstRequest_decides decided.first.map decided.speaks

theorem decidedBy_or (chain : ParserChain) (text : String) :
    (∃ member, chain.DecidedBy text member) ∨
      ∀ member ∈ chain.members, member.part.Declines text := by
  rcases exists_isFirst (fun other : Member Parser => other.part.Declines text) chain.ranked with
    all | ⟨member, first, speaks⟩
  · exact .inr fun member inside => all member (Chain.mem_ranked.mpr inside)
  · exact .inl ⟨member, first, speaks⟩

theorem read_of_all_decline (decline : ∀ member ∈ chain.members, member.part.Declines text) :
    chain.read text = .ok none := by
  apply firstRequest_of_all_decline
  intro parser inside
  obtain ⟨member, isMember, rfl⟩ := List.mem_map.mp inside
  exact decline member (Chain.mem_ranked.mp isMember)

theorem read_of_not_claims (unclaimed : chain.claims text = .ok false) :
    chain.read text = .ok none := by
  -- No member fails when it is asked, for that would be the answer of the chain.
  have nowhere : firstWith (·.part.claims text) chain.ranked = .ok none := by
    unfold claims at unclaimed
    cases found : firstWith (·.part.claims text) chain.ranked with
    | error failure => simp [found, Except.map] at unclaimed
    | ok member? =>
      cases member? with
      | none => rfl
      | some member => simp [found, Except.map] at unclaimed
  apply read_of_all_decline
  intro member inside
  exact .unclaimed (firstWith_eq_none.mp nowhere member (Chain.mem_ranked.mpr inside))

theorem DecidedBy.register (decided : chain.DecidedBy text member) (isRanked : chain.IsRanked)
    (later : member.priority ≤ new.priority) :
    ParserChain.DecidedBy (chain.register new) text member where
  first := isFirst_register isRanked decided.first later
  speaks := decided.speaks

/-- What a chain of parsers makes of a text. -/
structure Selects (chain : ParserChain) (text : String) : Prop where
  decided : (∃ member, chain.DecidedBy text member) ∨
    ∀ member ∈ chain.members, member.part.Declines text
  read (member : Member Parser) : chain.DecidedBy text member →
    chain.read text = member.part.answer text
  silent : (∀ member ∈ chain.members, member.part.Declines text) → chain.read text = .ok none
  unclaimed : chain.claims text = .ok false → chain.read text = .ok none
  /-- Neither members that decline nor those after the deciding one make a difference. -/
  others (member : Member Parser) (other : ParserChain) : chain.DecidedBy text member →
    other.DecidedBy text member → other.read text = chain.read text
  /-- A priority that is NaN would leave open who comes later. -/
  register (member new : Member Parser) : chain.IsRanked → chain.DecidedBy text member →
    member.priority ≤ new.priority →
      ParserChain.read (chain.register new) text = chain.read text

theorem selects (chain : ParserChain) (text : String) : chain.Selects text where
  decided := decidedBy_or chain text
  read _ := read_of_decidedBy
  silent := read_of_all_decline
  unclaimed := read_of_not_claims
  others _ _ decided decided' :=
    (read_of_decidedBy decided').trans (read_of_decidedBy decided).symm
  register _ _ isRanked decided later :=
    (read_of_decidedBy (decided.register isRanked later)).trans (read_of_decidedBy decided).symm

end ParserChain

/-! ## Calculators -/

/-- What a calculator says of an operation: its value or its failure, also if it fails while it
    is asked whether it supports the operation. -/
def Calculator.answer (calculator : Calculator) (operation : String)
    (operands : List Binary64) : Except Failure Value := do
  let _ ← calculator.supports operation
  calculator.evaluate operation operands

/-- The member supports the operation, or fails when it is asked, and those that are asked
    before it do not support it. -/
structure CalculatorChain.DecidedBy (chain : CalculatorChain) (operation : String)
    (member : Member Calculator) : Prop where
  first : IsFirst (fun other => other.part.supports operation = .ok false) member chain.ranked
  stays : member.part.supports operation ≠ .ok false

namespace CalculatorChain

variable {chain : CalculatorChain} {operation : String} {operands : List Binary64}
  {member new : Member Calculator}

theorem evaluate_of_decidedBy (decided : chain.DecidedBy operation member) :
    chain.evaluate operation operands = member.part.answer operation operands := by
  have found := firstWith_decides decided.first decided.stays
  cases supports : member.part.supports operation with
  | error failure =>
    rw [supports] at found
    simp [evaluate_of_find?_error found, Calculator.answer, supports, bind, Except.bind]
  | ok supported =>
    rw [supports] at found
    simp [evaluate_of_find?_some found, Calculator.answer, supports, bind, Except.bind]

theorem supports_eq_false :
    chain.supports operation = .ok false ↔
      ∀ member ∈ chain.members, member.part.supports operation = .ok false := by
  have nowhere : chain.supports operation = .ok false ↔ chain.find? operation = .ok none := by
    unfold supports
    cases chain.find? operation with
    | error failure => simp [Except.map]
    | ok member? => cases member? <;> simp [Except.map]
  rw [nowhere]
  simp only [find?, firstWith_eq_none, Chain.mem_ranked]

theorem decidedBy_or (chain : CalculatorChain) (operation : String) :
    (∃ member, chain.DecidedBy operation member) ∨ chain.supports operation = .ok false := by
  rcases exists_isFirst
      (fun other : Member Calculator => other.part.supports operation = .ok false)
      chain.ranked with all | ⟨member, first, stays⟩
  · exact .inr (supports_eq_false.mpr fun member inside => all member (Chain.mem_ranked.mpr inside))
  · exact .inl ⟨member, first, stays⟩

theorem DecidedBy.mem (decided : chain.DecidedBy operation member) : member ∈ chain.members :=
  Chain.mem_ranked.mp decided.first.mem

theorem evaluate_of_unsupported (unsupported : chain.supports operation = .ok false) :
    chain.evaluate operation operands =
      .error (.calculation (.unsupportedOperation operation)) := by
  apply evaluate_of_find?_none
  apply firstWith_eq_none.mpr
  intro member inside
  exact supports_eq_false.mp unsupported member (Chain.mem_ranked.mp inside)

theorem DecidedBy.register (decided : chain.DecidedBy operation member)
    (isRanked : chain.IsRanked) (later : member.priority ≤ new.priority) :
    CalculatorChain.DecidedBy (chain.register new) operation member where
  first := isFirst_register isRanked decided.first later
  stays := decided.stays

/-- What a chain of calculators makes of an operation. -/
structure Selects (chain : CalculatorChain) (operation : String) (operands : List Binary64) :
    Prop where
  /-- There is no deciding member exactly if the operation is not supported. -/
  undecided : chain.supports operation = .ok false ↔ ¬ ∃ member, chain.DecidedBy operation member
  evaluate (member : Member Calculator) : chain.DecidedBy operation member →
    chain.evaluate operation operands = member.part.answer operation operands
  unsupported : chain.supports operation = .ok false →
    chain.evaluate operation operands = .error (.calculation (.unsupportedOperation operation))
  /-- The chain makes the error up in no other case: a member makes it, if not the chain. -/
  supported : chain.supports operation ≠ .ok false →
    chain.evaluate operation operands = .error (.calculation (.unsupportedOperation operation)) →
      ∃ member ∈ chain.members, member.part.answer operation operands =
        .error (.calculation (.unsupportedOperation operation))
  others (member : Member Calculator) (other : CalculatorChain) :
    chain.DecidedBy operation member → other.DecidedBy operation member →
      other.evaluate operation operands = chain.evaluate operation operands
  register (member new : Member Calculator) : chain.IsRanked →
    chain.DecidedBy operation member → member.priority ≤ new.priority →
      CalculatorChain.evaluate (chain.register new) operation operands =
        chain.evaluate operation operands

theorem selects (chain : CalculatorChain) (operation : String) (operands : List Binary64) :
    chain.Selects operation operands where
  undecided := by
    constructor
    · rintro unsupported ⟨member, decided⟩
      exact decided.stays (supports_eq_false.mp unsupported member decided.mem)
    · exact (decidedBy_or chain operation).resolve_left
  evaluate _ := evaluate_of_decidedBy
  unsupported := evaluate_of_unsupported
  supported supported failed := by
    obtain ⟨member, decided⟩ := (decidedBy_or chain operation).resolve_right supported
    exact ⟨member, decided.mem, (evaluate_of_decidedBy decided).symm.trans failed⟩
  others _ _ decided decided' :=
    (evaluate_of_decidedBy decided').trans (evaluate_of_decidedBy decided).symm
  register _ _ isRanked decided later :=
    (evaluate_of_decidedBy (decided.register isRanked later)).trans
      (evaluate_of_decidedBy decided).symm

end CalculatorChain

/-! ## All chains -/

/-- In every chain the first member that does not decline decides, and no member that is
    registered later at no lower priority changes its answer. -/
theorem chains_select :
    (∀ (chain : ParserChain) (text : String), chain.Selects text) ∧
      ∀ (chain : CalculatorChain) (operation : String) (operands : List Binary64),
        chain.Selects operation operands :=
  ⟨ParserChain.selects, CalculatorChain.selects⟩

/-- Claims every text, to make nothing of any. -/
def mutteringParser : Member Parser :=
  { name := "muttering"
    description? := none
    priority := 5
    part := { claims := fun _ => .ok true, read := fun _ => .ok none } }

/-- Claims every text, and fails on it. -/
def brokenParser : Member Parser :=
  { name := "broken"
    description? := none
    priority := 10
    part := { claims := fun _ => .ok true, read := fun _ => .error (.bare "broken") } }

/-- A failure is the answer also after the phrase book has been registered, which ties. -/
theorem chains_select_failure :
    let chain : ParserChain := .ofList [mutteringParser, brokenParser]
    chain.DecidedBy "2 + 2" brokenParser ∧ brokenParser.priority ≤ phraseBookParser.priority ∧
      ParserChain.read (chain.register phraseBookParser) "2 + 2" = .error (.bare "broken") := by
  intro chain
  have isRanked : chain.IsRanked := by
    change ∀ member ∈ [mutteringParser, brokenParser], member.priority ≠ .nan
    decide +kernel
  have sorted : SortedByPriority [mutteringParser, brokenParser] :=
    List.pairwise_pair.mpr (by decide +kernel)
  have decided : chain.DecidedBy "2 + 2" brokenParser := by
    constructor
    · rw [Chain.ranked_of_sorted isRanked sorted]
      exact .tail (.silent rfl rfl) .head
    · intro declines
      cases declines with
      | unclaimed claims => cases claims
      | silent _ reads => cases reads
  have later : brokenParser.priority ≤ phraseBookParser.priority := by decide +kernel
  have selects := chains_select.1 chain "2 + 2"
  refine ⟨decided, later, ?_⟩
  rw [selects.register brokenParser phraseBookParser isRanked decided later,
    selects.read brokenParser decided]
  rfl

end Reckoner
