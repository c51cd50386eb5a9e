import Reckoner.Chain.Roster
import Reckoner.Proofs.Chain.Rank
import Mathlib.Data.List.Induction

/-! # What a roster answers

A roster is asked and enlarged in any order.  The rank order that it keeps is always that of
the members registered so far, so an inquiry is answered as by a chain of just these members,
and an earlier inquiry makes no difference.

* `RosterCall.registered` — the members that some calls register.
* `Roster.Coherent` — a rank order that is kept is that of the members.
* `Roster.step_coherent`, `run_coherent`, `run_members` — what calls leave of a roster.
* `Roster.inquire_run` — the answer to an inquiry after any calls.
* `Roster.answers_in_rank_order` — that answer for parsers and for calculators.
-/

namespace Reckoner

variable {α ι ρ : Type}

/-! ## Calls -/

namespace RosterCall

def registered? : RosterCall α ι → Option (Member α)
  | register member => some member
  | inquire _ => none

/-- The members that some calls register, in the order of the calls. -/
def registered (calls : List (RosterCall α ι)) : List (Member α) :=
  calls.filterMap registered?

theorem registered_cons (call : RosterCall α ι) (calls : List (RosterCall α ι)) :
    registered (call :: calls) = call.registered?.toList ++ registered calls := by
  cases call <;> rfl

end RosterCall

namespace Roster

open RosterCall

variable {roster : Roster α}

/-! ## One call -/

/-- A rank order that is kept is that of the members. -/
def Coherent (roster : Roster α) : Prop :=
  ∀ order, roster.order? = some order → order = (Chain.ofList roster.members).ranked

theorem register_coherent (member : Member α) : (roster.register member).Coherent := by
  intro order kept
  cases kept

theorem ranked_fst (coherent : roster.Coherent) :
    roster.ranked.1 = (Chain.ofList roster.members).ranked := by
  unfold ranked
  split
  next order kept => exact coherent order kept
  next => rfl

theorem ranked_members (roster : Roster α) : roster.ranked.2.members = roster.members := by
  unfold ranked
  split <;> rfl

theorem ranked_coherent (coherent : roster.Coherent) : roster.ranked.2.Coherent := by
  unfold ranked
  split
  next => exact coherent
  next =>
    intro order kept
    exact (Option.some.inj kept).symm

theorem step_coherent (coherent : roster.Coherent) (call : RosterCall α ι) :
    (roster.step call).Coherent := by
  cases call with
  | register member => exact register_coherent member
  | inquire inquiry => exact ranked_coherent coherent

theorem step_members (roster : Roster α) (call : RosterCall α ι) :
    (roster.step call).members = roster.members ++ call.registered?.toList := by
  cases call with
  | register member => rfl
  | inquire inquiry => exact (ranked_members roster).trans (List.append_nil _).symm

/-! ## Several calls -/

theorem run_coherent (coherent : roster.Coherent) (calls : List (RosterCall α ι)) :
    (roster.run calls).Coherent := by
  -- A registration drops the order that is kept, so none outlives its members.
  induction calls generalizing roster with
  | nil => exact coherent
  | cons call calls ih => exact ih (step_coherent coherent call)

theorem run_members (roster : Roster α) (calls : List (RosterCall α ι)) :
    (roster.run calls).members = roster.members ++ registered calls := by
  induction calls generalizing roster with
  | nil => exact (List.append_nil _).symm
  | cons call calls ih =>
    have later : (roster.run (call :: calls)).members =
        (roster.step call).members ++ registered calls := ih (roster.step call)
    rw [later, step_members, registered_cons, List.append_assoc]

theorem ofList_eq (members : List (Member α)) : ofList members = { members, order? := none } := by
  induction members using List.reverseRecOn with
  | nil => rfl
  | append_singleton members member ih =>
    have last : ofList (members ++ [member]) = (ofList members).register member :=
      List.foldl_concat ..
    rw [last, ih]
    rfl

theorem ofList_coherent (members : List (Member α)) : (ofList members).Coherent := by
  rw [ofList_eq]
  intro order kept
  cases kept

theorem ofList_run_members (initial : List (Member α)) (calls : List (RosterCall α ι)) :
    ((ofList initial).run calls).members = initial ++ registered calls := by
  rw [run_members, ofList_eq]

/-- An inquiry after any calls is answered by the members registered so far, in rank order. -/
theorem inquire_run (answer : List (Member α) → ι → ρ) (initial : List (Member α))
    (calls : List (RosterCall α ι)) (inquiry : ι) :
    (((ofList initial).run calls).inquire answer inquiry).1 =
      answer (Chain.ofList (initial ++ registered calls)).ranked inquiry := by
  have coherent := run_coherent (ofList_coherent initial) calls
  simp only [inquire, ranked_fst coherent, ofList_run_members]

/-- After some calls an inquiry is answered by the members registered so far, in rank order, and
    would be answered so after any other inquiries among the same registrations. -/
structure AsksInRankOrder (answer : List (Member α) → ι → ρ) (initial : List (Member α))
    (calls : List (RosterCall α ι)) : Prop where
  order : InRankOrder (initial ++ registered calls)
    (Chain.ofList (initial ++ registered calls)).ranked
  answered (inquiry : ι) : (((ofList initial).run calls).inquire answer inquiry).1 =
    answer (Chain.ofList (initial ++ registered calls)).ranked inquiry
  unaffected (others : List (RosterCall α ι)) : registered others = registered calls →
    ∀ inquiry, (((ofList initial).run others).inquire answer inquiry).1 =
      (((ofList initial).run calls).inquire answer inquiry).1

theorem run_asksInRankOrder (answer : List (Member α) → ι → ρ) {initial : List (Member α)}
    {calls : List (RosterCall α ι)}
    (isRanked : ∀ member ∈ initial ++ registered calls, member.IsRanked) :
    AsksInRankOrder answer initial calls where
  order := Chain.ranked_inRankOrder isRanked
  answered := inquire_run answer initial calls
  unaffected others same inquiry := by rw [inquire_run, inquire_run, same]

/-! ## Both kinds of chains -/

/-- The roster answers every inquiry as the chain of parsers does. -/
structure AnswersAsParsers (roster : Roster Parser) (chain : ParserChain) : Prop where
  list : (roster.inquire ParserInquiry.answer .list).1 = .listings chain.list
  claims (text : String) :
    (roster.inquire ParserInquiry.answer (.claims text)).1 = .claimed (chain.claims text)
  read (text : String) :
    (roster.inquire ParserInquiry.answer (.read text)).1 = .request (chain.read text)

/-- The roster answers every inquiry as the chain of calculators does. -/
structure AnswersAsCalculators (roster : Roster Calculator) (chain : CalculatorChain) : Prop where
  list : (roster.inquire CalculatorInquiry.answer .list).1 = .listings chain.list
  supports (operation : String) :
    (roster.inquire CalculatorInquiry.answer (.supports operation)).1 =
      .supported (chain.supports operation)
  evaluate (operation : String) (operands : List Binary64) :
    (roster.inquire CalculatorInquiry.answer (.evaluate operation operands)).1 =
      .value (chain.evaluate operation operands)

theorem run_answersAsParsers (initial : List (Member Parser))
    (calls : List (RosterCall Parser ParserInquiry)) :
    ((ofList initial).run calls).AnswersAsParsers (.ofList (initial ++ registered calls)) where
  list := inquire_run ..
  claims _ := inquire_run ..
  read _ := inquire_run ..

theorem run_answersAsCalculators (initial : List (Member Calculator))
    (calls : List (RosterCall Calculator CalculatorInquiry)) :
    ((ofList initial).run calls).AnswersAsCalculators
      (.ofList (initial ++ registered calls)) where
  list := inquire_run ..
  supports _ := inquire_run ..
  evaluate _ _ := inquire_run ..

/-- After any registrations and inquiries, parsers and calculators are asked in rank order: all
    that are registered so far, each once, by increasing priority and in the order of their
    registration where priorities tie.  Which inquiries came before makes no difference. -/
theorem answers_in_rank_order :
    (∀ (initial : List (Member Parser)) (calls : List (RosterCall Parser ParserInquiry)),
      (∀ member ∈ initial ++ registered calls, member.priority ≠ .nan) →
        AsksInRankOrder ParserInquiry.answer initial calls ∧
          ((ofList initial).run calls).AnswersAsParsers
            (.ofList (initial ++ registered calls))) ∧
      ∀ (initial : List (Member Calculator))
        (calls : List (RosterCall Calculator CalculatorInquiry)),
        (∀ member ∈ initial ++ registered calls, member.priority ≠ .nan) →
          AsksInRankOrder CalculatorInquiry.answer initial calls ∧
            ((ofList initial).run calls).AnswersAsCalculators
              (.ofList (initial ++ registered calls)) :=
  ⟨fun initial calls isRanked =>
      ⟨run_asksInRankOrder _ isRanked, run_answersAsParsers initial calls⟩,
    fun initial calls isRanked =>
      ⟨run_asksInRankOrder _ isRanked, run_answersAsCalculators initial calls⟩⟩

def silentParser (name : String) (priority : Binary64) : Member Parser :=
  { name
    description? := none
    priority
    part := { claims := fun _ => .ok false, read := fun _ => .ok none } }

/-- Infinite priorities tie, and two inquiries between the registrations change no answer. -/
theorem answers_in_rank_order_of_infinite :
    let initial := [silentParser "a" (.infinite false), silentParser "b" 5]
    let third := silentParser "c" (.infinite false)
    let fourth := silentParser "d" (.infinite true)
    let unasked : List (RosterCall Parser ParserInquiry) := [.register third, .register fourth]
    let calls : List (RosterCall Parser ParserInquiry) :=
      [.inquire .list, .register third, .inquire (.claims "2 + 2"), .register fourth]
    (∀ member ∈ initial ++ registered calls, member.priority ≠ .nan) ∧
      (tiedAt (.infinite false) (Chain.ofList (initial ++ registered calls)).ranked).map (·.name) =
        ["a", "c"] ∧
      (((ofList initial).run unasked).inquire ParserInquiry.answer .list).1 =
        (((ofList initial).run calls).inquire ParserInquiry.answer .list).1 := by
  intro initial third fourth unasked calls
  have isRanked : ∀ member ∈ initial ++ registered calls, member.priority ≠ .nan := by
    decide +kernel
  obtain ⟨asks, _⟩ := answers_in_rank_order.1 initial calls isRanked
  refine ⟨isRanked, ?_, asks.unaffected unasked rfl .list⟩
  rw [asks.order.stable]
  decide +kernel

end Roster

end Reckoner
