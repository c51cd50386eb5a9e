import Reckoner.Chain
import Reckoner.Proofs.Binary64.Order
import Mathlib.Data.List.Basic

/-! # Rank order

The order in which the members of a chain are asked: by increasing priority, and in the order
of registration where priorities tie.  A priority that is NaN has no place in it.

* `Chain.precedes_iff` — the difference of two priorities tells their order, also where it is
  infinite or no number.
* `InRankOrder` — all members once, sorted, with ties as they were registered.
* `InRankOrder.unique`, `Chain.ranked_inRankOrder` — there is one such list, the ranked one.
* `Chain.ranked_register` — a further member comes before exactly those of greater priority.
-/

namespace Reckoner

variable {α : Type}

/-! ## Priorities -/

/-- The member's priority is neither less nor greater than `p`. -/
def Member.TiesAt (p : Binary64) (member : Member α) : Prop :=
  member.priority ≤ p ∧ p ≤ member.priority

instance (p : Binary64) (member : Member α) : Decidable (member.TiesAt p) :=
  inferInstanceAs (Decidable (_ ∧ _))

def Member.IsRanked (member : Member α) : Prop :=
  member.priority ≠ .nan

theorem Member.IsRanked.tiesAt_self {member : Member α} (isRanked : member.IsRanked) :
    member.TiesAt member.priority :=
  ⟨Binary64.le_refl_of_ne_nan isRanked, Binary64.le_refl_of_ne_nan isRanked⟩

/-- Where a ranked member stands among the priorities. -/
def Member.place (member : Member α) : Int :=
  member.priority.place?.getD 0

theorem Member.le_iff_place {a b : Member α} (first : a.IsRanked) (second : b.IsRanked) :
    a.priority ≤ b.priority ↔ a.place ≤ b.place := by
  obtain ⟨m, placed⟩ := Binary64.exists_place first
  obtain ⟨n, placed'⟩ := Binary64.exists_place second
  simp [Binary64.le_iff, place, placed, placed']

theorem Chain.precedes_iff {a b : Member α} :
    precedes a b = true ↔ ¬ b.priority < a.priority := by
  simp [precedes, Binary64.zero_lt_sub_iff]

theorem Chain.precedes_eq {a b : Member α} (first : a.IsRanked) (second : b.IsRanked) :
    precedes a b = decide (a.place ≤ b.place) := by
  rw [Bool.eq_iff_iff, precedes_iff, decide_eq_true_iff, Binary64.not_lt second first,
    Member.le_iff_place first second]

/-! ## Rank order -/

/-- The members at a priority, in their order. -/
def tiedAt (p : Binary64) (members : List (Member α)) : List (Member α) :=
  members.filter fun member => member.TiesAt p

theorem mem_tiedAt {p : Binary64} {members : List (Member α)} {member : Member α} :
    member ∈ tiedAt p members ↔ member ∈ members ∧ member.TiesAt p := by
  simp [tiedAt]

theorem tiedAt_cons (p : Binary64) (member : Member α) (rest : List (Member α)) :
    tiedAt p (member :: rest) =
      if member.TiesAt p then member :: tiedAt p rest else tiedAt p rest := by
  simp [tiedAt, List.filter_cons]

theorem tiedAt_append (p : Binary64) (earlier later : List (Member α)) :
    tiedAt p (earlier ++ later) = tiedAt p earlier ++ tiedAt p later :=
  List.filter_append ..

def SortedByPriority (members : List (Member α)) : Prop :=
  members.Pairwise fun earlier later => earlier.priority ≤ later.priority

/-- All members once, by increasing priority, and in the order of registration where
    priorities tie. -/
structure InRankOrder (members ranked : List (Member α)) : Prop where
  perm : ranked.Perm members
  sorted : SortedByPriority ranked
  stable : ∀ p, tiedAt p ranked = tiedAt p members

/-- A sorted list begins with a member of least priority, also among those of another list that
    has the same members at each priority. -/
theorem SortedByPriority.head_le {first second : List (Member α)} {a b : Member α}
    (sorted : SortedByPriority (a :: first)) (same : ∀ p, tiedAt p (a :: first) = tiedAt p second)
    (isRanked : b.IsRanked) (member : b ∈ second) : a.priority ≤ b.priority := by
  have tied : b ∈ tiedAt b.priority (a :: first) := by
    rw [same]
    exact mem_tiedAt.mpr ⟨member, isRanked.tiesAt_self⟩
  rcases List.mem_cons.mp (mem_tiedAt.mp tied).1 with rfl | later
  · exact isRanked.tiesAt_self.1
  · exact List.rel_of_pairwise_cons sorted later

theorem eq_nil_of_tiedAt_eq_nil {members : List (Member α)}
    (areRanked : ∀ member ∈ members, member.IsRanked) (none : ∀ p, tiedAt p members = []) :
    members = [] := by
  rw [List.eq_nil_iff_forall_not_mem]
  intro member isMember
  have tied := mem_tiedAt.mpr ⟨isMember, (areRanked member isMember).tiesAt_self⟩
  rw [none] at tied
  exact List.not_mem_nil tied

/-- Sorted lists with the same members at each priority are the same. -/
theorem SortedByPriority.eq_of_tiedAt {first second : List (Member α)}
    (areRanked : ∀ member ∈ first, member.IsRanked)
    (areRanked' : ∀ member ∈ second, member.IsRanked) (sorted : SortedByPriority first)
    (sorted' : SortedByPriority second) (same : ∀ p, tiedAt p first = tiedAt p second) :
    first = second := by
  induction first generalizing second with
  | nil => exact (eq_nil_of_tiedAt_eq_nil areRanked' fun p => (same p).symm).symm
  | cons a rest ih =>
    cases second with
    | nil => exact eq_nil_of_tiedAt_eq_nil areRanked same
    | cons b rest' =>
      obtain ⟨ranked, others⟩ := List.forall_mem_cons.mp areRanked
      obtain ⟨ranked', others'⟩ := List.forall_mem_cons.mp areRanked'
      -- Neither of the two first members is of greater priority than the other.
      have ties : b.TiesAt a.priority :=
        ⟨sorted'.head_le (fun p => (same p).symm) ranked List.mem_cons_self,
          sorted.head_le same ranked' List.mem_cons_self⟩
      have heads := same a.priority
      rw [tiedAt_cons, tiedAt_cons, if_pos ranked.tiesAt_self, if_pos ties] at heads
      obtain rfl : a = b := (List.cons.inj heads).1
      have tails : ∀ p, tiedAt p rest = tiedAt p rest' := by
        intro p
        have whole := same p
        rw [tiedAt_cons, tiedAt_cons] at whole
        split at whole
        · exact (List.cons.inj whole).2
        · exact whole
      rw [ih others others' (List.Pairwise.of_cons sorted) (List.Pairwise.of_cons sorted') tails]

theorem InRankOrder.unique {members first second : List (Member α)}
    (areRanked : ∀ member ∈ members, member.IsRanked) (order : InRankOrder members first)
    (order' : InRankOrder members second) : first = second :=
  order.sorted.eq_of_tiedAt
    (fun member isMember => areRanked member (order.perm.mem_iff.mp isMember))
    (fun member isMember => areRanked member (order'.perm.mem_iff.mp isMember)) order'.sorted
    fun p => (order.stable p).trans (order'.stable p).symm

/-- A sorted list falls into the members whose priority is no greater than a number, and those
    of greater priority. -/
theorem SortedByPriority.exists_split {members : List (Member α)} {p : Binary64}
    (areRanked : ∀ member ∈ members, member.IsRanked) (sorted : SortedByPriority members)
    (number : p ≠ .nan) :
    ∃ before after, members = before ++ after ∧
      (∀ member ∈ before, member.priority ≤ p) ∧ ∀ member ∈ after, p < member.priority := by
  induction members with
  | nil => exact ⟨[], [], rfl, by simp, by simp⟩
  | cons first rest ih =>
    obtain ⟨least, others⟩ := List.forall_mem_cons.mp areRanked
    by_cases low : first.priority ≤ p
    · obtain ⟨before, after, rfl, below, above⟩ := ih others (List.Pairwise.of_cons sorted)
      exact ⟨first :: before, after, rfl, List.forall_mem_cons.mpr ⟨low, below⟩, above⟩
    · refine ⟨[], first :: rest, rfl, by simp, ?_⟩
      refine List.forall_mem_cons.mpr ⟨(Binary64.not_le least number).mp low, ?_⟩
      intro member later
      apply (Binary64.not_le (others member later) number).mp
      intro below
      exact low (Binary64.le_trans (List.rel_of_pairwise_cons sorted later) below)

/-- A member that is put behind all of no greater priority keeps the rank order, where it is
    the last to be registered. -/
theorem InRankOrder.insert {members before after : List (Member α)} {new : Member α}
    (order : InRankOrder members (before ++ after)) (number : new.IsRanked)
    (areRanked : ∀ member ∈ after, member.IsRanked)
    (below : ∀ member ∈ before, member.priority ≤ new.priority)
    (above : ∀ member ∈ after, new.priority < member.priority) :
    InRankOrder (members ++ [new]) (before ++ new :: after) where
  perm := List.perm_middle.trans
    ((order.perm.cons new).trans (List.perm_append_singleton new members).symm)
  sorted := by
    obtain ⟨first, second, between⟩ := List.pairwise_append.mp order.sorted
    have next : ∀ member ∈ after, new.priority ≤ member.priority :=
      fun member inside => Binary64.le_of_lt (above member inside)
    refine List.pairwise_append.mpr ⟨first, List.pairwise_cons.mpr ⟨next, second⟩, ?_⟩
    intro a inside b inside'
    rcases List.mem_cons.mp inside' with rfl | later
    · exact below a inside
    · exact between a inside b later
  stable := by
    intro p
    rw [tiedAt_append, tiedAt_cons, tiedAt_append p members, ← order.stable, tiedAt_append,
      tiedAt_cons]
    by_cases ties : new.TiesAt p
    · have none : tiedAt p after = [] := by
        rw [List.eq_nil_iff_forall_not_mem]
        intro member tied
        obtain ⟨inside, low, _⟩ := mem_tiedAt.mp tied
        have greater := (Binary64.not_le (areRanked member inside) number).mpr (above member inside)
        exact greater (Binary64.le_trans low ties.2)
      rw [none, if_pos ties, if_pos ties, List.append_nil]
      rfl
    · rw [if_neg ties, if_neg ties]
      exact (List.append_nil _).symm

/-! ## The ranked list -/

namespace Chain

variable {chain : Chain α}

def IsRanked (chain : Chain α) : Prop :=
  ∀ member ∈ chain.members, member.IsRanked

theorem ranked_perm (chain : Chain α) : chain.ranked.Perm chain.members :=
  List.mergeSort_perm ..

theorem mem_ranked {member : Member α} : member ∈ chain.ranked ↔ member ∈ chain.members :=
  (ranked_perm chain).mem_iff

/-- Among ranked members the order of asking is that of places, which is total. -/
theorem ranked_eq (isRanked : chain.IsRanked) :
    chain.ranked = chain.members.mergeSort fun a b => decide (a.place ≤ b.place) := by
  have sorted := List.map_mergeSort (s := fun a b => decide (a.place ≤ b.place)) (f := id)
    fun a inside b inside' => precedes_eq (isRanked a inside) (isRanked b inside')
  rwa [List.map_id, List.map_id] at sorted

theorem place_trans (a b c : Member α) (first : decide (a.place ≤ b.place) = true)
    (second : decide (b.place ≤ c.place) = true) : decide (a.place ≤ c.place) = true := by
  rw [decide_eq_true_iff] at first second ⊢
  exact first.trans second

theorem place_total (a b : Member α) :
    (decide (a.place ≤ b.place) || decide (b.place ≤ a.place)) = true := by
  rw [Bool.or_eq_true, decide_eq_true_iff, decide_eq_true_iff]
  exact Int.le_total ..

theorem ranked_sorted (isRanked : chain.IsRanked) : SortedByPriority chain.ranked := by
  have sorted := List.pairwise_mergeSort place_trans place_total chain.members
  rw [← ranked_eq isRanked] at sorted
  apply sorted.imp_of_mem
  intro a b inside inside' below
  exact (Member.le_iff_place (isRanked a (mem_ranked.mp inside))
    (isRanked b (mem_ranked.mp inside'))).mpr (of_decide_eq_true below)

theorem tiedAt_ranked (isRanked : chain.IsRanked) (p : Binary64) :
    tiedAt p chain.ranked = tiedAt p chain.members := by
  -- Members that tie are sorted as they stand, so the sort leaves them in their order.
  have level : (tiedAt p chain.members).Pairwise fun a b => decide (a.place ≤ b.place) = true := by
    rw [List.pairwise_iff_forall_sublist]
    intro a b pair
    obtain ⟨inside, below, _⟩ := mem_tiedAt.mp (pair.subset (List.mem_cons_self ..))
    obtain ⟨inside', _, above⟩ :=
      mem_tiedAt.mp (pair.subset (List.mem_cons_of_mem _ List.mem_cons_self))
    rw [decide_eq_true_iff, ← Member.le_iff_place (isRanked a inside) (isRanked b inside')]
    exact Binary64.le_trans below above
  have kept := List.sublist_mergeSort place_trans place_total level List.filter_sublist
  rw [← ranked_eq isRanked] at kept
  have within : (tiedAt p chain.members).Sublist (tiedAt p chain.ranked) := by
    have again := kept.filter fun member => decide (member.TiesAt p)
    simpa only [tiedAt, List.filter_filter, Bool.and_self] using again
  exact (within.eq_of_length ((ranked_perm chain).filter _).length_eq.symm).symm

theorem ranked_inRankOrder (isRanked : chain.IsRanked) :
    InRankOrder chain.members chain.ranked where
  perm := ranked_perm chain
  sorted := ranked_sorted isRanked
  stable := tiedAt_ranked isRanked

theorem ranked_of_sorted (isRanked : chain.IsRanked) (sorted : SortedByPriority chain.members) :
    chain.ranked = chain.members :=
  (ranked_inRankOrder isRanked).unique isRanked ⟨.refl _, sorted, fun _ => rfl⟩

/-! ## One member more -/

theorem mem_register {new member : Member α} :
    member ∈ (chain.register new).members ↔ member ∈ chain.members ∨ member = new := by
  simp [register]

theorem isRanked_register {new : Member α} (isRanked : chain.IsRanked) (number : new.IsRanked) :
    (chain.register new).IsRanked := by
  intro member inside
  rcases mem_register.mp inside with old | rfl
  · exact isRanked member old
  · exact number

/-- A further member comes after those whose priority is no greater, and before the others. -/
theorem ranked_register {new : Member α} (isRanked : chain.IsRanked) (number : new.IsRanked) :
    ∃ before after, chain.ranked = before ++ after ∧
      (chain.register new).ranked = before ++ new :: after ∧
      (∀ member ∈ before, member.priority ≤ new.priority) ∧
      ∀ member ∈ after, new.priority < member.priority := by
  have areRanked : ∀ member ∈ chain.ranked, member.IsRanked :=
    fun member inside => isRanked member (mem_ranked.mp inside)
  have order := ranked_inRankOrder isRanked
  obtain ⟨before, after, split, below, above⟩ := order.sorted.exists_split areRanked number
  refine ⟨before, after, split, ?_, below, above⟩
  have after_ranked : ∀ member ∈ after, member.IsRanked :=
    fun member inside => areRanked member (split ▸ List.mem_append_right before inside)
  rw [split] at order
  exact (ranked_inRankOrder (isRanked_register isRanked number)).unique
    (isRanked_register isRanked number) (order.insert number after_ranked below above)

end Chain

end Reckoner
