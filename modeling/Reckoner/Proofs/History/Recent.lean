import Reckoner.History
import Reckoner.Proofs.Binary64.Order
import Reckoner.Proofs.Decimal.Places
import Mathlib.Data.Rat.Floor

/-! # Limits

A limit is any number.  What it allows is its whole part, and nothing if it is negative, so that
what is read under one limit is the beginning of what is read under a greater one.

* `Binary64.floor?_of_toRat?` — the whole part of a number.
* `History.allowed?_mono` — a greater limit allows no less.
* `History.recent_of_allowed?` — what is read under a limit.
* `History.Limits`, `History.limits` — all that limits do.
-/

namespace Reckoner

theorem Binary64.floor?_of_toRat? {x : Binary64} {v : ℚ} (exact : x.toRat? = some v) :
    x.floor? = some ⌊v⌋ := by
  obtain ⟨units, isUnits, rfl⟩ := Option.map_eq_some_iff.mp exact
  rw [floor?, isUnits, Option.map_some, Rat.floor_intCast_div_natCast]

namespace History

variable {x y : Binary64}

/-! ## What is allowed -/

theorem allowed?_of_toRat? {v : ℚ} (exact : x.toRat? = some v) :
    allowed? x = some (max 0 ⌊v⌋).toNat := by
  have whole := Binary64.floor?_of_toRat? exact
  have clamped : ⌊v⌋.toNat = (max 0 ⌊v⌋).toNat := by omega
  cases x with
  | nan => cases exact
  | infinite negative => cases exact
  | finite negative units count =>
    rw [allowed?, whole, Option.map_some, clamped]
    all_goals nofun

/-- Only infinity lies beyond every count of units, and no count lies before negative infinity. -/
theorem allowed?_of_place? {place : Int} (placed : x.place? = some place) :
    allowed? x =
      if place < countLimit then some (place / (unitsPerOne : Int)).toNat else none := by
  have limit := countLimit_pos
  have unitsPos : (0 : Int) < unitsPerOne := by exact_mod_cast unitsPerOne_pos
  cases x with
  | nan => cases placed
  | infinite negative =>
    cases negative with
    | true =>
      obtain rfl : -(countLimit : Int) = place := Option.some.inj placed
      -- Rounded down, what lies below zero stays there and allows nothing.
      have below := Int.ediv_le_ediv unitsPos (by omega : -(countLimit : Int) ≤ 0)
      rw [Int.zero_ediv] at below
      rw [if_pos (by omega), Int.toNat_of_nonpos below]
      rfl
    | false =>
      obtain rfl : (countLimit : Int) = place := Option.some.inj placed
      rw [if_neg (lt_irrefl _)]
      rfl
  | finite negative units count =>
    have below := count.1
    obtain rfl : (if negative then -(units : Int) else units) = place := Option.some.inj placed
    rw [if_pos (by split <;> omega)]
    rfl

/-- Where the greater of two limits allows a number of entries, so does the smaller, and no more. -/
theorem allowed?_mono (below : x ≤ y) {n : Nat} (allowed : allowed? y = some n) :
    ∃ m ≤ n, allowed? x = some m := by
  obtain ⟨a, b, left, right, less⟩ := Binary64.le_iff.mp below
  rw [allowed?_of_place? right] at allowed
  split_ifs at allowed with within
  cases allowed
  have fewer : a / (unitsPerOne : Int) ≤ b / unitsPerOne :=
    Int.ediv_le_ediv (by exact_mod_cast unitsPerOne_pos) less
  exact ⟨_, Int.toNat_le_toNat fewer, by rw [allowed?_of_place? left, if_pos (by omega)]⟩

/-! ## What is read -/

variable (h : History)

theorem recent_of_allowed? {n : Nat} (allowed : allowed? x = some n) :
    h.recent (some x) = (h.recent none).take n := by
  rw [recent, Option.bind_some, allowed]
  rfl

theorem recent_of_allowed?_none (unlimited : allowed? x = none) :
    h.recent (some x) = h.recent none := by
  rw [recent, Option.bind_some, unlimited]
  rfl

theorem length_recent_none : (h.recent none).length = h.count :=
  List.length_reverse

theorem recent_prefix_recent (below : x ≤ y) : h.recent (some x) <+: h.recent (some y) := by
  cases allowed : allowed? y with
  | none =>
    rw [recent_of_allowed?_none h allowed]
    cases fewer : allowed? x with
    | none => simp only [recent_of_allowed?_none h fewer, List.prefix_rfl]
    | some m =>
      rw [recent_of_allowed? h fewer]
      exact List.take_prefix ..
  | some n =>
    obtain ⟨m, fewer, allowed'⟩ := allowed?_mono below allowed
    rw [recent_of_allowed? h allowed, recent_of_allowed? h allowed']
    exact List.take_prefix_take_left fewer

/-- What a limit leaves of the entries, newest first. -/
structure Limits : Prop where
  newestFirst : h.recent none = h.entries.reverse
  take (x : Binary64) (v : ℚ) : x.toRat? = some v →
    h.recent (some x) = (h.recent none).take (min h.count (max 0 ⌊v⌋).toNat)
  length (x : Binary64) (v : ℚ) : x.toRat? = some v →
    (h.recent (some x)).length = min h.count (max 0 ⌊v⌋).toNat
  infinite : h.recent (some (.infinite false)) = h.recent none
  negativeInfinite : h.recent (some (.infinite true)) = []
  nan : h.recent (some .nan) = h.recent none
  mono (x y : Binary64) : x ≤ y → h.recent (some x) <+: h.recent (some y)
  length_le (x : Binary64) (v : ℚ) : x.toRat? = some v →
    ((h.recent (some x)).length : ℚ) ≤ max 0 v

theorem length_recent_of_toRat? {v : ℚ} (exact : x.toRat? = some v) :
    (h.recent (some x)).length = min h.count (max 0 ⌊v⌋).toNat := by
  rw [recent_of_allowed? h (allowed?_of_toRat? exact), List.length_take, length_recent_none,
    min_comm]

theorem limits : h.Limits where
  newestFirst := rfl
  take x v exact := by
    rw [recent_of_allowed? h (allowed?_of_toRat? exact), ← length_recent_none, min_comm,
      ← List.take_eq_take_min]
  length x v := length_recent_of_toRat? h
  infinite := recent_of_allowed?_none h rfl
  negativeInfinite := (recent_of_allowed? h rfl).trans List.take_zero
  nan := recent_of_allowed?_none h rfl
  mono x y := recent_prefix_recent h
  length_le x v exact := by
    rw [length_recent_of_toRat? h exact]
    have nonneg : 0 ≤ max 0 ⌊v⌋ := le_max_left ..
    calc ((min h.count (max 0 ⌊v⌋).toNat : ℕ) : ℚ)
        ≤ ((max 0 ⌊v⌋).toNat : ℚ) := by exact_mod_cast min_le_right ..
      _ = ((max 0 ⌊v⌋ : ℤ) : ℚ) := by exact_mod_cast Int.toNat_of_nonneg nonneg
      _ = max 0 (⌊v⌋ : ℚ) := by push_cast; rfl
      _ ≤ max 0 v := max_le_max_left 0 (Int.floor_le v)

end History

end Reckoner
