/-!
# Binary floating-point numbers of 64 bits

Every finite number of the format is a whole number of units `2 ^ -1074`, the
smallest positive number, so a finite number is held as its sign and its count
of units.  A fraction of units is rounded once, to the nearest number, and a tie
goes to the neighbour whose last bit is even.

* `IsCount`: the counts of units that the format can hold.
* `Binary64`: numbers, infinities and the one NaN.
* `Binary64.ofUnits`: the number nearest to a fraction of units.
* `Binary64.ofRatio`, `Binary64.ofNat`: the number nearest to a fraction, or to
  a whole number.
* `Binary64.lt`, `Binary64.le`: the order, in which NaN stands beside nothing and
  the two zeros are equal.
-/

namespace Reckoner

/-! ## Counts of units -/

/-- How many units `2 ^ -1074` make one. -/
def unitsPerOne : Nat := Nat.pow 2 1074

/-- The first count of units that is too large to be finite. -/
def countLimit : Nat := Nat.pow 2 2098

/-- A count of units is one of the format if it has at most 53 significant bits
    and lies below the limit. -/
def IsCount (n : Nat) : Prop :=
  n < countLimit ∧ ∃ m e, m < Nat.pow 2 53 ∧ n = m * Nat.pow 2 e

theorem unitsPerOne_pos : 0 < unitsPerOne := by
  decide +kernel

theorem countLimit_pos : 0 < countLimit := by
  decide +kernel

theorem isCount_zero : IsCount 0 :=
  ⟨countLimit_pos, 0, 0, by decide, rfl⟩

/-- The whole number nearest to `num / den`; of two equally near, the even. -/
def nearestEven (num den : Nat) : Nat :=
  let quotient := num / den
  let twice := 2 * (num % den)
  if twice < den then quotient
  else if den < twice then quotient + 1
  else quotient + quotient % 2

theorem nearestEven_le (num den : Nat) : nearestEven num den ≤ num / den + 1 := by
  simp only [nearestEven]
  have := Nat.mod_lt (num / den) (by decide : 2 > 0)
  split
  · omega
  · split <;> omega

/-- A power of a sum of exponents is a product of powers. -/
theorem power_add (base m n : Nat) :
    Nat.pow base (m + n) = Nat.pow base m * Nat.pow base n :=
  Nat.pow_add base m n

/-- The distance between neighbouring counts of 53 significant bits around a
    count whose whole part is `whole`. -/
def spacing (whole : Nat) : Nat :=
  Nat.pow 2 (whole.log2 - 52)

/-- The count of 53 significant bits nearest to `num / den`. -/
def nearestCount (num den : Nat) : Nat :=
  let step := spacing (num / den)
  nearestEven num (den * step) * step

/-- Every whole part fits into 53 significant bits of its own spacing. -/
theorem div_spacing_lt (whole : Nat) : whole / spacing whole < Nat.pow 2 53 := by
  unfold spacing
  by_cases h : whole.log2 < 52
  · have hw : whole < Nat.pow 2 (whole.log2 + 1) := Nat.lt_log2_self
    have hp : Nat.pow 2 (whole.log2 + 1) ≤ Nat.pow 2 53 :=
      Nat.pow_le_pow_right (by decide) (by omega)
    have he : whole.log2 - 52 = 0 := by omega
    have hone : Nat.pow 2 0 = 1 := rfl
    rw [he, hone, Nat.div_one]
    omega
  · have hw : whole < Nat.pow 2 (whole.log2 + 1) := Nat.lt_log2_self
    have he : whole.log2 + 1 = 53 + (whole.log2 - 52) := by omega
    rw [he, power_add] at hw
    exact Nat.div_lt_of_lt_mul (by rwa [Nat.mul_comm])

theorem nearestCount_significant (num den : Nat) :
    ∃ m e, m < Nat.pow 2 53 ∧ nearestCount num den = m * Nat.pow 2 e := by
  have hle : nearestEven num (den * spacing (num / den)) ≤ Nat.pow 2 53 := by
    refine Nat.le_trans (nearestEven_le _ _) ?_
    rw [← Nat.div_div_eq_div_mul]
    exact div_spacing_lt _
  rcases Nat.lt_or_eq_of_le hle with hlt | heq
  · exact ⟨_, _, hlt, rfl⟩
  · refine ⟨1, 53 + ((num / den).log2 - 52), by decide, ?_⟩
    rw [nearestCount, heq, Nat.one_mul, power_add, spacing]

/-! ## Numbers -/

/-- A floating-point number: NaN, an infinity, or a sign and a count of units. -/
inductive Binary64 where
  | nan
  | infinite (negative : Bool)
  | finite (negative : Bool) (units : Nat) (isCount : IsCount units)
deriving DecidableEq

namespace Binary64

/-- The zero of the given sign. -/
def zero (negative : Bool) : Binary64 :=
  .finite negative 0 isCount_zero

instance : Inhabited Binary64 := ⟨zero false⟩

/-- The number nearest to `num / den` units.  From the limit of the format on it
    is infinite. -/
def ofUnits (negative : Bool) (num den : Nat) : Binary64 :=
  if h : nearestCount num den < countLimit then
    .finite negative (nearestCount num den) ⟨h, nearestCount_significant num den⟩
  else .infinite negative

/-- The number nearest to `num / den`. -/
def ofRatio (negative : Bool) (num den : Nat) : Binary64 :=
  ofUnits negative (num * unitsPerOne) den

/-- The number nearest to a whole number. -/
def ofNat (n : Nat) : Binary64 :=
  ofRatio false n 1

instance (n : Nat) : OfNat Binary64 n := ⟨ofNat n⟩

/-- The number nearest to `n` units, with the sign of `n`; zero is positive. -/
def ofSignedUnits (n : Int) : Binary64 :=
  ofUnits (n < 0) n.natAbs 1

/-! ## Kinds of numbers -/

def isNaN : Binary64 → Bool
  | nan => true
  | _ => false

def isFinite : Binary64 → Bool
  | finite .. => true
  | _ => false

/-- Either zero. -/
def isZero : Binary64 → Bool
  | finite _ units _ => units == 0
  | _ => false

/-- The sign; NaN has none. -/
def isNegative : Binary64 → Bool
  | nan => false
  | infinite negative => negative
  | finite negative _ _ => negative

/-- The value in units, with its sign. -/
def units? : Binary64 → Option Int
  | finite negative units _ => some (if negative then -units else units)
  | _ => none

/-- The whole number that this number is, if it is one. -/
def toInt? (x : Binary64) : Option Int :=
  match x.units? with
  | some n => if n % (unitsPerOne : Int) = 0 then some (n / (unitsPerOne : Int)) else none
  | none => none

def isInteger (x : Binary64) : Bool :=
  x.toInt?.isSome

/-- The largest whole number that is not above this number. -/
def floor? (x : Binary64) : Option Int :=
  x.units?.map (· / (unitsPerOne : Int))

/-- The whole number next to this number on the side of zero. -/
def truncate? (x : Binary64) : Option Int :=
  x.units?.map (·.tdiv (unitsPerOne : Int))

/-! ## Order -/

/-- The place of a number in the order; the infinities lie beyond every count. -/
def place? : Binary64 → Option Int
  | nan => none
  | infinite negative => some (if negative then -(countLimit : Int) else countLimit)
  | finite negative units _ => some (if negative then -units else units)

def lt (x y : Binary64) : Bool :=
  match x.place?, y.place? with
  | some a, some b => a < b
  | _, _ => false

def le (x y : Binary64) : Bool :=
  match x.place?, y.place? with
  | some a, some b => a ≤ b
  | _, _ => false

instance : LT Binary64 := ⟨fun x y => x.lt y = true⟩

instance : LE Binary64 := ⟨fun x y => x.le y = true⟩

instance (x y : Binary64) : Decidable (x < y) :=
  inferInstanceAs (Decidable (x.lt y = true))

instance (x y : Binary64) : Decidable (x ≤ y) :=
  inferInstanceAs (Decidable (x.le y = true))

end Binary64

end Reckoner
