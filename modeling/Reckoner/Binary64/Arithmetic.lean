import Reckoner.Binary64.Basic

/-!
# Arithmetic of floating-point numbers

Each operation is the exact result, rounded once.

* `Binary64.add`, `sub`, `mul`, `div`: the four operations.
* `floorRoot`: the whole part of a root of a whole number.
* `Binary64.sqrt`, `Binary64.cbrt`: the two roots.
-/

namespace Reckoner

namespace Binary64

/-! ## The four operations -/

/-- The number with the other sign. -/
def neg : Binary64 → Binary64
  | nan => nan
  | infinite negative => infinite (!negative)
  | finite negative units h => finite (!negative) units h

/-- A sum of zero is negative only if both terms are. -/
def add : Binary64 → Binary64 → Binary64
  | nan, _ => nan
  | _, nan => nan
  | infinite a, infinite b => if a = b then infinite a else nan
  | infinite a, finite .. => infinite a
  | finite .., infinite b => infinite b
  | finite a m _, finite b n _ =>
      let sum := (if a then -(m : Int) else m) + (if b then -(n : Int) else n)
      if sum = 0 then zero (a && b) else ofSignedUnits sum

def sub (x y : Binary64) : Binary64 :=
  add x (neg y)

/-- Infinity times zero is NaN. -/
def mul : Binary64 → Binary64 → Binary64
  | nan, _ => nan
  | _, nan => nan
  | infinite a, infinite b => infinite (a ^^ b)
  | infinite a, finite b n _ => if n = 0 then nan else infinite (a ^^ b)
  | finite a m _, infinite b => if m = 0 then nan else infinite (a ^^ b)
  | finite a m _, finite b n _ => ofUnits (a ^^ b) (m * n) unitsPerOne

/-- A nonzero number divided by zero is infinite; zero divided by zero, and
    infinity divided by infinity, are NaN. -/
def div : Binary64 → Binary64 → Binary64
  | nan, _ => nan
  | _, nan => nan
  | infinite _, infinite _ => nan
  | infinite a, finite b _ _ => infinite (a ^^ b)
  | finite a _ _, infinite b => zero (a ^^ b)
  | finite a m _, finite b n _ =>
      if n = 0 then
        if m = 0 then nan else infinite (a ^^ b)
      else ofUnits (a ^^ b) (m * unitsPerOne) n

instance : Neg Binary64 := ⟨neg⟩

instance : Add Binary64 := ⟨add⟩

instance : Sub Binary64 := ⟨sub⟩

instance : Mul Binary64 := ⟨mul⟩

instance : Div Binary64 := ⟨div⟩

end Binary64

/-! ## Roots -/

/-- The largest whole number whose `degree`-th power is at most `n`, for a
    positive degree: twice the root of `n / 2 ^ degree`, and one more if that
    still fits. -/
def floorRoot (degree : Nat) (n : Nat) : Nat :=
  if h : n = 0 ∨ degree = 0 then 0
  else
    let root := 2 * floorRoot degree (n / Nat.pow 2 degree)
    if Nat.pow (root + 1) degree ≤ n then root + 1 else root
termination_by n
decreasing_by
  have : 2 ≤ Nat.pow 2 degree := by
    calc 2 = Nat.pow 2 1 := rfl
      _ ≤ Nat.pow 2 degree := Nat.pow_le_pow_right (by decide) (by omega)
  exact Nat.div_lt_self (by omega) (by omega)

namespace Binary64

/-- The number nearest to the `degree`-th root of `n` units.  The whole part of
    the root alone has more than 53 bits wherever this is used, so a root that is
    not whole may be put halfway to the next whole number. -/
def ofRoot (negative : Bool) (degree n : Nat) : Binary64 :=
  let root := floorRoot degree n
  if Nat.pow root degree = n then ofUnits negative root 1
  else ofUnits negative (2 * root + 1) 2

/-- The square root.  That of a negative zero is the same zero. -/
def sqrt : Binary64 → Binary64
  | nan => nan
  | infinite negative => if negative then nan else infinite false
  | finite negative units h =>
      if units = 0 then finite negative units h
      else if negative then nan
      else ofRoot false 2 (units * unitsPerOne)

/-- The cube root, which has the sign of its argument.  It is rounded to nearest here;
    an engine only approximates it, and may differ in the last bit. -/
def cbrt : Binary64 → Binary64
  | nan => nan
  | infinite negative => infinite negative
  | finite negative units _ => ofRoot negative 3 (units * Nat.pow unitsPerOne 2)

end Binary64

end Reckoner
