import Reckoner.Calendar
import Mathlib.Data.Prod.Lex
import Mathlib.Tactic.IntervalCases

/-! # The Gregorian calendar

The calendar by its rules, day after day, and the two formulas that jump over the days between.

* `IsLeap`, `daysInMonth`, `Date.IsValid`, `Date.tomorrow` — the rules.
* `Date.Counts` — a date is reached from 1 January 1970 by so many steps.
* `Date.toDays_tomorrow`, `Date.ofDays_toDays` — the formulas follow the steps.
* `Date.counts_iff` — the dates that are reached, and the number of steps to them.
* `Date.key_lt_key` — dates in the order of their days.
-/

namespace Reckoner

/-! ## The rules -/

/-- Every fourth year has a leap day, but of the years that end a century only every fourth. -/
def IsLeap (year : Int) : Prop :=
  year % 4 = 0 ∧ (year % 100 = 0 → year % 400 = 0)

instance (year : Int) : Decidable (IsLeap year) :=
  inferInstanceAs (Decidable (_ ∧ _))

def daysInMonth (year : Int) (month : Nat) : Nat :=
  if month = 2 then if IsLeap year then 29 else 28
  else if month = 4 ∨ month = 6 ∨ month = 9 ∨ month = 11 then 30
  else 31

namespace Date

structure IsValid (d : Date) : Prop where
  month_pos : 1 ≤ d.month
  month_le : d.month ≤ 12
  day_pos : 1 ≤ d.day
  day_le : d.day ≤ daysInMonth d.year d.month

/-- The first of the next month. -/
def nextMonth (d : Date) : Date :=
  if d.month < 12 then { d with month := d.month + 1, day := 1 }
  else { year := d.year + 1, month := 1, day := 1 }

def tomorrow (d : Date) : Date :=
  if d.day < daysInMonth d.year d.month then { d with day := d.day + 1 } else d.nextMonth

/-- The first day of the time that is counted. -/
def epoch : Date :=
  { year := 1970, month := 1, day := 1 }

/-- The date is so many days after the first one, or before it. -/
inductive Counts : Date → Int → Prop where
  | epoch : Counts epoch 0
  | later {d : Date} {n : Int} : Counts d n → Counts d.tomorrow (n + 1)
  | earlier {d : Date} {n : Int} : d.IsValid → Counts d.tomorrow (n + 1) → Counts d n

/-! ## Steps -/

section Steps

variable {d : Date}

theorem daysInMonth_pos (year : Int) (month : Nat) : 1 ≤ daysInMonth year month := by
  unfold daysInMonth
  split_ifs <;> omega

theorem daysInMonth_le (year : Int) (month : Nat) : daysInMonth year month ≤ 31 := by
  unfold daysInMonth
  split_ifs <;> omega

theorem epoch_isValid : epoch.IsValid :=
  ⟨by decide, by decide, by decide, by decide⟩

theorem isValid_nextMonth : d.nextMonth.IsValid := by
  unfold Date.nextMonth
  split
  next inside => exact ⟨Nat.le_add_left .., inside, le_rfl, daysInMonth_pos ..⟩
  next => exact ⟨le_rfl, by simp, le_rfl, daysInMonth_pos ..⟩

theorem IsValid.tomorrow (valid : d.IsValid) : d.tomorrow.IsValid := by
  unfold Date.tomorrow
  split
  next later => exact ⟨valid.month_pos, valid.month_le, Nat.le_add_left .., later⟩
  next => exact isValid_nextMonth

/-- The first of the next month comes after the last of this one. -/
theorem toDays_nextMonth (month_pos : 1 ≤ d.month) (month_le : d.month ≤ 12) :
    d.nextMonth.toDays = ({ d with day := daysInMonth d.year d.month } : Date).toDays + 1 := by
  obtain ⟨year, month, day⟩ := d
  simp only at month_pos month_le
  -- The months are told apart because each has its own number of days.
  interval_cases month
  case «2» =>
    by_cases leap : IsLeap year <;> simp [nextMonth, toDays, daysInMonth, leap] <;>
      unfold IsLeap at leap <;> omega
  all_goals
    simp [nextMonth, toDays, daysInMonth]
    omega

theorem toDays_tomorrow (valid : d.IsValid) : d.tomorrow.toDays = d.toDays + 1 := by
  unfold Date.tomorrow
  split
  next later =>
    simp only [toDays]
    push_cast
    omega
  next last =>
    have isLast : daysInMonth d.year d.month = d.day := by
      have := valid.day_le
      omega
    rw [toDays_nextMonth valid.month_pos valid.month_le, isLast]

/-- Every date comes after another one. -/
theorem IsValid.exists_tomorrow (valid : d.IsValid) :
    ∃ before : Date, before.IsValid ∧ before.tomorrow = d := by
  obtain ⟨year, month, day⟩ := d
  obtain ⟨month_pos, month_le, day_pos, day_le⟩ := valid
  simp only at month_pos month_le day_pos day_le
  by_cases firstOfMonth : day = 1
  · subst firstOfMonth
    by_cases firstOfYear : month = 1
    · subst firstOfYear
      refine ⟨⟨year - 1, 12, 31⟩, ⟨?_, ?_, ?_, ?_⟩, ?_⟩ <;>
        simp [Date.tomorrow, Date.nextMonth, daysInMonth]
    · have inside : 1 ≤ month - 1 := by omega
      have next : month - 1 < 12 := by omega
      refine ⟨⟨year, month - 1, daysInMonth year (month - 1)⟩,
        ⟨inside, next.le, daysInMonth_pos .., le_rfl⟩, ?_⟩
      simp [Date.tomorrow, Date.nextMonth, next, Nat.sub_add_cancel month_pos]
  · have inside : 1 ≤ day - 1 := by omega
    have later : day - 1 < daysInMonth year month := by omega
    refine ⟨⟨year, month, day - 1⟩, ⟨month_pos, month_le, inside, later.le⟩, ?_⟩
    simp [Date.tomorrow, later, Nat.sub_add_cancel day_pos]

end Steps

/-! ## The formulas -/

/-- The days of an era before one of its years, which begin in March. -/
def daysBefore (year : Nat) : Nat :=
  365 * year + year / 4 - year / 100

theorem yearOfEra_eq {year dayOfYear : Nat} (inEra : year < 400)
    (inYear : dayOfYear < 365 ∨ dayOfYear = 365 ∧ IsLeap (year + 1)) :
    let dayOfEra := daysBefore year + dayOfYear
    (dayOfEra - dayOfEra / 1460 + dayOfEra / 36524 - dayOfEra / 146096) / 365 = year := by
  intro dayOfEra
  obtain ⟨c, q, r, century, four, one, rfl⟩ : ∃ c q r, c < 4 ∧ q < 25 ∧ r < 4 ∧
      year = 100 * c + 4 * q + r :=
    ⟨year / 100, year % 100 / 4, year % 4, by omega, by omega, by omega, by omega⟩
  have isDay : dayOfEra = 36524 * c + 1461 * q + 365 * r + dayOfYear := by
    show 365 * (100 * c + 4 * q + r) + _ - _ + _ = _
    omega
  have inYear : dayOfYear < 365 ∨ dayOfYear = 365 ∧ r = 3 ∧ (q = 24 → c = 3) := by
    refine inYear.imp_right fun ⟨last, leap⟩ => ⟨last, ?_⟩
    unfold IsLeap at leap
    push_cast at leap
    omega
  -- There is a day more every four years, but for the end of a century, unless it ends the era.
  have inCentury : dayOfEra < 36524 * (c + 1) ∨ dayOfEra = 146096 ∧ c = 3 := by omega
  have centuries : dayOfEra / 36524 = c + dayOfEra / 146096 := by
    rcases inCentury with within | ⟨last, isThird⟩
    · rw [Nat.div_eq_of_lt (by omega : dayOfEra < 146096)]
      omega
    · omega
  have fours : dayOfEra / 1460 = 25 * c + q ∧ dayOfYear < 365 ∨
      dayOfEra / 1460 = 25 * c + q + 1 ∧ 0 < dayOfYear := by omega
  rw [centuries]
  rcases fours with ⟨days, _⟩ | ⟨days, _⟩ <;> rw [days] <;> omega

/-- The date of a day in a year that begins in March. -/
theorem ofDays_march (era : Int) {year dayOfYear : Nat} (inEra : year < 400)
    (inYear : dayOfYear < 365 ∨ dayOfYear = 365 ∧ IsLeap (year + 1)) :
    ofDays (era * daysPerEra + (daysBefore year + dayOfYear : Nat) - epochOffset) =
      let monthFromMarch := (5 * dayOfYear + 2) / 153
      let month := if monthFromMarch < 10 then monthFromMarch + 3 else monthFromMarch - 9
      { year := year + era * 400 + (if month ≤ 2 then 1 else 0)
        month
        day := dayOfYear - (153 * monthFromMarch + 2) / 5 + 1 } := by
  have yearOfEra := yearOfEra_eq inEra inYear
  have rest : daysBefore year + dayOfYear - daysBefore year = dayOfYear :=
    Nat.add_sub_cancel_left ..
  have within : daysBefore year + dayOfYear < 146097 := by
    unfold daysBefore
    omega
  generalize daysBefore year + dayOfYear = dayOfEra at *
  have isEra : (era * daysPerEra + dayOfEra) / daysPerEra = era := by
    unfold daysPerEra
    omega
  have isDay : ((era * daysPerEra + dayOfEra) % daysPerEra).toNat = dayOfEra := by
    unfold daysPerEra
    omega
  unfold daysBefore at rest
  simp only at yearOfEra
  simp only [ofDays, Int.sub_add_cancel, isEra, isDay, yearOfEra, rest]

/-! ### Years that begin in March -/

/-- The year from March on to which a date belongs. -/
def marchYear (d : Date) : Int :=
  if d.month ≤ 2 then d.year - 1 else d.year

/-- The months since March. -/
def marchMonth (d : Date) : Nat :=
  if d.month ≤ 2 then d.month + 9 else d.month - 3

/-- The days since 1 March. -/
def marchDay (d : Date) : Nat :=
  (153 * d.marchMonth + 2) / 5 + d.day - 1

theorem toDays_eq_march {d : Date} (day_pos : 1 ≤ d.day) :
    d.toDays = d.marchYear / 400 * daysPerEra +
      (daysBefore (d.marchYear % 400).toNat + d.marchDay : Nat) - epochOffset := by
  show 365 * d.marchYear + d.marchYear / 4 - d.marchYear / 100 + d.marchYear / 400 +
    ((153 * (d.marchMonth : Int) + 2) / 5 + d.day - 1) - epochOffset = _
  unfold marchDay daysBefore daysPerEra
  omega

theorem IsValid.marchDay_le {d : Date} (valid : d.IsValid) :
    d.marchDay < 365 ∨ d.marchDay = 365 ∧ IsLeap ((d.marchYear % 400).toNat + 1) := by
  obtain ⟨year, month, day⟩ := d
  obtain ⟨month_pos, month_le, day_pos, day_le⟩ := valid
  simp only at month_pos month_le day_pos day_le
  -- Only the last day of February can end a year of 366 days.
  interval_cases month
  case «2» =>
    simp only [marchDay, marchMonth, marchYear, le_refl, if_true]
    by_cases leap : IsLeap year <;> simp [daysInMonth, leap] at day_le <;> unfold IsLeap at * <;>
      omega
  all_goals
    simp [marchDay, marchMonth, daysInMonth] at day_le ⊢
    omega

theorem IsValid.marchMonth_eq {d : Date} (valid : d.IsValid) :
    (5 * d.marchDay + 2) / 153 = d.marchMonth := by
  obtain ⟨year, month, day⟩ := d
  obtain ⟨month_pos, month_le, day_pos, day_le⟩ := valid
  simp only at month_pos month_le day_pos day_le
  have short : daysInMonth year 2 ≤ 29 := by
    unfold daysInMonth
    split_ifs <;> omega
  interval_cases month
  case «2» =>
    simp only [marchDay, marchMonth]
    omega
  all_goals
    simp [marchDay, marchMonth, daysInMonth] at day_le ⊢
    omega

theorem ofDays_toDays {d : Date} (valid : d.IsValid) : ofDays d.toDays = d := by
  have inEra : (d.marchYear % 400).toNat < 400 := by omega
  rw [toDays_eq_march valid.day_pos, ofDays_march _ inEra valid.marchDay_le]
  simp only [valid.marchMonth_eq]
  obtain ⟨year, month, day⟩ := d
  obtain ⟨month_pos, month_le, day_pos, -⟩ := valid
  simp only [marchDay, marchMonth, marchYear, mk.injEq] at *
  split_ifs <;> omega

/-! ## Days and dates -/

theorem exists_toDays (n : Int) : ∃ d : Date, d.IsValid ∧ d.toDays = n := by
  induction n with
  | zero => exact ⟨epoch, epoch_isValid, rfl⟩
  | succ n ih =>
    obtain ⟨d, valid, isDay⟩ := ih
    exact ⟨d.tomorrow, valid.tomorrow, by rw [toDays_tomorrow valid, isDay]⟩
  | pred n ih =>
    obtain ⟨d, valid, isDay⟩ := ih
    obtain ⟨before, validBefore, rfl⟩ := valid.exists_tomorrow
    rw [toDays_tomorrow validBefore] at isDay
    exact ⟨before, validBefore, by omega⟩

theorem ofDays_isValid (n : Int) : (ofDays n).IsValid := by
  obtain ⟨d, valid, rfl⟩ := exists_toDays n
  rwa [ofDays_toDays valid]

theorem toDays_ofDays (n : Int) : (ofDays n).toDays = n := by
  obtain ⟨d, valid, rfl⟩ := exists_toDays n
  rw [ofDays_toDays valid]

theorem ofDays_add_one (n : Int) : ofDays (n + 1) = (ofDays n).tomorrow := by
  have valid := ofDays_isValid n
  rw [← ofDays_toDays valid.tomorrow, toDays_tomorrow valid, toDays_ofDays]

theorem Counts.isValid {d : Date} {n : Int} (counts : Counts d n) : d.IsValid := by
  induction counts with
  | epoch => exact epoch_isValid
  | later _ ih => exact ih.tomorrow
  | earlier valid => exact valid

theorem counts_ofDays (n : Int) : Counts (ofDays n) n := by
  induction n with
  | zero => exact .epoch
  | succ n ih =>
    rw [ofDays_add_one]
    exact ih.later
  | pred n ih =>
    refine .earlier (ofDays_isValid _) ?_
    rw [← ofDays_add_one, Int.sub_add_cancel]
    exact ih

/-- The dates that are reached are those of the calendar, and each of them by the number of days
    that the formula gives. -/
theorem counts_iff {d : Date} {n : Int} : Counts d n ↔ d.IsValid ∧ d.toDays = n := by
  constructor
  · intro counts
    refine ⟨counts.isValid, ?_⟩
    induction counts with
    | epoch => rfl
    | later counts ih => rw [toDays_tomorrow counts.isValid, ih]
    | earlier valid _ ih =>
      rw [toDays_tomorrow valid] at ih
      omega
  · rintro ⟨valid, rfl⟩
    have counts := counts_ofDays d.toDays
    rwa [ofDays_toDays valid] at counts

/-- The last day of February 2000, and that of 1900. -/
example : (ofDays 11016, ofDays (-25509)) = (⟨2000, 2, 29⟩, ⟨1900, 2, 28⟩) := by decide

/-! ## Order -/

/-- The year, the month and the day, compared in this order. -/
def key (d : Date) : Int ×ₗ Nat ×ₗ Nat :=
  toLex (d.year, toLex (d.month, d.day))

theorem key_lt_tomorrow (d : Date) : d.key < d.tomorrow.key := by
  unfold key tomorrow nextMonth
  split_ifs <;> simp [Prod.Lex.toLex_lt_toLex]

theorem key_lt_key {m n : Int} (earlier : m < n) : (ofDays m).key < (ofDays n).key := by
  have later (n : Int) : (ofDays n).key < (ofDays (n + 1)).key := by
    rw [ofDays_add_one]
    exact key_lt_tomorrow _
  exact strictMono_int_of_lt_succ later earlier

/-- The years within a hundred million days have at most six digits. -/
theorem natAbs_year_lt {n : Int} (within : n.natAbs ≤ 100000000) :
    (ofDays n).year.natAbs < 10 ^ 6 := by
  unfold ofDays epochOffset daysPerEra
  simp only
  split_ifs <;> omega

end Date
end Reckoner
