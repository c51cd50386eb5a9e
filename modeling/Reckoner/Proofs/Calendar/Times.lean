import Reckoner.History
import Reckoner.Proofs.Calendar.Fields
import Reckoner.Proofs.Calendar.Gregorian
import Reckoner.Proofs.Decimal.Places
import Mathlib.Data.Rat.Floor

/-! # Times as text

A timestamp as a date and a time of day, and as the text of it.

* `DateTime.IsValid`, `DateTime.Denotes` — a time that the calendar has, and its milliseconds.
* `DateTime.read?`, `DateTime.read?_chars` — the text of a time is read as this time.
* `DateTime.chars_lt_iff` — texts with years of four digits are in the order of the times.
* `towardZero`, `Binary64.truncate?_of_toRat?` — a timestamp without its fraction.
* `Entry.KeepsTime`, `Entry.ComparesTimes`, `Entry.times_kept` — the time of an entry in its text.
-/

namespace Reckoner
namespace DateTime

/-! ## Times -/

structure IsValid (t : DateTime) : Prop where
  date : t.date.IsValid
  hour_le : t.hour ≤ 23
  minute_le : t.minute ≤ 59
  second_le : t.second ≤ 59
  milli_le : t.milli ≤ 999

/-- The time is so many milliseconds after the beginning of 1970, or before it. -/
def Denotes (t : DateTime) (millis : Int) : Prop :=
  ∃ days, t.date.Counts days ∧ millis = days * millisPerDay +
    (3600000 * t.hour + 60000 * t.minute + 1000 * t.second + t.milli : Nat)

theorem ofMillis_isValid (millis : Int) : (ofMillis millis).IsValid := by
  have inDay : (millis % millisPerDay).toNat < 86400000 := by
    unfold millisPerDay
    omega
  refine ⟨Date.ofDays_isValid _, ?_, ?_, ?_, ?_⟩ <;> simp only [ofMillis] <;> omega

theorem ofMillis_denotes (millis : Int) : (ofMillis millis).Denotes millis := by
  refine ⟨_, Date.counts_ofDays _, ?_⟩
  simp only [ofMillis]
  unfold millisPerDay
  omega

theorem Denotes.toMillis_eq {t : DateTime} {millis : Int} (denotes : t.Denotes millis) :
    t.toMillis = millis := by
  obtain ⟨days, counts, rfl⟩ := denotes
  rw [toMillis, (Date.counts_iff.mp counts).2]

theorem toMillis_ofMillis (millis : Int) : (ofMillis millis).toMillis = millis :=
  (ofMillis_denotes millis).toMillis_eq

/-! ## Texts -/

/-- The numbers of a time, but for the sign of the year. -/
def fields (t : DateTime) : List Nat :=
  [t.date.year.natAbs, t.date.month, t.date.day, t.hour, t.minute, t.second, t.milli]

/-- The digits of the numbers, and what ends them. -/
def layout (yearWidth : Nat) : List (Nat × Char) :=
  [(yearWidth, '-'), (2, '-'), (2, 'T'), (2, ':'), (2, ':'), (2, '.'), (3, 'Z')]

def ofFields? (negative : Bool) : List Nat → Option DateTime
  | [year, month, day, hour, minute, second, milli] =>
      let date := { year := if negative then -year else year, month, day }
      some { date, hour, minute, second, milli }
  | _ => none

/-- The time that a text writes: a year of four digits, or one of six digits after a sign, which
    is a plus sign for the year 0. -/
def read? : List Char → Option DateTime
  | '+' :: s => (readFields? (layout 6) s).bind (ofFields? false)
  | '-' :: s => ((readFields? (layout 6) s).bind (ofFields? true)).filter (·.date.year ≠ 0)
  | s => (readFields? (layout 4) s).bind (ofFields? false)

section Texts

variable {t : DateTime}

theorem chars_of_four (inside : 0 ≤ t.date.year ∧ t.date.year ≤ 9999) :
    t.chars = writeFields (layout 4) t.fields := by
  simp [chars, yearChars, inside, layout, fields, writeFields]

theorem chars_of_six (outside : ¬ (0 ≤ t.date.year ∧ t.date.year ≤ 9999)) :
    t.chars = (if t.date.year < 0 then '-' else '+') :: writeFields (layout 6) t.fields := by
  simp [chars, yearChars, outside, layout, fields, writeFields]

theorem fit_fields (valid : t.IsValid) {yearWidth : Nat} (positive : 0 < yearWidth)
    (year : t.date.year.natAbs < 10 ^ yearWidth) : Fit (layout yearWidth) t.fields := by
  have month := valid.date.month_le
  have day := valid.date.day_le.trans (Date.daysInMonth_le ..)
  have hour := valid.hour_le
  have minute := valid.minute_le
  have second := valid.second_le
  have milli := valid.milli_le
  refine .cons ⟨positive, year⟩
    (.cons ?_ (.cons ?_ (.cons ?_ (.cons ?_ (.cons ?_ (.cons ?_ .nil))))))
  all_goals
    simp only
    omega

theorem ofFields?_fields (t : DateTime) : ofFields? (t.date.year < 0) t.fields = some t := by
  obtain ⟨⟨year, month, day⟩, hour, minute, second, milli⟩ := t
  have signed : (if year < 0 then -(year.natAbs : Int) else year.natAbs) = year := by
    split <;> omega
  simp only [fields, ofFields?, decide_eq_true_eq, signed]

theorem exists_writeFields (t : DateTime) (yearWidth : Nat) :
    ∃ c rest, writeFields (layout yearWidth) t.fields = c :: rest ∧ isDigit c = true := by
  have nonempty : padded yearWidth t.date.year.natAbs ≠ [] :=
    List.append_ne_nil_of_right_ne_nil _ (digitChars_ne_nil _)
  obtain ⟨c, rest, isCons⟩ := List.exists_cons_of_ne_nil nonempty
  have digit : isDigit c = true := isDigit_of_mem_padded (isCons ▸ List.mem_cons_self ..)
  have written : writeFields (layout yearWidth) t.fields =
      padded yearWidth t.date.year.natAbs ++ _ := rfl
  rw [isCons, List.cons_append] at written
  exact ⟨c, _, written, digit⟩

/-- The text of a time is read as this time. -/
theorem read?_chars (valid : t.IsValid) (year : t.date.year.natAbs < 10 ^ 6) :
    read? t.chars = some t := by
  have signed := ofFields?_fields t
  by_cases inside : 0 ≤ t.date.year ∧ t.date.year ≤ 9999
  · have fit := fit_fields valid (by decide : 0 < 4) (by omega)
    have fieldsRead := readFields?_writeFields fit
    obtain ⟨c, rest, isChars, digit⟩ := exists_writeFields t 4
    rw [decide_eq_false inside.1.not_gt] at signed
    rw [chars_of_four inside, isChars]
    rw [isChars] at fieldsRead
    unfold read?
    split
    next plus => cases plus; cases digit
    next minus => cases minus; cases digit
    next => rw [fieldsRead, Option.bind_some, signed]
  · have fit := fit_fields valid (by decide) year
    have fieldsRead := readFields?_writeFields fit
    rw [chars_of_six inside]
    by_cases negative : t.date.year < 0
    · have nonzero : decide (t.date.year ≠ 0) = true := decide_eq_true negative.ne
      rw [decide_eq_true negative] at signed
      rw [if_pos negative, read?, fieldsRead, Option.bind_some, signed, Option.filter_some, nonzero]
      rfl
    · rw [decide_eq_false negative] at signed
      rw [if_neg negative, read?, fieldsRead, Option.bind_some, signed]

/-- The last millisecond before the year 0, and the first after the year 9999. -/
example : (ofMillis (-62167219200001)).text = "-000001-12-31T23:59:59.999Z" ∧
    (ofMillis 253402300800000).text = "+010000-01-01T00:00:00.000Z" := by decide

/-! ## Order -/

/-- The numbers of later times are greater, in the order of the fields. -/
theorem fields_lt {m n : Int} (earlier : m < n) (year : 0 ≤ (ofMillis m).date.year) :
    (ofMillis m).fields < (ofMillis n).fields := by
  have days : m / millisPerDay ≤ n / millisPerDay := Int.ediv_le_ediv (by decide) earlier.le
  rcases days.lt_or_eq with before | same
  · have date : (ofMillis m).date.key < (ofMillis n).date.key := Date.key_lt_key before
    simp only [Date.key, Prod.Lex.toLex_lt_toLex] at date
    simp only [fields, List.cons_lt_cons_iff]
    rcases date with years | ⟨years, months | ⟨months, dates⟩⟩
    · exact .inl (by omega)
    · exact .inr ⟨by rw [years], .inl months⟩
    · exact .inr ⟨by rw [years], .inr ⟨months, .inl dates⟩⟩
  · have rest : (m % millisPerDay).toNat < (n % millisPerDay).toNat := by
      unfold millisPerDay at same ⊢
      omega
    simp only [fields, ofMillis, same, List.cons_lt_cons_self, List.cons_lt_cons_iff]
    generalize (m % millisPerDay).toNat = before at rest ⊢
    generalize (n % millisPerDay).toNat = after at rest ⊢
    simp only [List.lt_irrefl, and_false, or_false]
    omega

/-- Texts with years of four digits are in the order of the times. -/
theorem chars_lt_iff {m n : Int}
    (left : 0 ≤ (ofMillis m).date.year ∧ (ofMillis m).date.year ≤ 9999)
    (right : 0 ≤ (ofMillis n).date.year ∧ (ofMillis n).date.year ≤ 9999) :
    (ofMillis m).chars < (ofMillis n).chars ↔ m < n := by
  have fit := fit_fields (ofMillis_isValid m) (by decide : 0 < 4) (by omega)
  have fit' := fit_fields (ofMillis_isValid n) (by decide : 0 < 4) (by omega)
  rw [chars_of_four left, chars_of_four right]
  constructor
  · intro less
    rcases lt_trichotomy m n with before | rfl | after
    · exact before
    · exact absurd less (List.lt_irrefl _)
    · exact absurd (writeFields_lt fit' fit (fields_lt after right.1)) (List.lt_asymm less)
  · intro earlier
    exact writeFields_lt fit fit' (fields_lt earlier left.1)

end Texts

end DateTime

/-! ## Timestamps -/

/-- The whole number next to a number on the side of zero. -/
def towardZero (v : ℚ) : ℤ :=
  if 0 ≤ v then ⌊v⌋ else ⌈v⌉

theorem towardZero_intCast (m : ℤ) : towardZero m = m := by
  simp [towardZero]

theorem abs_towardZero_le (v : ℚ) : |(towardZero v : ℚ)| ≤ |v| := by
  unfold towardZero
  split
  next nonnegative =>
    have whole : (0 : ℚ) ≤ ⌊v⌋ := by exact_mod_cast Int.floor_nonneg.mpr nonnegative
    rw [abs_of_nonneg whole, abs_of_nonneg nonnegative]
    exact Int.floor_le v
  next negative =>
    have below := (lt_of_not_ge negative).le
    have whole : (⌈v⌉ : ℚ) ≤ 0 := by exact_mod_cast Int.ceil_le.mpr (by exact_mod_cast below)
    rw [abs_of_nonpos whole, abs_of_nonpos below]
    exact neg_le_neg (Int.le_ceil v)

namespace Binary64

variable {x : Binary64} {v : ℚ}

theorem truncate?_of_toRat? (exact : x.toRat? = some v) : x.truncate? = some (towardZero v) := by
  obtain ⟨units, isUnits, rfl⟩ := Option.map_eq_some_iff.mp exact
  have positive : (0 : ℚ) < unitsPerOne := by exact_mod_cast unitsPerOne_pos
  rw [truncate?, isUnits, Option.map_some, towardZero]
  split
  next nonnegative =>
    have sign : 0 ≤ units := by
      by_contra below
      have negative : (units : ℚ) < 0 := by exact_mod_cast Int.lt_of_not_ge below
      exact nonnegative.not_gt (div_neg_of_neg_of_pos negative positive)
    rw [Int.tdiv_eq_ediv_of_nonneg sign, Rat.floor_intCast_div_natCast]
  next negative =>
    have sign : 0 ≤ -units := by
      by_contra above
      exact negative (div_nonneg (by exact_mod_cast (by omega : 0 ≤ units)) positive.le)
    have mirrored : (units : ℚ) / unitsPerOne = -(((-units : ℤ) : ℚ) / unitsPerOne) := by
      push_cast
      ring
    rw [mirrored, Int.ceil_neg, Rat.floor_intCast_div_natCast, ← Int.tdiv_eq_ediv_of_nonneg sign,
      Int.neg_tdiv, Int.neg_neg]

/-- A number with a fraction is small, so that leaving the fraction out crosses no bound above. -/
theorem abs_towardZero_le_iff (exact : x.toRat? = some v) {limit : ℚ} (large : 2 ^ 52 ≤ limit) :
    |(towardZero v : ℚ)| ≤ limit ↔ |v| ≤ limit := by
  cases whole : x.toInt? with
  | some m =>
    rw [(toInt?_iff_of_toRat? exact).mp whole, towardZero_intCast]
  | none =>
    have small : |v| < 2 ^ 52 := by
      cases x with
      | nan => cases exact
      | infinite negative => cases exact
      | finite negative units count =>
        have below := lt_of_not_dvd count (toInt?_eq_none_iff.mp whole)
        have positive : (0 : ℚ) < unitsPerOne := by exact_mod_cast unitsPerOne_pos
        rw [toRat?_finite, Option.some.injEq] at exact
        have magnitude : (0 : ℚ) ≤ units / unitsPerOne := div_nonneg units.cast_nonneg positive.le
        rw [← exact, abs_signFactor_mul, abs_of_nonneg magnitude, div_lt_iff₀ positive]
        exact_mod_cast below
    have within := small.le.trans large
    exact iff_of_true ((abs_towardZero_le v).trans within) within

end Binary64

namespace Entry

/-- The entry with its time as the text of so many milliseconds. -/
def datedAt (e : Entry) (millis : Int) : DatedEntry :=
  { query := e.query
    result := e.result
    operationType := e.operationType
    timestamp := (DateTime.ofMillis millis).text }

section Timestamps

variable {e : Entry} {v : ℚ}

theorem ofTimestamp?_of_toRat? {x : Binary64} (exact : x.toRat? = some v) :
    DateTime.ofTimestamp? x =
      if |v| ≤ maxMillis then some (.ofMillis (towardZero v)) else none := by
  have limit : |(towardZero v : ℚ)| ≤ maxMillis ↔ |v| ≤ maxMillis :=
    Binary64.abs_towardZero_le_iff exact (by norm_num [maxMillis])
  have magnitude : (towardZero v).natAbs ≤ maxMillis.natAbs ↔ |v| ≤ maxMillis := by
    rw [← limit, ← Int.cast_abs, Int.cast_le, Int.abs_eq_natAbs]
    unfold maxMillis
    omega
  simp only [DateTime.ofTimestamp?, Binary64.truncate?_of_toRat? exact, magnitude]

theorem dated?_of_toRat? (exact : e.timestamp.toRat? = some v) :
    e.dated? = if |v| ≤ maxMillis then some (e.datedAt (towardZero v)) else none := by
  rw [dated?, timestampText?, ofTimestamp?_of_toRat? exact]
  split <;> rfl

theorem dated?_of_toRat?_eq_none (unbounded : e.timestamp.toRat? = none) : e.dated? = none := by
  have unplaced : e.timestamp.units? = none := Option.map_eq_none_iff.mp unbounded
  rw [dated?, timestampText?, DateTime.ofTimestamp?, Binary64.truncate?, unplaced]
  rfl

theorem eq_datedAt {dated : DatedEntry} (exact : e.timestamp.toRat? = some v)
    (isDated : e.dated? = some dated) :
    |v| ≤ maxMillis ∧ dated = e.datedAt (towardZero v) := by
  rw [dated?_of_toRat? exact] at isDated
  split at isDated
  next within => exact ⟨within, (Option.some.inj isDated).symm⟩
  next => cases isDated

theorem read?_datedAt (within : |v| ≤ maxMillis) :
    DateTime.read? (e.datedAt (towardZero v)).timestamp.toList =
      some (.ofMillis (towardZero v)) := by
  have magnitude : |(towardZero v : ℚ)| ≤ maxMillis := (abs_towardZero_le v).trans within
  rw [← Int.cast_abs, Int.cast_le, Int.abs_eq_natAbs] at magnitude
  have year : (DateTime.ofMillis (towardZero v)).date.year.natAbs < 10 ^ 6 := by
    refine Date.natAbs_year_lt ?_
    unfold DateTime.millisPerDay
    unfold maxMillis at magnitude
    omega
  rw [datedAt, DateTime.text, String.toList_ofList,
    DateTime.read?_chars (DateTime.ofMillis_isValid _) year]

end Timestamps

/-- What the text of the time of an entry tells. -/
structure KeepsTime (e : Entry) : Prop where
  uncovered : e.dated? = none ↔
    e.timestamp = .nan ∨ (∃ negative, e.timestamp = .infinite negative) ∨
      ∃ v, e.timestamp.toRat? = some v ∧ maxMillis < |v|
  kept (dated : DatedEntry) : e.dated? = some dated → dated.query = e.query ∧
    dated.result = e.result ∧ dated.operationType = e.operationType
  denoted (dated : DatedEntry) (v : ℚ) : e.dated? = some dated → e.timestamp.toRat? = some v →
    ∃ t, DateTime.read? dated.timestamp.toList = some t ∧ t.IsValid ∧ t.Denotes (towardZero v)
  decoded (dated : DatedEntry) (m : ℤ) : e.dated? = some dated → e.timestamp.toInt? = some m →
    (DateTime.read? dated.timestamp.toList).map (·.toMillis) = some m

/-- How the texts of the times of two entries compare. -/
structure ComparesTimes (e e' : Entry) : Prop where
  distinct (dated dated' : DatedEntry) (m m' : ℤ) : e.dated? = some dated →
    e'.dated? = some dated' → e.timestamp.toInt? = some m → e'.timestamp.toInt? = some m' →
    m ≠ m' → dated.timestamp ≠ dated'.timestamp
  ordered (dated dated' : DatedEntry) (v v' : ℚ) (t t' : DateTime) : e.dated? = some dated →
    e'.dated? = some dated' → e.timestamp.toRat? = some v → e'.timestamp.toRat? = some v' →
    DateTime.read? dated.timestamp.toList = some t →
    DateTime.read? dated'.timestamp.toList = some t' →
    (0 ≤ t.date.year ∧ t.date.year ≤ 9999) → (0 ≤ t'.date.year ∧ t'.date.year ≤ 9999) →
    (dated.timestamp < dated'.timestamp ↔ towardZero v < towardZero v')

theorem keepsTime (e : Entry) : e.KeepsTime where
  uncovered := by
    rw [← or_assoc, ← Binary64.toRat?_eq_none_iff]
    cases exact : e.timestamp.toRat? with
    | none => exact iff_of_true (dated?_of_toRat?_eq_none exact) (.inl rfl)
    | some v => simp [dated?_of_toRat? exact]
  kept dated isDated := by
    obtain ⟨_, _, rfl⟩ := Option.map_eq_some_iff.mp isDated
    exact ⟨rfl, rfl, rfl⟩
  denoted dated v isDated exact := by
    obtain ⟨within, rfl⟩ := eq_datedAt exact isDated
    exact ⟨_, read?_datedAt within, DateTime.ofMillis_isValid _, DateTime.ofMillis_denotes _⟩
  decoded dated m isDated whole := by
    obtain ⟨within, rfl⟩ := eq_datedAt (Binary64.toRat?_of_toInt? whole) isDated
    rw [read?_datedAt within, Option.map_some, DateTime.toMillis_ofMillis, towardZero_intCast]

theorem comparesTimes (e e' : Entry) : e.ComparesTimes e' where
  distinct dated dated' m m' isDated isDated' whole whole' different same := by
    have decoded := (keepsTime e).decoded dated m isDated whole
    have decoded' := (keepsTime e').decoded dated' m' isDated' whole'
    rw [same, decoded'] at decoded
    exact different (Option.some.inj decoded).symm
  ordered dated dated' v v' t t' isDated isDated' exact exact' reads reads' year year' := by
    obtain ⟨within, rfl⟩ := eq_datedAt exact isDated
    obtain ⟨within', rfl⟩ := eq_datedAt exact' isDated'
    obtain rfl := Option.some.inj ((read?_datedAt within).symm.trans reads)
    obtain rfl := Option.some.inj ((read?_datedAt within').symm.trans reads')
    rw [datedAt, datedAt, String.lt_iff, DateTime.text, DateTime.text,
      String.toList_ofList, String.toList_ofList, DateTime.chars_lt_iff year year']

/-- The text of the time of an entry leaves nothing out but the fraction of a millisecond, for all
    times that the calendar covers, and such texts compare as the times do. -/
theorem times_kept (e : Entry) : e.KeepsTime ∧ ∀ e' : Entry, e.ComparesTimes e' :=
  ⟨keepsTime e, comparesTimes e⟩

end Entry

end Reckoner
