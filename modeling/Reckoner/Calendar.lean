import Reckoner.Decimal.Shortest

/-!
# Dates and times

Milliseconds since the start of 1970 as dates of the Gregorian calendar, extended
to all years, in universal time.

* `Date.ofDays`, `Date.toDays`: days since the start of 1970 and dates.
* `DateTime.ofMillis`, `DateTime.toMillis`: milliseconds and times of day.
* `DateTime.text`: ISO 8601, with a sign and six digits for years outside 0 to
  9999.
* `timestampText?`: a floating-point timestamp as text, if it is a time that the
  calendar covers.
-/

namespace Reckoner

/-! ## Dates -/

/-- A day; months and days of the month count from one. -/
structure Date where
  year : Int
  month : Nat
  day : Nat
deriving DecidableEq, Repr

namespace Date

/-- The days from 1 March of year 0 to 1 January 1970. -/
def epochOffset : Int := 719468

/-- The days of 400 years. -/
def daysPerEra : Int := 146097

/-- The date of a day.  Years are counted from 1 March, so that the leap day is the
    last of its year; they repeat after an era of 400 years. -/
def ofDays (days : Int) : Date :=
  let shifted := days + epochOffset
  let era := shifted / daysPerEra
  let dayOfEra := (shifted % daysPerEra).toNat
  let yearOfEra :=
    (dayOfEra - dayOfEra / 1460 + dayOfEra / 36524 - dayOfEra / 146096) / 365
  let dayOfYear := dayOfEra - (365 * yearOfEra + yearOfEra / 4 - yearOfEra / 100)
  let monthFromMarch := (5 * dayOfYear + 2) / 153
  let day := dayOfYear - (153 * monthFromMarch + 2) / 5 + 1
  let month := if monthFromMarch < 10 then monthFromMarch + 3 else monthFromMarch - 9
  { year := yearOfEra + era * 400 + (if month ≤ 2 then 1 else 0), month, day }

/-- The day of a date. -/
def toDays (d : Date) : Int :=
  let year := if d.month ≤ 2 then d.year - 1 else d.year
  let monthFromMarch := if d.month ≤ 2 then d.month + 9 else d.month - 3
  let dayOfYear : Int := (153 * monthFromMarch + 2) / 5 + d.day - 1
  365 * year + year / 4 - year / 100 + year / 400 + dayOfYear - epochOffset

end Date

/-! ## Times -/

/-- A day and a time of day. -/
structure DateTime where
  date : Date
  hour : Nat
  minute : Nat
  second : Nat
  milli : Nat
deriving DecidableEq, Repr

namespace DateTime

def millisPerDay : Int := 86400000

def ofMillis (millis : Int) : DateTime :=
  let rest := (millis % millisPerDay).toNat
  { date := Date.ofDays (millis / millisPerDay)
    hour := rest / 3600000
    minute := rest / 60000 % 60
    second := rest / 1000 % 60
    milli := rest % 1000 }

def toMillis (t : DateTime) : Int :=
  t.date.toDays * millisPerDay +
    (3600000 * t.hour + 60000 * t.minute + 1000 * t.second + t.milli : Nat)

/-- A whole number with zeros in front, so that it has at least `width` digits. -/
def padded (width n : Nat) : List Char :=
  let digits := digitChars n
  List.replicate (width - digits.length) '0' ++ digits

/-- Four digits for the years 0 to 9999, a sign and six digits for all others. -/
def yearChars (year : Int) : List Char :=
  if 0 ≤ year ∧ year ≤ 9999 then padded 4 year.natAbs
  else (if year < 0 then '-' else '+') :: padded 6 year.natAbs

def chars (t : DateTime) : List Char :=
  yearChars t.date.year ++ '-' :: padded 2 t.date.month ++ '-' :: padded 2 t.date.day ++
    'T' :: padded 2 t.hour ++ ':' :: padded 2 t.minute ++ ':' :: padded 2 t.second ++
    '.' :: padded 3 t.milli ++ ['Z']

def text (t : DateTime) : String :=
  String.ofList t.chars

end DateTime

/-! ## Timestamps -/

/-- A hundred million days, the farthest from 1970 that the calendar covers. -/
def maxMillis : Int := 8640000000000000

/-- The time of a timestamp in milliseconds; parts of a millisecond are cut off
    toward 1970. -/
def DateTime.ofTimestamp? (timestamp : Binary64) : Option DateTime :=
  match timestamp.truncate? with
  | some millis => if millis.natAbs ≤ maxMillis.natAbs then some (ofMillis millis) else none
  | none => none

def timestampText? (timestamp : Binary64) : Option String :=
  (DateTime.ofTimestamp? timestamp).map (·.text)

end Reckoner
