-- The calendar and the instants. A day is a year, a month and a day of it, or a count from
-- the first day of 1970. An instant is a count of seconds from there and nanoseconds. A leap
-- second has no number of its own. It is the second before it with a billion nanoseconds more.

namespace GraphText

/-! ## Days

A year is counted from March here, so that a leap day is the last day of its year, and 400 years
have 146097 days. -/

/-- A day of the calendar, and any other three numbers in its place. -/
structure Date where
  year : Int
  month : Int
  day : Int
  deriving DecidableEq

namespace Date

/-- The days from the first day of 1970. -/
def toDays (d : Date) : Int :=
  let year := if d.month ≤ 2 then d.year - 1 else d.year
  let ofEra := year % 400
  let ofYear := (153 * ((d.month + 9) % 12) + 2) / 5 + d.day - 1
  year / 400 * 146097 + (ofEra * 365 + ofEra / 4 - ofEra / 100 + ofYear) - 719468

/-- The day that lies so many days from the first day of 1970. -/
def ofDays (n : Int) : Date :=
  let shifted := n + 719468
  let day := shifted % 146097
  let ofEra := (day - day / 1460 + day / 36524 - day / 146096) / 365
  let ofYear := day - (365 * ofEra + ofEra / 4 - ofEra / 100)
  let month := (5 * ofYear + 2) / 153
  let year := ofEra + shifted / 146097 * 400
  ⟨if month < 10 then year else year + 1, if month < 10 then month + 3 else month - 9,
    ofYear - (153 * month + 2) / 5 + 1⟩

/-- The three numbers are a day: the day that they count to is written with them. -/
def Stands (d : Date) : Prop := ofDays d.toDays = d

instance (d : Date) : Decidable d.Stands := inferInstanceAs (Decidable (_ = _))

end Date

/-! ## Instants -/

/-- The nanoseconds of a second. -/
def billion : Nat := 1000000000

/-- The first second of the year -262143. -/
def firstSecond : Int := -8334601228800

/-- The last second of the year 262142. -/
def lastSecond : Int := 8210266876799

/-- The numbers name an instant of the calendar. -/
def IsInstant (seconds : Int) (nanos : Nat) : Prop :=
  (firstSecond ≤ seconds ∧ seconds ≤ lastSecond) ∧ nanos < 2 * billion ∧
    (billion ≤ nanos → seconds % 60 = 59)

instance (seconds : Int) (nanos : Nat) : Decidable (IsInstant seconds nanos) :=
  inferInstanceAs (Decidable (_ ∧ _ ∧ _))

/-- A moment in time. -/
structure Instant where
  seconds : Int
  nanos : Nat
  isInstant : IsInstant seconds nanos
  deriving DecidableEq

namespace Instant

/-- The instant of two numbers, if they name one. -/
def of? (seconds : Int) (nanos : Nat) : Option Instant :=
  if h : IsInstant seconds nanos then some ⟨seconds, nanos, h⟩ else none

/-- The instant some seconds earlier. -/
def earlier? (i : Instant) (seconds : Int) : Option Instant := of? (i.seconds - seconds) i.nanos

/-- The instant at which a clock has this reading, when it is some seconds ahead of
universal time. No clock is a day ahead or a day behind. -/
def universal? (reading : Instant) (ahead : Int) : Option Instant :=
  if ahead.natAbs < 86400 then reading.earlier? ahead else none

/-- The instant of a day and a time of day, where a minute may have a second more. -/
def ofClock? (d : Date) (hour minute second : Int) (nanos : Nat) : Option Instant :=
  if d.Stands ∧ hour < 24 ∧ minute < 60 ∧ second ≤ 60 then
    let start := d.toDays * 86400 + hour * 3600 + minute * 60
    if second = 60 then of? (start + 59) (nanos + billion) else of? (start + second) nanos
  else none

/-- The day of an instant. -/
def date (i : Instant) : Date := .ofDays (i.seconds / 86400)

/-- The year of an instant. -/
def year (i : Instant) : Int := i.date.year

/-- Four digits hold the year. -/
def HasPlainYear (i : Instant) : Prop := 0 ≤ i.year ∧ i.year ≤ 9999

instance (i : Instant) : Decidable i.HasPlainYear := inferInstanceAs (Decidable (_ ∧ _))

/-- The second of its day. -/
def ofDay (i : Instant) : Int := i.seconds % 86400

/-- The second of its minute, which is 60 in a leap second. -/
def ofMinute (i : Instant) : Int := i.ofDay % 60 + if billion ≤ i.nanos then 1 else 0

/-- The nanosecond of its second. -/
def ofSecond (i : Instant) : Nat := i.nanos % billion

end Instant

end GraphText
