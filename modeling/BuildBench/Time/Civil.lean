import BuildBench.Time.Duration

set_option autoImplicit false

/-! Dates and times of day in the proleptic Gregorian calendar, from seconds since the start of the
year 1970. -/

namespace BuildBench.Time

/-- A point in time, and how far local time runs ahead of universal time there. -/
structure Moment where
  /-- Nanoseconds since the start of 1970 in universal time. -/
  unixNanoseconds : Int
  /-- Seconds that local time is ahead. -/
  offset : Int
  deriving DecidableEq, Repr

structure Civil where
  year : Int
  month : Nat
  day : Nat
  hour : Nat
  minute : Nat
  second : Nat
  deriving DecidableEq, Repr

namespace Civil

/-- Years of a span of 400 years are counted from the first of March, so that a leap day is the
last day of its year. This is the year in which a day of the span lies. -/
def yearOfEra (day : Nat) : Nat :=
  (day - day / 1460 + day / 36524 - day / 146096) / 365

/-- The date of a day that is counted from the start of 1970. -/
def ofDays (days : Int) : Int × Nat × Nat :=
  let shifted := days + 719468
  let era := shifted.fdiv 146097
  let day := (shifted.fmod 146097).toNat
  let year := yearOfEra day
  let dayOfYear := day - (365 * year + year / 4 - year / 100)
  let shiftedMonth := (5 * dayOfYear + 2) / 153
  let month := if shiftedMonth < 10 then shiftedMonth + 3 else shiftedMonth - 9
  let civilYear : Int := year + era * 400
  (if month ≤ 2 then civilYear + 1 else civilYear, month,
    dayOfYear - (153 * shiftedMonth + 2) / 5 + 1)

def ofMoment (moment : Moment) : Civil :=
  let seconds := moment.unixNanoseconds.fdiv 1000000000 + moment.offset
  let (year, month, day) := ofDays (seconds.fdiv 86400)
  let ofDay := (seconds.fmod 86400).toNat
  { year, month, day, hour := ofDay / 3600, minute := ofDay / 60 % 60, second := ofDay % 60 }

/-- A number in decimal with zeros in front up to a width. -/
def padded (width value : Nat) : String :=
  let digits := Nat.toDigits 10 value
  String.ofList (List.replicate (width - digits.length) '0' ++ digits)

/-- Year, month, day, hour, minute and second with hyphens between them. A year has four digits at
least, and a minus in front if it lies before the year zero. -/
def stamp (civil : Civil) : String :=
  let year := (if civil.year < 0 then "-" else "") ++ padded 4 civil.year.natAbs
  String.intercalate "-"
    (year :: [civil.month, civil.day, civil.hour, civil.minute, civil.second].map (padded 2))

end Civil

/-- How long it takes from a moment to another one. A later moment is not before it. -/
def Moment.until (before after : Moment) : Duration where
  nanoseconds := (after.unixNanoseconds - before.unixNanoseconds).toNat

/-- Whole thousandths of a second since the start of 1970, cut off towards it. -/
def Moment.unixMilliseconds (moment : Moment) : Int :=
  moment.unixNanoseconds.tdiv 1000000

end BuildBench.Time
