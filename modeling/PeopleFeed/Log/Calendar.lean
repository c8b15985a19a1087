/-! Dates and times of seconds counted from the beginning of 1970, as the Gregorian calendar has
them and without a time zone. -/
namespace PeopleFeed.Log

/-- A date and a time of day. -/
structure Moment where
  year : Int
  month : Nat
  day : Nat
  hour : Nat
  minute : Nat
  second : Nat
  deriving DecidableEq, Repr

/-- The days of an era of four hundred years. -/
def daysOfEra : Nat := 146097

/-- The year of an era, counted from March, that a day of the era lies in. -/
def yearOfEra (day : Nat) : Nat :=
  (day - day / 1460 + day / 36524 - day / 146096) / 365

/-- The moment of some seconds. -/
def Moment.ofSeconds (seconds : Int) : Moment :=
  let days := seconds.fdiv 86400 + 719468
  let rest := (seconds.fmod 86400).toNat
  let era := days.fdiv daysOfEra
  let dayOfEra := (days.fmod daysOfEra).toNat
  let yearOfEra := yearOfEra dayOfEra
  let dayOfYear := dayOfEra - (365 * yearOfEra + yearOfEra / 4 - yearOfEra / 100)
  let monthFromMarch := (5 * dayOfYear + 2) / 153
  let month := if monthFromMarch < 10 then monthFromMarch + 3 else monthFromMarch - 9
  { year := yearOfEra + era * 400 + (if month ≤ 2 then 1 else 0)
    month
    day := dayOfYear - (153 * monthFromMarch + 2) / 5 + 1
    hour := rest / 3600
    minute := rest / 60 % 60
    second := rest % 60 }

/-- A number with at least two digits. -/
def twoDigits (n : Nat) : String :=
  if n < 10 then "0" ++ toString n else toString n

/-- The digits of a date. -/
def Moment.dateDigits (m : Moment) : String :=
  toString m.year ++ twoDigits m.month ++ twoDigits m.day

/-- A moment as it stands before a line. -/
def Moment.text (m : Moment) : String :=
  toString m.year ++ "-" ++ twoDigits m.month ++ "-" ++ twoDigits m.day ++ " " ++
    twoDigits m.hour ++ ":" ++ twoDigits m.minute ++ ":" ++ twoDigits m.second

-- The last second of a leap day.
example : Moment.ofSeconds 951868799 = ⟨2000, 2, 29, 23, 59, 59⟩ := by decide +kernel

end PeopleFeed.Log
