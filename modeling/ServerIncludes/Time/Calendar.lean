/-!
Points in time and their dates in the Gregorian calendar, which is taken to hold for all years. Day
zero is the first of January 1970, a Thursday.
-/

namespace ServerIncludes

/-- A point in time: seconds since the start of 1970 in universal time, and nanoseconds since then.
A leap second is a second with more than a thousand million nanoseconds. -/
structure Instant where
  seconds : Int
  nanoseconds : Nat
  deriving DecidableEq, Repr, Inhabited

/-- A date; months and days of the month count from one. -/
structure Date where
  year : Int
  month : Nat
  day : Nat
  deriving DecidableEq, Repr

namespace Date

/-- The date of a day. Years are counted from March, so that the leap day is the last of one, and
in cycles of 400 years, which have 146097 days. -/
def ofDay (day : Int) : Date :=
  let shifted := day + 719468
  let cycle := shifted / 146097
  let dayOfCycle := (shifted % 146097).toNat
  let yearOfCycle :=
    (dayOfCycle - dayOfCycle / 1460 + dayOfCycle / 36524 - dayOfCycle / 146096) / 365
  let dayOfYear := dayOfCycle - (365 * yearOfCycle + yearOfCycle / 4 - yearOfCycle / 100)
  let monthFromMarch := (5 * dayOfYear + 2) / 153
  let day := dayOfYear - (153 * monthFromMarch + 2) / 5 + 1
  let month := if monthFromMarch < 10 then monthFromMarch + 3 else monthFromMarch - 9
  ⟨cycle * 400 + yearOfCycle + (if month ≤ 2 then 1 else 0), month, day⟩

def isLeapYear (year : Int) : Bool :=
  year % 4 == 0 && (year % 100 != 0 || year % 400 == 0)

/-- The days of a common year before each month. -/
def daysBeforeMonth : List Nat := [0, 31, 59, 90, 120, 151, 181, 212, 243, 273, 304, 334]

/-- The number of a date in its year, counted from one. -/
def ordinal (date : Date) : Nat :=
  daysBeforeMonth.getD (date.month - 1) 0 + date.day +
    (if 2 < date.month && isLeapYear date.year then 1 else 0)

end Date

namespace Instant

/-- The day that an instant falls on. -/
def dayNumber (instant : Instant) : Int := instant.seconds / 86400

def date (instant : Instant) : Date := Date.ofDay instant.dayNumber

def secondOfDay (instant : Instant) : Nat := (instant.seconds % 86400).toNat

def hour (instant : Instant) : Nat := instant.secondOfDay / 3600

def minute (instant : Instant) : Nat := instant.secondOfDay / 60 % 60

/-- The second of the minute, 60 for a leap second. -/
def second (instant : Instant) : Nat :=
  instant.secondOfDay % 60 + instant.nanoseconds / 1000000000

/-- The nanosecond of the second. -/
def fraction (instant : Instant) : Nat := instant.nanoseconds % 1000000000

/-- The hour on a dial of twelve. -/
def hour12 (instant : Instant) : Nat := (instant.hour + 11) % 12 + 1

/-- The number of days since the last Monday. -/
def daysSinceMonday (instant : Instant) : Nat := ((instant.dayNumber + 3) % 7).toNat

def daysSinceSunday (instant : Instant) : Nat := ((instant.dayNumber + 4) % 7).toNat

/-- The number of the week in the year, when weeks start on a given day: `since` is the number of
days since the last such day. Days before the first such day are in week zero. -/
def weekOfYear (instant : Instant) (since : Nat) : Nat := (instant.date.ordinal + 6 - since) / 7

/-- The Thursday of the week, which decides on the year that the week belongs to. -/
def thursday (instant : Instant) : Date :=
  Date.ofDay (instant.dayNumber + 3 - instant.daysSinceMonday)

/-- The year that the week belongs to. -/
def weekYear (instant : Instant) : Int := instant.thursday.year

/-- The number of the week in the year it belongs to. -/
def week (instant : Instant) : Nat := (instant.thursday.ordinal - 1) / 7 + 1

end Instant

end ServerIncludes
