/-! # The civil calendar

Dates of the proleptic Gregorian calendar and the number of days from 1970-01-01.

* `isLeap`, `monthLengths`, `Date.Exists` — which dates there are;
* `Date.dayNumber` — days since 1970-01-01, summed from whole years, whole months and days;
* `Date.ofDayNumber` — the date so many days after 1970-01-01, found by splitting off whole
  cycles of 400, 100, 4 and 1 years and then whole months.
-/

namespace TimeServer.Time

def isLeap (year : Int) : Bool := year % 4 == 0 && (year % 100 != 0 || year % 400 == 0)

def monthLengths (leap : Bool) : List Nat :=
  [31, if leap then 29 else 28, 31, 30, 31, 30, 31, 31, 30, 31, 30, 31]

/-- A calendar date by its three numbers, which need not name an existing day. -/
structure Date where
  year : Int
  month : Nat
  day : Nat
  deriving DecidableEq, Repr

namespace Date

def months (d : Date) : List Nat := monthLengths (isLeap d.year)

def Exists (d : Date) : Prop :=
  1 ≤ d.month ∧ d.month ≤ 12 ∧ 1 ≤ d.day ∧ d.day ≤ d.months.getD (d.month - 1) 0

instance (d : Date) : Decidable d.Exists := by unfold Exists; infer_instance

def daysBeforeYear (year : Int) : Int :=
  365 * (year - 1) + (year - 1) / 4 - (year - 1) / 100 + (year - 1) / 400

/-- The first day of 1970, counted from the first day of year 1. -/
def epochDay : Int := 719162

def dayNumber (d : Date) : Int :=
  daysBeforeYear d.year - epochDay + ((d.months.take (d.month - 1)).foldr (· + ·) 0 : Nat) + d.day - 1

/-- Finds month and day, both counted from one, of the day that many days after the first of a
    run of months with the given lengths. -/
def monthAndDay : List Nat → Nat → Nat × Nat
  | [], n => (1, n + 1)
  | l :: ls, n =>
    if n < l then (1, n + 1)
    else
      let (month, day) := monthAndDay ls (n - l)
      (month + 1, day)

def yearAndDay (n : Nat) : Nat × Nat :=
  let cycles := n / 146097
  let n := n % 146097
  let centuries := min (n / 36524) 3
  let n := n - centuries * 36524
  let olympiads := n / 1461
  let n := n % 1461
  let years := min (n / 365) 3
  (400 * cycles + 100 * centuries + 4 * olympiads + years + 1, n - years * 365)

def ofDaysElapsed (n : Nat) : Date :=
  let (year, rest) := yearAndDay n
  let (month, day) := monthAndDay (monthLengths (isLeap year)) rest
  ⟨year, month, day⟩

def ofDayNumber (n : Nat) : Date := ofDaysElapsed (n + epochDay.toNat)

end Date

structure TimeOfDay where
  hour : Nat
  minute : Nat
  second : Nat
  deriving DecidableEq, Repr

namespace TimeOfDay

def seconds (t : TimeOfDay) : Nat := t.hour * 3600 + t.minute * 60 + t.second

def ofSeconds (n : Nat) : TimeOfDay := ⟨n / 3600, n / 60 % 60, n % 60⟩

@[simp] theorem seconds_ofSeconds (n : Nat) : (ofSeconds n).seconds = n := by
  simp only [seconds, ofSeconds]; omega

end TimeOfDay

structure Instant where
  date : Date
  time : TimeOfDay
  deriving DecidableEq, Repr

namespace Instant

def unixSeconds (i : Instant) : Int := i.date.dayNumber * 86400 + i.time.seconds

def ofUnixSeconds (n : Nat) : Instant :=
  ⟨Date.ofDayNumber (n / 86400), TimeOfDay.ofSeconds (n % 86400)⟩

/-- The last year that instants are told apart in. -/
def lastYear : Int := 262142

def ofUnixSeconds? (n : Nat) : Option Instant :=
  if (ofUnixSeconds n).date.year ≤ lastYear then some (ofUnixSeconds n) else none

end Instant

end TimeServer.Time
