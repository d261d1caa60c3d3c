import TimeServer.Time.Calendar
import Mathlib.Algebra.BigOperators.Group.List.Basic
import Mathlib.Algebra.GroupWithZero.Nat
import Mathlib.Logic.Function.Iterate

/-! # Counting days

The number of a date counts the days from 1970-01-01, and every number from there on is that of one
date.

* `Date.next` — the day after;
* `dayNumber_next` — it has the next number, through months, leap years and centuries;
* `dayNumber_lt`, `dayNumber_inj` — later dates have larger numbers;
* `ofDayNumber_spec` — the date of a number exists and has that number;
* `ofDayNumber_eq_iterate` — it is reached day by day.
-/

namespace TimeServer.Time

/-! ## Years -/

/-- The number of days of a year. -/
def yearLength (year : Int) : Int := if isLeap year then 366 else 365

theorem isLeap_iff (year : Int) :
    isLeap year ↔ year % 4 = 0 ∧ (year % 100 ≠ 0 ∨ year % 400 = 0) := by
  simp [isLeap]

theorem sum_monthLengths (year : Int) :
    ((monthLengths (isLeap year)).sum : Int) = yearLength year := by
  unfold yearLength
  cases isLeap year <;> rfl

namespace Date

theorem daysBeforeYear_succ (year : Int) :
    daysBeforeYear (year + 1) = daysBeforeYear year + yearLength year := by
  unfold daysBeforeYear yearLength
  split
  · rename_i leap
    rw [isLeap_iff] at leap
    omega
  · rename_i common
    rw [isLeap_iff] at common
    omega

theorem daysBeforeYear_mono {year year' : Int} (before : year ≤ year') :
    daysBeforeYear year ≤ daysBeforeYear year' := by
  unfold daysBeforeYear
  omega

/-! ## Months -/

theorem sum_take_mono (lengths : List Nat) {month month' : Nat} (before : month ≤ month') :
    (lengths.take month).sum ≤ (lengths.take month').sum := by
  have front : lengths.take month = (lengths.take month').take month := by
    rw [List.take_take, Nat.min_eq_left before]
  rw [front, ← List.sum_take_add_sum_drop (lengths.take month') month]
  exact Nat.le_add_right _ _

theorem months_pos (d : Date) : ∀ month < 12, 1 ≤ d.months.getD month 0 := by
  unfold months
  cases isLeap d.year <;> decide

/-- The first day of a month, counted from the first of the year, is as far behind that of the month
    before as that month is long. -/
theorem sum_take_month (d : Date) {month : Nat} (first : 1 ≤ month) (last : month ≤ 12) :
    (d.months.take month).sum = (d.months.take (month - 1)).sum + d.months.getD (month - 1) 0 := by
  obtain ⟨month, rfl⟩ : ∃ earlier, month = earlier + 1 := ⟨month - 1, by omega⟩
  have inside : month < d.months.length := last
  rw [List.sum_take_succ _ _ inside, Nat.add_sub_cancel, List.getD_eq_getElem?_getD,
    List.getElem?_eq_getElem inside, Option.getD_some]

/-- The days from the first of the year to the date. -/
def dayOfYear (d : Date) : Int := (d.months.take (d.month - 1)).sum + d.day - 1

theorem dayNumber_eq (d : Date) : d.dayNumber = daysBeforeYear d.year - epochDay + d.dayOfYear := by
  simp only [dayNumber, dayOfYear, List.sum]
  omega

/-- The date is one of the days from the first of its month to the first of the next. -/
theorem dayOfYear_bounds {d : Date} (real : d.Exists) :
    ((d.months.take (d.month - 1)).sum : Int) ≤ d.dayOfYear ∧
      d.dayOfYear < (d.months.take d.month).sum := by
  obtain ⟨first, last, begun, ended⟩ := real
  rw [sum_take_month d first last]
  unfold dayOfYear
  omega

theorem dayOfYear_lt {d : Date} (real : d.Exists) :
    0 ≤ d.dayOfYear ∧ d.dayOfYear < yearLength d.year := by
  obtain ⟨begun, ended⟩ := dayOfYear_bounds real
  have within : (d.months.take d.month).sum ≤ d.months.sum := by
    rw [← List.sum_take_add_sum_drop d.months d.month]
    exact Nat.le_add_right _ _
  have whole : (d.months.sum : Int) = yearLength d.year := sum_monthLengths d.year
  omega

/-- The date is one of the days from the first of its year to the first of the next. -/
theorem dayNumber_bounds {d : Date} (real : d.Exists) :
    daysBeforeYear d.year - epochDay ≤ d.dayNumber ∧
      d.dayNumber < daysBeforeYear (d.year + 1) - epochDay := by
  obtain ⟨begun, ended⟩ := dayOfYear_lt real
  rw [dayNumber_eq, daysBeforeYear_succ]
  omega

/-! ## The day after -/

/-- The day after. -/
def next (d : Date) : Date :=
  if d.day < d.months.getD (d.month - 1) 0 then { d with day := d.day + 1 }
  else if d.month < 12 then ⟨d.year, d.month + 1, 1⟩
  else ⟨d.year + 1, 1, 1⟩

theorem exists_next {d : Date} (real : d.Exists) : d.next.Exists := by
  obtain ⟨first, last, begun, ended⟩ := real
  unfold next
  split
  · rename_i inside
    exact ⟨first, last, Nat.succ_pos _, inside⟩
  · split
    · rename_i inside
      exact ⟨Nat.succ_pos _, inside, Nat.le_refl 1, months_pos d d.month inside⟩
    · exact ⟨Nat.le_refl 1, Nat.succ_pos _, Nat.le_refl 1,
        months_pos ⟨d.year + 1, 1, 1⟩ 0 (Nat.succ_pos _)⟩

theorem dayOfYear_first (year : Int) (month : Nat) :
    dayOfYear ⟨year, month + 1, 1⟩ = ((monthLengths (isLeap year)).take month).sum := by
  simp [dayOfYear, months]

theorem dayNumber_next {d : Date} (real : d.Exists) : d.next.dayNumber = d.dayNumber + 1 := by
  obtain ⟨first, last, begun, ended⟩ := real
  rw [dayNumber_eq, dayNumber_eq]
  unfold next
  split
  · have same : dayOfYear { d with day := d.day + 1 } = d.dayOfYear + 1 := by
      simp only [dayOfYear, months]
      omega
    rw [same, Int.add_assoc]
  · rename_i last_day
    have month_over : d.dayOfYear + 1 = (d.months.take d.month).sum := by
      rw [sum_take_month d first last, dayOfYear]
      omega
    split
    · have begun_month : dayOfYear ⟨d.year, d.month + 1, 1⟩ = d.dayOfYear + 1 := by
        rw [dayOfYear_first, month_over, months]
      rw [begun_month, Int.add_assoc]
    · rename_i december
      -- The whole year is over.
      have year_over : ((d.months.take d.month).sum : Int) = yearLength d.year := by
        rw [Nat.le_antisymm last (Nat.le_of_not_lt december)]
        exact sum_monthLengths d.year
      simp only [dayOfYear_first, daysBeforeYear_succ, List.take_zero, List.sum_nil]
      omega

/-! ## Order -/

/-- The date comes before the other. -/
def Before (d d' : Date) : Prop :=
  d.year < d'.year ∨ d.year = d'.year ∧
    (d.month < d'.month ∨ d.month = d'.month ∧ d.day < d'.day)

variable {d d' : Date}

theorem before_or (d d' : Date) : d.Before d' ∨ d = d' ∨ d'.Before d := by
  obtain ⟨year, month, day⟩ := d
  obtain ⟨year', month', day'⟩ := d'
  simp only [Before, mk.injEq]
  omega

theorem dayNumber_lt (real : d.Exists) (real' : d'.Exists) (before : d.Before d') :
    d.dayNumber < d'.dayNumber := by
  rw [dayNumber_eq, dayNumber_eq]
  obtain earlier | ⟨same_year, earlier | ⟨same_month, earlier⟩⟩ := before
  · have whole := daysBeforeYear_mono (Int.add_one_le_of_lt earlier)
    rw [daysBeforeYear_succ] at whole
    obtain ⟨_, ended⟩ := dayOfYear_lt real
    obtain ⟨begun, _⟩ := dayOfYear_lt real'
    omega
  · have same_months : d.months = d'.months := by rw [months, months, same_year]
    obtain ⟨_, ended⟩ := dayOfYear_bounds real
    obtain ⟨begun, _⟩ := dayOfYear_bounds real'
    have whole := sum_take_mono d.months (Nat.le_sub_one_of_lt earlier)
    rw [← same_months] at begun
    rw [same_year]
    omega
  · have same_months : d.months = d'.months := by rw [months, months, same_year]
    simp only [dayOfYear, same_year, same_month, same_months]
    omega

theorem dayNumber_inj (real : d.Exists) (real' : d'.Exists) :
    d.dayNumber = d'.dayNumber ↔ d = d' := by
  refine ⟨fun same => ?_, congrArg _⟩
  obtain before | equal | after := before_or d d'
  · exact absurd same (Int.ne_of_lt (dayNumber_lt real real' before))
  · exact equal
  · exact absurd same.symm (Int.ne_of_lt (dayNumber_lt real' real after))

/-! ## The date of a number -/

section Cycles

variable {cycles centuries olympiads years : Nat} (few_centuries : centuries ≤ 3)
  (few_olympiads : olympiads ≤ 24) (few_years : years ≤ 3)

include few_centuries few_olympiads few_years

theorem daysBeforeYear_cycles :
    daysBeforeYear (400 * cycles + 100 * centuries + 4 * olympiads + years + 1 : Nat) =
      (146097 * cycles + 36524 * centuries + 1461 * olympiads + 365 * years : Nat) := by
  unfold daysBeforeYear
  omega

/-- The last year of an olympiad is a leap year, unless it closes a century that does not close a
    cycle. -/
theorem isLeap_cycles :
    isLeap (400 * cycles + 100 * centuries + 4 * olympiads + years + 1 : Nat) ↔
      years = 3 ∧ (olympiads = 24 → centuries = 3) := by
  rw [isLeap_iff]
  omega

end Cycles

/-- The year of a day, counted from the first of year 1, begins with the day or before it and is not
    over. -/
theorem yearAndDay_spec (n : Nat) :
    daysBeforeYear (yearAndDay n).1 + (yearAndDay n).2 = n ∧
      ((yearAndDay n).2 : Int) < yearLength (yearAndDay n).1 := by
  simp only [yearAndDay]
  generalize cycles_eq : n / 146097 = cycles
  generalize in_cycle : n % 146097 = rest
  generalize centuries_eq : min (rest / 36524) 3 = centuries
  generalize in_century : rest - centuries * 36524 = rest'
  generalize olympiads_eq : rest' / 1461 = olympiads
  generalize in_olympiad : rest' % 1461 = rest''
  generalize years_eq : min (rest'' / 365) 3 = years
  -- The cut at 3 keeps the last day of a cycle or an olympiad from opening a fifth part of it.
  have few_centuries : centuries ≤ 3 := by omega
  have few_olympiads : olympiads ≤ 24 := by omega
  have few_years : years ≤ 3 := by omega
  rw [daysBeforeYear_cycles few_centuries few_olympiads few_years]
  constructor
  · omega
  · unfold yearLength
    split
    · omega
    · rename_i common
      rw [isLeap_cycles few_centuries few_olympiads few_years] at common
      omega

theorem monthAndDay_spec {lengths : List Nat} {n : Nat} (inside : n < lengths.sum) :
    1 ≤ (monthAndDay lengths n).1 ∧ (monthAndDay lengths n).1 ≤ lengths.length ∧
      1 ≤ (monthAndDay lengths n).2 ∧
      (monthAndDay lengths n).2 ≤ lengths.getD ((monthAndDay lengths n).1 - 1) 0 ∧
      (lengths.take ((monthAndDay lengths n).1 - 1)).sum + (monthAndDay lengths n).2 = n + 1 := by
  induction lengths generalizing n with
  | nil => cases inside
  | cons length lengths ih =>
    simp only [monthAndDay]
    split
    · rename_i this_month
      simp
      omega
    · rename_i later
      rw [List.sum_cons] at inside
      obtain ⟨first, last, begun, ended, whole⟩ := ih (n := n - length) (by omega)
      obtain ⟨month, eq⟩ : ∃ month, (monthAndDay lengths (n - length)).1 = month + 1 :=
        ⟨_, (Nat.sub_add_cancel first).symm⟩
      simp only [eq, Nat.add_sub_cancel, List.take_succ_cons, List.sum_cons] at last ended whole ⊢
      refine ⟨by omega, by simpa using last, begun, by simpa using ended, by omega⟩

theorem ofDaysElapsed_spec (n : Nat) :
    (ofDaysElapsed n).Exists ∧ (ofDaysElapsed n).dayNumber + epochDay = n := by
  obtain ⟨whole, within⟩ := yearAndDay_spec n
  unfold ofDaysElapsed
  generalize yearAndDay n = found at whole within
  obtain ⟨year, rest⟩ := found
  have inside : rest < (monthLengths (isLeap year)).sum := by
    rw [← sum_monthLengths] at within
    exact Int.ofNat_lt.1 within
  obtain ⟨first, last, begun, ended, number⟩ := monthAndDay_spec inside
  refine ⟨⟨first, last, begun, ended⟩, ?_⟩
  simp only [dayNumber_eq, dayOfYear, months] at whole ⊢
  omega

theorem ofDayNumber_spec (n : Nat) : (ofDayNumber n).Exists ∧ (ofDayNumber n).dayNumber = n := by
  obtain ⟨real, number⟩ := ofDaysElapsed_spec (n + epochDay.toNat)
  have epoch : (epochDay.toNat : Int) = epochDay := Int.toNat_of_nonneg (by decide)
  rw [Int.natCast_add, epoch] at number
  exact ⟨real, (Int.add_left_inj epochDay).1 number⟩

/-- The first day of all. -/
def epoch : Date := ⟨1970, 1, 1⟩

theorem dayNumber_epoch : epoch.dayNumber = 0 := by
  simp [dayNumber_eq, dayOfYear, daysBeforeYear, epochDay, epoch]

theorem iterate_next_spec (n : Nat) :
    (next^[n] epoch).Exists ∧ (next^[n] epoch).dayNumber = n := by
  induction n with
  | zero => exact ⟨by decide, dayNumber_epoch⟩
  | succ n ih =>
    obtain ⟨real, number⟩ := ih
    rw [Function.iterate_succ_apply']
    refine ⟨exists_next real, ?_⟩
    rw [dayNumber_next real, number]
    rfl

/-- The date of a number is the one that is reached by going on so many days from the first. -/
theorem ofDayNumber_eq_iterate (n : Nat) : ofDayNumber n = next^[n] epoch := by
  obtain ⟨real, number⟩ := ofDayNumber_spec n
  obtain ⟨real', number'⟩ := iterate_next_spec n
  exact (dayNumber_inj real real').1 (number.trans number'.symm)

end Date

end TimeServer.Time
