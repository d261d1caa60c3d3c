import TimeServer.Proofs.Time.RoundTrip
import TimeServer.Log.Record
import TimeServer.Packet.Text
import Mathlib.Data.List.Forall2
import Mathlib.Data.String.Basic

/-! # The order of written times

Written times sort like the times themselves, because every number in them is filled up to a fixed
width and larger units stand in front.

* `Decimal.lt_iff_value_lt`, `Decimal.padded_append_lt` — runs of equally many digits sort like
  their numbers, and what follows them decides between equal numbers;
* `Date.text_append_lt`, `TimeOfDay.text_append_lt`, `Instant.text_append_lt` — so dates, times of
  day and instants sort as texts;
* `Fits` — the shape of a text, and `fits_format`;
* `Log.Record.line_lt` — the lines of the log sort by the microsecond;
* `format_sorts` — written timestamps, and all lines that tell them.
-/

namespace TimeServer.Text

/-- Of two texts whose fronts are equally long, the fronts decide, and the rests where the fronts
    agree. -/
theorem append_lt_append_iff {front front' : List Char} (level : front.length = front'.length)
    (rest rest' : List Char) :
    front ++ rest < front' ++ rest' ↔ front < front' ∨ front = front' ∧ rest < rest' := by
  -- Both fronts are taken apart together.
  induction front generalizing front' with
  | nil =>
    obtain rfl := List.length_eq_zero_iff.1 level.symm
    simp
  | cons c front ih =>
    obtain ⟨c', front', rfl⟩ := List.exists_cons_of_length_eq_add_one level.symm
    rw [List.cons_append, List.cons_append, List.cons_lt_cons_iff, List.cons_lt_cons_iff,
      ih (Nat.succ.inj level), List.cons.injEq]
    tauto

namespace Decimal

theorem value_cons (c : Char) (ds : List Char) :
    value (c :: ds) = 10 ^ ds.length * (c.toNat - '0'.toNat) + value ds := by
  rw [value, Nat.ofDigitChars_cons, Nat.ofDigitChars_eq_ofDigitChars_zero, Nat.mul_zero,
    Nat.zero_add, value]

theorem digit_bounds {c : Char} (digit : c.isDigit) : '0'.toNat ≤ c.toNat ∧ c.toNat < 58 := by
  simp only [Char.isDigit, Bool.and_eq_true, decide_eq_true_eq, UInt32.le_iff_toNat_le] at digit
  exact ⟨digit.1, Nat.lt_succ_of_le digit.2⟩

theorem value_lt {ds : List Char} (decimal : ∀ c ∈ ds, c.isDigit) : value ds < 10 ^ ds.length := by
  induction ds with
  | nil => decide
  | cons c ds ih =>
    obtain ⟨digit, decimal⟩ := List.forall_mem_cons.1 decimal
    obtain ⟨_, last⟩ := digit_bounds digit
    have within := ih decimal
    have top : 10 ^ ds.length * (c.toNat - '0'.toNat) ≤ 10 ^ ds.length * 9 :=
      Nat.mul_le_mul_left _ (Nat.sub_le_of_le_add (Nat.le_of_lt_succ last))
    rw [value_cons, List.length_cons, Nat.pow_succ]
    omega

theorem mul_add_lt_iff {base high low high' low' : Nat} (small : low < base)
    (small' : low' < base) :
    base * high + low < base * high' + low' ↔ high < high' ∨ high = high' ∧ low < low' := by
  have carried {high high' : Nat} (less : high < high') : base * high + base ≤ base * high' := by
    rw [← Nat.mul_succ]
    exact Nat.mul_le_mul_left base less
  obtain less | rfl | more := Nat.lt_trichotomy high high'
  · have := carried less
    omega
  · omega
  · have := carried more
    omega

theorem lt_iff_value_lt {ds ds' : List Char} (level : ds.length = ds'.length)
    (decimal : ∀ c ∈ ds, c.isDigit) (decimal' : ∀ c ∈ ds', c.isDigit) :
    ds < ds' ↔ value ds < value ds' := by
  induction ds generalizing ds' with
  | nil =>
    obtain rfl := List.length_eq_zero_iff.1 level.symm
    simp
  | cons c ds ih =>
    obtain ⟨c', ds', rfl⟩ := List.exists_cons_of_length_eq_add_one level.symm
    have level : ds.length = ds'.length := Nat.succ.inj level
    obtain ⟨digit, decimal⟩ := List.forall_mem_cons.1 decimal
    obtain ⟨digit', decimal'⟩ := List.forall_mem_cons.1 decimal'
    obtain ⟨first, _⟩ := digit_bounds digit
    obtain ⟨first', _⟩ := digit_bounds digit'
    have less : c < c' ↔ c.toNat - '0'.toNat < c'.toNat - '0'.toNat := by
      rw [Char.lt_def, UInt32.lt_iff_toNat_lt]
      exact (Nat.sub_lt_sub_iff_right first).symm
    have equal : c = c' ↔ c.toNat - '0'.toNat = c'.toNat - '0'.toNat := by
      rw [← Char.toNat_inj]
      omega
    -- The first digits decide unless they are the same, in the texts and in the numbers.
    have within : value ds < 10 ^ ds'.length := level ▸ value_lt decimal
    rw [List.cons_lt_cons_iff, value_cons, value_cons, level,
      mul_add_lt_iff within (value_lt decimal'), ih level decimal decimal', less, equal]

theorem eq_iff_value_eq {ds ds' : List Char} (level : ds.length = ds'.length)
    (decimal : ∀ c ∈ ds, c.isDigit) (decimal' : ∀ c ∈ ds', c.isDigit) :
    ds = ds' ↔ value ds = value ds' := by
  refine ⟨congrArg _, fun same => ?_⟩
  obtain less | equal | more := lt_trichotomy ds ds'
  · rw [lt_iff_value_lt level decimal decimal', same] at less
    exact absurd less (Nat.lt_irrefl _)
  · exact equal
  · rw [lt_iff_value_lt level.symm decimal' decimal, same] at more
    exact absurd more (Nat.lt_irrefl _)

theorem append_lt {ds ds' : List Char} (level : ds.length = ds'.length)
    (decimal : ∀ c ∈ ds, c.isDigit) (decimal' : ∀ c ∈ ds', c.isDigit) (rest rest' : List Char) :
    ds ++ rest < ds' ++ rest' ↔ value ds < value ds' ∨ value ds = value ds' ∧ rest < rest' := by
  rw [append_lt_append_iff level, lt_iff_value_lt level decimal decimal',
    eq_iff_value_eq level decimal decimal']

/-- Texts that begin with a number of a fixed width sort by that number first. -/
theorem padded_append_lt {width m n : Nat} (positive : 0 < width) (few : m < 10 ^ width)
    (few' : n < 10 ^ width) (rest rest' : List Char) :
    padded width m ++ rest < padded width n ++ rest' ↔ m < n ∨ m = n ∧ rest < rest' := by
  have level : (padded width m).length = (padded width n).length := by
    rw [Time.length_padded_of_lt positive few, Time.length_padded_of_lt positive few']
  rw [append_lt level (fun _ => isDigit_of_mem_padded) (fun _ => isDigit_of_mem_padded),
    value_padded, value_padded]

end Decimal

end TimeServer.Text

namespace TimeServer.Time

open TimeServer.Text

/-! ## Dates and times of day -/

namespace Date

variable {d d' : Date}

theorem before_iff (real : d.Exists) (real' : d'.Exists) :
    d.Before d' ↔ d.dayNumber < d'.dayNumber := by
  refine ⟨dayNumber_lt real real', fun earlier => ?_⟩
  obtain before | rfl | after := before_or d d'
  · exact before
  · exact absurd earlier (Int.lt_irrefl _)
  · exact absurd earlier (Int.lt_asymm (dayNumber_lt real' real after))

theorem text_append (d : Date) (rest : List Char) :
    d.text ++ rest = Decimal.padded 4 d.year.toNat ++ '-' ::
      (Decimal.padded 2 d.month ++ '-' :: (Decimal.padded 2 d.day ++ rest)) := by
  simp [text]

theorem text_append_lt (real : d.Exists) (real' : d'.Exists)
    (years : 0 ≤ d.year ∧ d.year < 10000) (years' : 0 ≤ d'.year ∧ d'.year < 10000)
    (rest rest' : List Char) :
    d.text ++ rest < d'.text ++ rest' ↔
      d.dayNumber < d'.dayNumber ∨ d.dayNumber = d'.dayNumber ∧ rest < rest' := by
  have few_days := day_le real
  have few_days' := day_le real'
  have few_months := real.2.1
  have few_months' := real'.2.1
  have same_year : d.year.toNat = d'.year.toNat ↔ d.year = d'.year := by omega
  have earlier_year : d.year.toNat < d'.year.toNat ↔ d.year < d'.year := by omega
  rw [text_append, text_append, ← before_iff real real', dayNumber_inj real real',
    Decimal.padded_append_lt (by decide) (by omega) (by omega), List.cons_lt_cons_self,
    Decimal.padded_append_lt (by decide) (by omega) (by omega), List.cons_lt_cons_self,
    Decimal.padded_append_lt (by decide) (by omega) (by omega), same_year, earlier_year]
  -- Year, month and day decide in turn on both sides.
  obtain ⟨year, month, day⟩ := d
  obtain ⟨year', month', day'⟩ := d'
  simp only [Before, mk.injEq]
  tauto

end Date

namespace TimeOfDay

/-- The clock shows this time outside a leap second. -/
structure Plain (t : TimeOfDay) : Prop where
  hours : t.hour < 24
  minutes : t.minute < 60
  seconds : t.second < 60

theorem plain_ofSeconds {n : Nat} (today : n < 86400) : (ofSeconds n).Plain := by
  constructor <;> simp only [ofSeconds] <;> omega

theorem seconds_lt {t : TimeOfDay} (plain : t.Plain) : t.seconds < 86400 := by
  obtain ⟨hours, minutes, seconds⟩ := plain
  unfold TimeOfDay.seconds
  omega

theorem text_append (t : TimeOfDay) (rest : List Char) :
    t.text ++ rest = Decimal.padded 2 t.hour ++ ':' ::
      (Decimal.padded 2 t.minute ++ ':' :: (Decimal.padded 2 t.second ++ rest)) := by
  simp [text]

theorem text_append_lt {t t' : TimeOfDay} (plain : t.Plain) (plain' : t'.Plain)
    (rest rest' : List Char) :
    t.text ++ rest < t'.text ++ rest' ↔
      t.seconds < t'.seconds ∨ t.seconds = t'.seconds ∧ rest < rest' := by
  obtain ⟨hours, minutes, seconds⟩ := plain
  obtain ⟨hours', minutes', seconds'⟩ := plain'
  rw [text_append, text_append,
    Decimal.padded_append_lt (by decide) (by omega) (by omega), List.cons_lt_cons_self,
    Decimal.padded_append_lt (by decide) (by omega) (by omega), List.cons_lt_cons_self,
    Decimal.padded_append_lt (by decide) (by omega) (by omega)]
  unfold TimeOfDay.seconds
  -- What is left is arithmetic, once it is known how the rests compare.
  by_cases decided : rest < rest'
  · simp only [decided, and_true]
    omega
  · simp only [decided, and_false, or_false]
    omega

end TimeOfDay

namespace Instant

/-- The instant has a four-digit year, a day that exists and a time outside a leap second. -/
structure Plain (i : Instant) : Prop where
  years : 0 ≤ i.date.year ∧ i.date.year < 10000
  real : i.date.Exists
  time : i.time.Plain

theorem plain_ofUnixSeconds (t : UInt32) : (ofUnixSeconds t.toNat).Plain := by
  obtain ⟨first, last⟩ := year_ofUnixSeconds t
  exact ⟨⟨by omega, by omega⟩, exists_ofUnixSeconds _,
    TimeOfDay.plain_ofSeconds (Nat.mod_lt _ (by decide))⟩

theorem plain_of_lt {n : Nat} (small : n < UInt32.size) : (ofUnixSeconds n).Plain := by
  rw [← UInt32.toNat_ofNat_of_lt' small]
  exact plain_ofUnixSeconds _

/-- Instants sort as texts, whatever stands between date and time and whatever follows them. -/
theorem text_append_lt {i i' : Instant} (plain : i.Plain) (plain' : i'.Plain) (gap : Char)
    (rest rest' : List Char) :
    i.date.text ++ gap :: (i.time.text ++ rest) < i'.date.text ++ gap :: (i'.time.text ++ rest') ↔
      i.unixSeconds < i'.unixSeconds ∨ i.unixSeconds = i'.unixSeconds ∧ rest < rest' := by
  rw [Date.text_append_lt plain.real plain'.real plain.years plain'.years, List.cons_lt_cons_self,
    TimeOfDay.text_append_lt plain.time plain'.time]
  have today := TimeOfDay.seconds_lt plain.time
  have today' := TimeOfDay.seconds_lt plain'.time
  unfold unixSeconds
  by_cases decided : rest < rest'
  · simp only [decided, and_true]
    omega
  · simp only [decided, and_false, or_false]
    omega

end Instant

/-! ## Shapes -/

/-- The text has the shape of the pattern, in which `D` stands for a digit and every other character
    for itself. -/
def Fits (pattern text : List Char) : Prop :=
  List.Forall₂ (fun p c => if p = 'D' then c.isDigit = true else c = p) pattern text

namespace Fits

variable {pattern pattern' text text' : List Char}

theorem append (front : Fits pattern text) (back : Fits pattern' text') :
    Fits (pattern ++ pattern') (text ++ text') :=
  List.rel_append front back

theorem digits {ds : List Char} (decimal : ∀ c ∈ ds, c.isDigit) :
    Fits (List.replicate ds.length 'D') ds := by
  induction ds with
  | nil => exact .nil
  | cons c ds ih =>
    obtain ⟨digit, decimal⟩ := List.forall_mem_cons.1 decimal
    exact .cons digit (ih decimal)

theorem padded {width n : Nat} (positive : 0 < width) (few : n < 10 ^ width) :
    Fits (List.replicate width 'D') (Decimal.padded width n) := by
  have decimal : ∀ c ∈ Decimal.padded width n, c.isDigit := fun _ => Decimal.isDigit_of_mem_padded
  have shape := digits decimal
  rwa [length_padded_of_lt positive few] at shape

end Fits

theorem format_toList (t : UInt32) :
    (format t).toList = (Instant.ofUnixSeconds t.toNat).date.text ++
      ' ' :: ((Instant.ofUnixSeconds t.toNat).time.text ++ zone) := by
  rw [format_eq, String.toList_ofList, Instant.text, List.append_assoc, List.cons_append]

/-- Written timestamps have four digits for the year and two for every other number. -/
theorem fits_format (t : UInt32) :
    Fits "DDDD-DD-DD DD:DD:DD UTC".toList (format t).toList := by
  obtain ⟨years, real, hours, minutes, seconds⟩ := Instant.plain_ofUnixSeconds t
  have few_days := Date.day_le real
  have few_months := real.2.1
  have four {n : Nat} (few : n < 10000) : Fits ['D', 'D', 'D', 'D'] (Decimal.padded 4 n) :=
    @Fits.padded 4 n (by decide) few
  have two {n : Nat} (few : n < 100) : Fits ['D', 'D'] (Decimal.padded 2 n) :=
    @Fits.padded 2 n (by decide) few
  rw [format_toList, Date.text_append, TimeOfDay.text_append]
  refine (four (by omega)).append (.cons rfl ((two (by omega)).append (.cons rfl ?_)))
  refine (two (by omega)).append (.cons rfl ((two (by omega)).append (.cons rfl ?_)))
  refine (two (by omega)).append (.cons rfl ((two (by omega)).append ?_))
  exact .cons rfl (.cons rfl (.cons rfl (.cons rfl .nil)))

theorem format_append_lt (a b : UInt32) (rest rest' : List Char) :
    (format a).toList ++ rest < (format b).toList ++ rest' ↔ a < b ∨ a = b ∧ rest < rest' := by
  have same_zone : zone ++ rest < zone ++ rest' ↔ rest < rest' := by
    rw [append_lt_append_iff rfl]
    simp
  rw [format_toList, format_toList, List.append_assoc, List.append_assoc, List.cons_append,
    List.cons_append, List.append_assoc, List.append_assoc,
    Instant.text_append_lt (Instant.plain_ofUnixSeconds a) (Instant.plain_ofUnixSeconds b),
    Instant.unixSeconds_ofUnixSeconds, Instant.unixSeconds_ofUnixSeconds, same_zone,
    Int.ofNat_lt, Int.ofNat_inj, UInt32.toNat_inj, ← UInt32.lt_iff_toNat_lt]

theorem format_lt (a b : UInt32) : format a < format b ↔ a < b := by
  have bare := format_append_lt a b [] []
  simpa [← String.lt_iff_toList_lt] using bare

theorem format_inj (a b : UInt32) : format a = format b ↔ a = b := by
  refine ⟨fun same => ?_, congrArg _⟩
  have not_less : ¬ a < b := by
    rw [← format_lt, same]
    exact lt_irrefl _
  have not_more : ¬ b < a := by
    rw [← format_lt, same]
    exact lt_irrefl _
  exact UInt32.le_antisymm (UInt32.not_lt.1 not_more) (UInt32.not_lt.1 not_less)

/-! ## Cycles of the calendar -/

theorem isLeap_add_cycles (year cycles : Int) : isLeap (year + 400 * cycles) = isLeap year := by
  rw [Bool.eq_iff_iff, isLeap_iff, isLeap_iff]
  omega

namespace Date

variable (d : Date) (cycles : Int)

theorem months_add_cycles : months { d with year := d.year + 400 * cycles } = d.months := by
  rw [months, isLeap_add_cycles, months]

theorem dayNumber_add_cycles :
    dayNumber { d with year := d.year + 400 * cycles } = d.dayNumber + 146097 * cycles := by
  rw [dayNumber, months_add_cycles, dayNumber]
  unfold daysBeforeYear
  simp only
  omega

variable {d} in
theorem exists_add_cycles (real : d.Exists) :
    Date.Exists { d with year := d.year + 400 * cycles } := by
  rw [Date.Exists, months_add_cycles]
  exact real

theorem ofDayNumber_add_cycles (n cycles : Nat) :
    ofDayNumber (n + 146097 * cycles) =
      { ofDayNumber n with year := (ofDayNumber n).year + 400 * cycles } := by
  obtain ⟨real, number⟩ := ofDayNumber_spec n
  obtain ⟨real', number'⟩ := ofDayNumber_spec (n + 146097 * cycles)
  -- Both dates exist, so that their numbers tell whether they are the same.
  refine (dayNumber_inj real' (exists_add_cycles cycles real)).1 ?_
  rw [number', dayNumber_add_cycles, number]
  omega

end Date

end TimeServer.Time

namespace TimeServer

/-- The whole microseconds since 1970. -/
def Clock.micros (c : Clock) : Int := c.seconds * 1000000 + (c.nanos / 1000 : Nat)

/-- The clock stands in the range of timestamps. -/
structure Clock.Told (c : Clock) : Prop where
  begun : 0 ≤ c.seconds
  ended : c.seconds < UInt32.size
  split : c.nanos < 1000000000

namespace Log

open Text Time

theorem dateOfDay_natCast (n : Nat) : dateOfDay n = Date.ofDayNumber n := by
  have whole : n % 146097 + 146097 * (n / 146097) = n := Nat.mod_add_div n 146097
  calc dateOfDay n
    _ = Date.ofDayNumber (n % 146097 + 146097 * (n / 146097)) :=
      (Date.ofDayNumber_add_cycles _ _).symm
    _ = Date.ofDayNumber n := by rw [whole]

/-- The stamp of a clock that shows an instant of a four-digit year, and then microseconds. -/
theorem stampChars_append {c : Clock} {i : Instant} (plain : i.Plain)
    (date : dateOfDay (c.seconds / 86400) = i.date)
    (time : TimeOfDay.ofSeconds (c.seconds % 86400).toNat = i.time) (rest : List Char) :
    stampChars c ++ rest = i.date.text ++ 'T' ::
      (i.time.text ++ '.' :: (Decimal.padded 6 (c.nanos / 1000) ++ 'Z' :: rest)) := by
  obtain ⟨first, last⟩ := plain.years
  have year : yearChars i.date.year = Decimal.padded 4 i.date.year.toNat := by
    rw [yearChars, if_neg (by omega), if_neg (by omega)]
  simp only [stampChars, date, time, year, Date.text_append, List.append_assoc, List.cons_append,
    List.nil_append]

/-- A clock in the range of timestamps shows the instant that its seconds name. -/
theorem exists_shown {c : Clock} (told : c.Told) :
    ∃ i : Instant, i.Plain ∧ i.unixSeconds = c.seconds ∧
      dateOfDay (c.seconds / 86400) = i.date ∧
      TimeOfDay.ofSeconds (c.seconds % 86400).toNat = i.time := by
  obtain ⟨begun, ended, -⟩ := told
  have days : c.seconds / 86400 = (c.seconds.toNat / 86400 : Nat) := by omega
  have left : (c.seconds % 86400).toNat = c.seconds.toNat % 86400 := by omega
  refine ⟨Instant.ofUnixSeconds c.seconds.toNat, Instant.plain_of_lt (by omega), ?_, ?_, ?_⟩
  · rw [Instant.unixSeconds_ofUnixSeconds, Int.toNat_of_nonneg begun]
  · rw [days, dateOfDay_natCast]
    rfl
  · rw [left]
    rfl

theorem stampChars_append_lt {c c' : Clock} (told : c.Told) (told' : c'.Told)
    (rest rest' : List Char) :
    stampChars c ++ rest < stampChars c' ++ rest' ↔
      c.micros < c'.micros ∨ c.micros = c'.micros ∧ rest < rest' := by
  obtain ⟨i, plain, seconds, date, time⟩ := exists_shown told
  obtain ⟨i', plain', seconds', date', time'⟩ := exists_shown told'
  have few := told.split
  have few' := told'.split
  rw [stampChars_append plain date time, stampChars_append plain' date' time',
    Instant.text_append_lt plain plain', List.cons_lt_cons_self,
    Decimal.padded_append_lt (by decide) (by omega) (by omega), List.cons_lt_cons_self, seconds,
    seconds']
  unfold Clock.micros
  by_cases decided : rest < rest'
  · simp only [decided, and_true]
    omega
  · simp only [decided, and_false, or_false]
    omega

namespace Record

theorem exists_line (r : Record) :
    ∃ rest, r.line = String.ofList (stampChars r.clock) ++ rest := by
  simp only [line, String.append_assoc]
  exact ⟨_, rfl⟩

theorem line_lt {r r' : Record} (told : r.clock.Told) (told' : r'.clock.Told)
    (earlier : r.clock.micros < r'.clock.micros) : r.line < r'.line := by
  obtain ⟨rest, text⟩ := r.exists_line
  obtain ⟨rest', text'⟩ := r'.exists_line
  rw [String.lt_iff_toList_lt, text, text', String.toList_append, String.toList_append,
    String.toList_ofList, String.toList_ofList, stampChars_append_lt told told']
  exact .inl earlier

end Record

end Log

namespace TimePacket

/-- The digits of the packet's number. -/
def digits (p : TimePacket) : List Char := Text.Decimal.digits p.timestamp.toNat

theorem exists_text (p : TimePacket) (c : Clock) :
    ∃ rest, p.text c = "TimePacket\x7btimestamp=" ++ (String.ofList p.digits ++ rest) := by
  have number : toString p.timestamp = String.ofList p.digits := by
    change Nat.repr p.timestamp.toNat = _
    rw [Nat.repr, digits, Text.Decimal.digits]
  unfold text
  simp only [number, String.append_assoc]
  exact ⟨_, rfl⟩

theorem text_lt {p q : TimePacket} (c : Clock) (level : p.digits.length = q.digits.length) :
    p.text c < q.text c ↔ p.timestamp < q.timestamp := by
  by_cases same : p = q
  · rw [same]
    exact iff_of_false (lt_irrefl _) (UInt32.lt_irrefl _)
  · -- The digits decide before what follows them comes into it.
    have differ : p.timestamp.toNat ≠ q.timestamp.toNat := by
      intro equal
      exact same (congrArg mk (UInt32.toNat_inj.1 equal))
    obtain ⟨rest, text⟩ := p.exists_text c
    obtain ⟨rest', text'⟩ := q.exists_text c
    rw [String.lt_iff_toList_lt, text, text']
    simp only [String.toList_append, String.toList_ofList]
    rw [Text.append_lt_append_iff rfl, Text.Decimal.append_lt level
      (fun _ => Text.Decimal.isDigit_of_mem_digits) (fun _ => Text.Decimal.isDigit_of_mem_digits),
      digits, digits, Text.Decimal.value_digits, Text.Decimal.value_digits,
      UInt32.lt_iff_toNat_lt]
    simp [differ]

end TimePacket

namespace Time

/-- Written timestamps sort like timestamps.  They are 23 characters of one shape, no two of them
    are the same, and they decide the order of lines that are alike in front of them.  So do the
    stamps of the log, and the packets' texts as long as their numbers have equally many digits. -/
theorem format_sorts :
    (∀ a b : UInt32,
      (format a < format b ↔ a < b) ∧ (format a = format b ↔ a = b) ∧
      (format a).length = 23 ∧ Fits "DDDD-DD-DD DD:DD:DD UTC".toList (format a).toList ∧
      ∀ front rest rest' : String,
        front ++ format a ++ rest < front ++ format b ++ rest' ↔ a < b ∨ a = b ∧ rest < rest') ∧
    (∀ r r' : Log.Record, r.clock.Told → r'.clock.Told → r.clock.micros < r'.clock.micros →
      r.line < r'.line) ∧
    ∀ (p q : TimePacket) (c : Clock), p.digits.length = q.digits.length →
      (p.text c < q.text c ↔ p.timestamp < q.timestamp) := by
  refine ⟨fun a b => ?_, fun r r' => Log.Record.line_lt, fun p q c => TimePacket.text_lt c⟩
  refine ⟨format_lt a b, format_inj a b, (fits_format a).length_eq.symm, fits_format a,
    fun front rest rest' => ?_⟩
  simp only [String.lt_iff_toList_lt, String.toList_append, List.append_assoc]
  rw [Text.append_lt_append_iff rfl, format_append_lt]
  simp

/-- The last microsecond of 2023 and the first of 2024. -/
theorem format_sorts_newYear :
    (Log.Record.ofEvent ⟨1704067199, 999999999⟩ .warn "over").line <
        (Log.Record.ofEvent ⟨1704067200, 0⟩ .info "begun").line ∧
      (TimePacket.text ⟨1704067199⟩ ⟨0, 0⟩ < TimePacket.text ⟨1704067200⟩ ⟨0, 0⟩ ↔
        (1704067199 : UInt32) < 1704067200) := by
  obtain ⟨-, lines, packets⟩ := format_sorts
  refine ⟨lines _ _ ⟨by decide, by decide, by decide⟩ ⟨by decide, by decide, by decide⟩ (by decide),
    packets ⟨1704067199⟩ ⟨1704067200⟩ ⟨0, 0⟩ ?_⟩
  decide

end Time

end TimeServer
