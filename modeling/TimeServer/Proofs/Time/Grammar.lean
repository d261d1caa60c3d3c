import TimeServer.Time.Text

/-! # What can be read as a time

The texts that `parse` reads, as data: a `Spelling` is a text taken apart into its numbers and the
white space between them, with the proofs that they are such.

* `Numeral`, `YearNumeral` — numbers with white space in front, years with a sign or not;
* `DateSpelling`, `TimeSpelling`, `Spelling` — their sequence, with the gap between date and time;
* `Longest` — no number leaves a digit behind that it could have taken;
* `readField_eq_some_iff` to `readInstant_eq_some_iff` — each reader reads what is spelled so, and
  nothing else;
* `withoutZone_eq_iff`, `parseChars_of_spelling` — with the zone behind it or without.
-/

namespace TimeServer.Time

open TimeServer.Text

/-! ## Numbers -/

/-- One or two digits with white space in front. -/
structure Numeral where
  space : List Char
  digits : List Char
  blank : ∀ c ∈ space, isBlank c
  decimal : ∀ c ∈ digits, c.isDigit
  nonempty : digits ≠ []
  few : digits.length ≤ 2

namespace Numeral

def chars (p : Numeral) : List Char := p.space ++ p.digits

def value (p : Numeral) : Nat := Decimal.value p.digits

/-- A single digit is not followed by another. -/
def Longest (p : Numeral) (rest : List Char) : Prop :=
  p.digits.length < 2 → ∀ c ∈ rest.head?, c.isDigit = false

end Numeral

/-- The sign of a year. -/
inductive Sign where
  | plus
  | minus

def Sign.char : Sign → Char
  | plus => '+'
  | minus => '-'

/-- Up to four digits, or a sign and any number of digits, with white space in front. -/
structure YearNumeral where
  space : List Char
  sign : Option Sign
  digits : List Char
  blank : ∀ c ∈ space, isBlank c
  decimal : ∀ c ∈ digits, c.isDigit
  nonempty : digits ≠ []
  few : sign = none → digits.length ≤ 4

namespace YearNumeral

def chars (p : YearNumeral) : List Char :=
  p.space ++ (p.sign.map Sign.char).toList ++ p.digits

def value (p : YearNumeral) : Int :=
  match p.sign with
  | some .minus => -(Decimal.value p.digits : Int)
  | _ => Decimal.value p.digits

end YearNumeral

/-! ## Dates and times of day -/

structure DateSpelling where
  year : YearNumeral
  month : Numeral
  day : Numeral

namespace DateSpelling

def chars (p : DateSpelling) : List Char :=
  p.year.chars ++ '-' :: p.month.chars ++ '-' :: p.day.chars

def Longest (p : DateSpelling) (rest : List Char) : Prop :=
  p.month.Longest ('-' :: p.day.chars ++ rest) ∧ p.day.Longest rest

def value (p : DateSpelling) : Date := ⟨p.year.value, p.month.value, p.day.value⟩

end DateSpelling

structure TimeSpelling where
  hour : Numeral
  minute : Numeral
  second : Numeral

namespace TimeSpelling

def chars (p : TimeSpelling) : List Char :=
  p.hour.chars ++ ':' :: p.minute.chars ++ ':' :: p.second.chars

def Longest (p : TimeSpelling) (rest : List Char) : Prop :=
  p.hour.Longest (':' :: p.minute.chars ++ ':' :: p.second.chars ++ rest) ∧
    p.minute.Longest (':' :: p.second.chars ++ rest) ∧ p.second.Longest rest

def value (p : TimeSpelling) : TimeOfDay := ⟨p.hour.value, p.minute.value, p.second.value⟩

end TimeSpelling

/-- A date and a time of day, with any white space between them. -/
structure Spelling where
  date : DateSpelling
  gap : List Char
  blank : ∀ c ∈ gap, isBlank c
  time : TimeSpelling

namespace Spelling

def chars (p : Spelling) : List Char := p.date.chars ++ p.gap ++ p.time.chars

/-- No number leaves a digit behind that it could have taken.  Only the day can: if there is no gap,
    the hour stands right behind it. -/
def Longest (p : Spelling) : Prop :=
  p.date.Longest (p.gap ++ p.time.chars) ∧ p.time.Longest []

end Spelling

/-! ## Reading numbers -/

theorem readNumber_eq_some_iff {limit n : Nat} {cs rest : List Char} :
    readNumber limit cs = some (n, rest) ↔
      ∃ ds, cs = ds ++ rest ∧ ds ≠ [] ∧ Decimal.IsRun limit ds rest ∧ Decimal.value ds = n := by
  unfold readNumber
  constructor
  · intro read
    have whole := Decimal.takeDigits_append limit cs
    have run := Decimal.isRun_takeDigits limit cs
    generalize Decimal.takeDigits limit cs = found at read whole run
    obtain ⟨_ | ⟨c, ds⟩, rest'⟩ := found
    · cases read
    · cases read
      exact ⟨c :: ds, whole.symm, List.cons_ne_nil c ds, run, rfl⟩
  · rintro ⟨ds, rfl, nonempty, run, rfl⟩
    obtain ⟨c, ds, rfl⟩ := List.exists_cons_of_ne_nil nonempty
    rw [Decimal.takeDigits_of_isRun run]

theorem readField_eq_some_iff {n : Nat} {cs rest : List Char} :
    readField cs = some (n, rest) ↔
      ∃ p : Numeral, cs = p.chars ++ rest ∧ p.Longest rest ∧ p.value = n := by
  unfold readField
  constructor
  · intro read
    obtain ⟨space, blank, whole⟩ := exists_space cs
    obtain ⟨ds, found, nonempty, run, value⟩ := readNumber_eq_some_iff.1 read
    refine ⟨⟨space, ds, blank, run.decimal, nonempty, run.few⟩, ?_, run.longest, value⟩
    rw [whole, found, Numeral.chars, List.append_assoc]
  · rintro ⟨p, rfl, longest, rfl⟩
    rw [Numeral.chars, List.append_assoc, trimStart_append p.blank,
      trimStart_digits p.decimal p.nonempty]
    exact readNumber_eq_some_iff.2 ⟨p.digits, rfl, p.nonempty, ⟨p.decimal, p.few, longest⟩, rfl⟩

/-- In front of the separator no digit is left behind, so that only the number of digits counts. -/
theorem readNumber_separator {limit : Nat} (f : Nat → Int) {cs rest : List Char} {year : Int} :
    ((readNumber limit cs).map fun (n, rest) => (f n, rest)) = some (year, '-' :: rest) ↔
      ∃ ds, cs = ds ++ '-' :: rest ∧ (∀ c ∈ ds, c.isDigit) ∧ ds ≠ [] ∧ ds.length ≤ limit ∧
        f (Decimal.value ds) = year := by
  rw [Option.map_eq_some_iff]
  constructor
  · rintro ⟨⟨n, rest'⟩, read, same⟩
    cases same
    obtain ⟨ds, found, nonempty, run, rfl⟩ := readNumber_eq_some_iff.1 read
    exact ⟨ds, found, run.decimal, nonempty, run.few, rfl⟩
  · rintro ⟨ds, rfl, decimal, nonempty, few, rfl⟩
    have run : Decimal.IsRun limit ds ('-' :: rest) := by
      refine ⟨decimal, few, fun _ => ?_⟩
      rintro _ ⟨⟩
      decide
    exact ⟨_, readNumber_eq_some_iff.2 ⟨ds, rfl, nonempty, run, rfl⟩, rfl⟩

theorem readYear_eq_some_iff {year : Int} {cs rest : List Char} :
    readYear cs = some (year, '-' :: rest) ↔
      ∃ p : YearNumeral, cs = p.chars ++ '-' :: rest ∧ p.value = year := by
  unfold readYear
  constructor
  · intro read
    obtain ⟨space, blank, whole⟩ := exists_space cs
    rw [whole]
    split at read
    · rename_i behind
      obtain ⟨ds, rfl, decimal, nonempty, _, value⟩ := (readNumber_separator (-·)).1 read
      refine ⟨⟨space, some .minus, ds, blank, decimal, nonempty, nofun⟩, ?_, value⟩
      simp [behind, YearNumeral.chars, Sign.char]
    · rename_i behind
      obtain ⟨ds, rfl, decimal, nonempty, _, value⟩ := (readNumber_separator (·)).1 read
      refine ⟨⟨space, some .plus, ds, blank, decimal, nonempty, nofun⟩, ?_, value⟩
      simp [behind, YearNumeral.chars, Sign.char]
    · obtain ⟨ds, behind, decimal, nonempty, few, value⟩ := (readNumber_separator (·)).1 read
      refine ⟨⟨space, none, ds, blank, decimal, nonempty, fun _ => few⟩, ?_, value⟩
      simp [behind, YearNumeral.chars]
  · rintro ⟨⟨space, sign, ds, blank, decimal, nonempty, few⟩, rfl, rfl⟩
    have within : ds.length ≤ (ds ++ '-' :: rest).length := by simp
    simp only [YearNumeral.chars, List.append_assoc]
    rw [trimStart_append blank]
    -- The sign decides how many digits are taken.
    cases sign with
    | some sign =>
      cases sign with
      | minus => exact (readNumber_separator (-·)).2 ⟨ds, rfl, decimal, nonempty, within, rfl⟩
      | plus => exact (readNumber_separator (·)).2 ⟨ds, rfl, decimal, nonempty, within, rfl⟩
    | none =>
      have unsigned := trimStart_digits decimal nonempty ('-' :: rest)
      simp only [Option.map_none, Option.toList_none, List.nil_append]
      rw [unsigned]
      -- A digit is neither sign.
      split
      · rename_i found
        obtain ⟨c, ds, rfl⟩ := List.exists_cons_of_ne_nil nonempty
        cases found
        cases decimal '-' List.mem_cons_self
      · rename_i found
        obtain ⟨c, ds, rfl⟩ := List.exists_cons_of_ne_nil nonempty
        cases found
        cases decimal '+' List.mem_cons_self
      · exact (readNumber_separator (·)).2 ⟨ds, rfl, decimal, nonempty, few rfl, rfl⟩

/-! ## Reading dates and times -/

theorem expect_eq_some_iff {c : Char} {cs rest : List Char} :
    expect c cs = some rest ↔ cs = c :: rest := by
  cases cs with
  | nil => simp [expect]
  | cons d cs => simp [expect]

theorem readDate_eq_some_iff {d : Date} {cs rest : List Char} :
    readDate cs = some (d, rest) ↔
      ∃ p : DateSpelling, cs = p.chars ++ rest ∧ p.Longest rest ∧ p.value = d := by
  simp only [readDate, Option.bind_eq_bind, Option.bind_eq_some_iff, Option.pure_def,
    Option.some.injEq, Prod.exists, expect_eq_some_iff]
  constructor
  · rintro ⟨_, _, read_year, _, rfl, _, _, read_month, _, rfl, _, _, read_day, same⟩
    cases same
    obtain ⟨year, rfl, rfl⟩ := readYear_eq_some_iff.1 read_year
    obtain ⟨month, rfl, longest_month, rfl⟩ := readField_eq_some_iff.1 read_month
    obtain ⟨day, rfl, longest_day, rfl⟩ := readField_eq_some_iff.1 read_day
    exact ⟨⟨year, month, day⟩, by simp [DateSpelling.chars], ⟨longest_month, longest_day⟩, rfl⟩
  · rintro ⟨⟨year, month, day⟩, rfl, ⟨longest_month, longest_day⟩, rfl⟩
    refine ⟨year.value, _, readYear_eq_some_iff.2 ⟨year, ?_, rfl⟩, _, rfl,
      month.value, _, readField_eq_some_iff.2 ⟨month, rfl, longest_month, rfl⟩, _, rfl,
      day.value, rest, readField_eq_some_iff.2 ⟨day, rfl, longest_day, rfl⟩, rfl⟩
    simp [DateSpelling.chars]

theorem readTimeOfDay_eq_some_iff {t : TimeOfDay} {cs rest : List Char} :
    readTimeOfDay cs = some (t, rest) ↔
      ∃ p : TimeSpelling, cs = p.chars ++ rest ∧ p.Longest rest ∧ p.value = t := by
  simp only [readTimeOfDay, Option.bind_eq_bind, Option.bind_eq_some_iff, Option.pure_def,
    Option.some.injEq, Prod.exists, expect_eq_some_iff]
  constructor
  · rintro ⟨_, _, read_hour, _, rfl, _, _, read_minute, _, rfl, _, _, read_second, same⟩
    cases same
    obtain ⟨hour, rfl, longest_hour, rfl⟩ := readField_eq_some_iff.1 read_hour
    obtain ⟨minute, rfl, longest_minute, rfl⟩ := readField_eq_some_iff.1 read_minute
    obtain ⟨second, rfl, longest_second, rfl⟩ := readField_eq_some_iff.1 read_second
    refine ⟨⟨hour, minute, second⟩, by simp [TimeSpelling.chars], ?_, rfl⟩
    exact ⟨by simpa using longest_hour, longest_minute, longest_second⟩
  · rintro ⟨⟨hour, minute, second⟩, rfl, ⟨longest_hour, longest_minute, longest_second⟩, rfl⟩
    refine ⟨hour.value, _, readField_eq_some_iff.2 ⟨hour, ?_, longest_hour, rfl⟩, _, rfl,
      minute.value, _, readField_eq_some_iff.2 ⟨minute, ?_, longest_minute, rfl⟩, _, rfl,
      second.value, rest, readField_eq_some_iff.2 ⟨second, rfl, longest_second, rfl⟩, rfl⟩
    · simp [TimeSpelling.chars]
    · simp

theorem readTimeOfDay_trimStart (cs : List Char) :
    readTimeOfDay (trimStart cs) = readTimeOfDay cs := by
  simp only [readTimeOfDay, readField, trimStart_trimStart]

theorem readInstant_eq_some_iff {i : Instant} {cs : List Char} :
    readInstant cs = some i ↔
      ∃ p : Spelling, cs = p.chars ∧ p.Longest ∧ p.date.value.Exists ∧ p.time.value.Shows ∧
        ⟨p.date.value, p.time.value.settled⟩ = i := by
  simp only [readInstant, Option.bind_eq_bind, Option.bind_eq_some_iff, Prod.exists,
    Option.ite_none_right_eq_some, Option.some.injEq]
  constructor
  · rintro ⟨_, behind, read_date, _, _, read_time, ⟨rfl, real, shows⟩, rfl⟩
    obtain ⟨date, rfl, longest_date, rfl⟩ := readDate_eq_some_iff.1 read_date
    obtain ⟨time, found, longest_time, rfl⟩ := readTimeOfDay_eq_some_iff.1 read_time
    -- What was trimmed is the gap; nothing is left behind the time of day.
    obtain ⟨gap, blank, whole⟩ := exists_space behind
    rw [found, List.append_nil] at whole
    subst whole
    refine ⟨⟨date, gap, blank, time⟩, ?_, ⟨longest_date, longest_time⟩, real, shows, rfl⟩
    rw [Spelling.chars, List.append_assoc]
  · rintro ⟨⟨date, gap, blank, time⟩, rfl, ⟨longest_date, longest_time⟩, real, shows, rfl⟩
    refine ⟨date.value, gap ++ time.chars, readDate_eq_some_iff.2 ⟨date, ?_, longest_date, rfl⟩,
      time.value, [], ?_, ⟨rfl, real, shows⟩, rfl⟩
    · rw [Spelling.chars, List.append_assoc]
    · -- The hour may have white space of its own in front, which is trimmed together with the gap.
      rw [trimStart_append blank, readTimeOfDay_trimStart]
      exact readTimeOfDay_eq_some_iff.2 ⟨time, (List.append_nil _).symm, longest_time, rfl⟩

/-! ## The zone -/

theorem Spelling.not_zone_suffix (p : Spelling) : ¬ zone <:+ p.chars := by
  intro suffix
  have letter : ['C'] <:+ p.chars := List.IsSuffix.trans ⟨[' ', 'U', 'T'], rfl⟩ suffix
  have digits : p.time.second.digits <:+ p.chars := by
    refine ⟨p.date.chars ++ p.gap ++ p.time.hour.chars ++ ':' :: p.time.minute.chars ++
      ':' :: p.time.second.space, ?_⟩
    simp [Spelling.chars, TimeSpelling.chars, Numeral.chars]
  have some_digit : 1 ≤ p.time.second.digits.length :=
    List.length_pos_iff.2 p.time.second.nonempty
  have last := List.suffix_of_suffix_length_le letter digits some_digit
  cases p.time.second.decimal 'C' (last.subset List.mem_cons_self)

theorem withoutZone_eq_iff {cs : List Char} {p : Spelling} :
    withoutZone cs = p.chars ↔ cs = p.chars ++ zone ∨ cs = p.chars := by
  unfold withoutZone
  constructor
  · intro without
    split at without
    · rename_i found
      obtain ⟨front, rfl⟩ := List.isSuffixOf_iff_suffix.1 found
      left
      rw [← without, List.length_append, Nat.add_sub_cancel, List.take_left]
    · exact .inr without
  · rintro (rfl | rfl)
    · have found : zone.isSuffixOf (p.chars ++ zone) :=
        List.isSuffixOf_iff_suffix.2 (List.suffix_append p.chars zone)
      rw [if_pos found, List.length_append, Nat.add_sub_cancel, List.take_left]
    · rw [if_neg (mt List.isSuffixOf_iff_suffix.1 p.not_zone_suffix)]

/-! ## Timestamps -/

theorem timestamp_eq_some_iff {seconds : Int} {n : UInt32} :
    (if 0 ≤ seconds ∧ seconds < UInt32.size then some (UInt32.ofNat seconds.toNat) else none) =
      some n ↔ seconds = n.toNat := by
  rw [Option.ite_none_right_eq_some, Option.some.injEq]
  constructor
  · rintro ⟨⟨first, last⟩, rfl⟩
    rw [UInt32.toNat_ofNat_of_lt' ((Int.toNat_lt first).2 last), Int.toNat_of_nonneg first]
  · rintro rfl
    refine ⟨⟨Int.natCast_nonneg _, Int.ofNat_lt.2 n.toNat_lt_size⟩, ?_⟩
    rw [Int.toNat_natCast, UInt32.ofNat_toNat]

theorem parseChars_of_spelling {p : Spelling} (longest : p.Longest) (real : p.date.value.Exists)
    (shows : p.time.value.Shows) {n : UInt32}
    (count : Instant.unixSeconds ⟨p.date.value, p.time.value.settled⟩ = n.toNat) {cs : List Char}
    (spelled : cs = p.chars ++ zone ∨ cs = p.chars) : parseChars cs = some n := by
  have read := readInstant_eq_some_iff.2
    ⟨p, withoutZone_eq_iff.2 spelled, longest, real, shows, rfl⟩
  rw [parseChars, read]
  exact timestamp_eq_some_iff.2 count

/-- A text is read as a timestamp just if it spells one, and then as the one it spells. -/
theorem parse_eq_some_iff (text : String) (n : UInt32) :
    parse text = some n ↔
      ∃ p : Spelling, (text.toList = p.chars ++ zone ∨ text.toList = p.chars) ∧ p.Longest ∧
        p.date.value.Exists ∧ p.time.value.Shows ∧
        Instant.unixSeconds ⟨p.date.value, p.time.value.settled⟩ = n.toNat := by
  constructor
  · intro parsed
    obtain ⟨i, read, count⟩ := Option.bind_eq_some_iff.1 parsed
    obtain ⟨p, spelled, longest, real, shows, rfl⟩ := readInstant_eq_some_iff.1 read
    exact ⟨p, withoutZone_eq_iff.1 spelled, longest, real, shows, timestamp_eq_some_iff.1 count⟩
  · rintro ⟨p, spelled, longest, real, shows, count⟩
    exact parseChars_of_spelling longest real shows count spelled

/-- Without a gap the day takes the first digit of the hour. -/
example : parse "2024-01-112:00:00" = parse "2024-01-11 2:00:00 UTC" := by decide +kernel

end TimeServer.Time
