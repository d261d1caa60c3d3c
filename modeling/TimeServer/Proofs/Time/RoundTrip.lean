import TimeServer.Proofs.Time.Calendar
import TimeServer.Proofs.Time.Grammar

/-! # Writing and reading times

What `format` writes is read back.

* `Instant.exists_spelling`, `parseChars_of_text` — an instant of a four-digit year is written as it
  may be spelled, and so read back;
* `Instant.year_ofUnixSeconds` — the instants of timestamps have such years.
-/

namespace TimeServer.Time

open TimeServer.Text

/-! ## Written numbers -/

theorem padded_ne_nil (width n : Nat) : Decimal.padded width n ≠ [] :=
  List.append_ne_nil_of_right_ne_nil _ (List.ne_nil_of_length_pos Nat.length_toDigits_pos)

theorem length_padded_of_lt {width n : Nat} (positive : 0 < width) (small : n < 10 ^ width) :
    (Decimal.padded width n).length = width :=
  Decimal.length_padded ((Nat.length_toDigits_le_iff (by decide) positive).2 small)

/-- A number with two digits. -/
def Numeral.ofNat (n : Nat) (small : n < 100) : Numeral where
  space := []
  digits := Decimal.padded 2 n
  blank := nofun
  decimal _ := Decimal.isDigit_of_mem_padded
  nonempty := padded_ne_nil 2 n
  few := Nat.le_of_eq (length_padded_of_lt (by decide) small)

theorem Numeral.longest_ofNat {n : Nat} (small : n < 100) (rest : List Char) :
    (ofNat n small).Longest rest :=
  fun short => absurd (length_padded_of_lt (by decide) small) (Nat.ne_of_lt short)

/-- A year with four digits and no sign. -/
def YearNumeral.ofNat (n : Nat) (small : n < 10000) : YearNumeral where
  space := []
  sign := none
  digits := Decimal.padded 4 n
  blank := nofun
  decimal _ := Decimal.isDigit_of_mem_padded
  nonempty := padded_ne_nil 4 n
  few _ := Nat.le_of_eq (length_padded_of_lt (by decide) small)

/-! ## Written dates and times -/

theorem Date.day_le {d : Date} (real : d.Exists) : d.day ≤ 31 := by
  obtain ⟨first, last, _, ended⟩ := real
  have short : ∀ leap, ∀ month < 12, (monthLengths leap).getD month 0 ≤ 31 := by decide
  exact Nat.le_trans ended (short _ _ (by omega))

theorem Date.exists_spelling {d : Date} (begun : 0 ≤ d.year) (ended : d.year < 10000)
    (real : d.Exists) :
    ∃ p : DateSpelling, p.chars = d.text ∧ (∀ rest, p.Longest rest) ∧ p.value = d := by
  have few_days := day_le real
  obtain ⟨year, month, day⟩ := d
  obtain ⟨year, rfl⟩ := Int.eq_ofNat_of_zero_le begun
  obtain ⟨_, few_months, _, _⟩ := real
  have four : year < 10000 := Int.ofNat_lt.1 ended
  have two : month < 100 := Nat.lt_of_le_of_lt few_months (by decide)
  have two' : day < 100 := Nat.lt_of_le_of_lt few_days (by decide)
  refine ⟨⟨.ofNat year four, .ofNat month two, .ofNat day two'⟩, ?_, fun rest => ⟨?_, ?_⟩, ?_⟩
  · simp [DateSpelling.chars, Date.text, Numeral.chars, YearNumeral.chars, Numeral.ofNat,
      YearNumeral.ofNat]
  · exact Numeral.longest_ofNat two _
  · exact Numeral.longest_ofNat two' _
  · simp [DateSpelling.value, YearNumeral.value, Numeral.value, YearNumeral.ofNat,
      Numeral.ofNat, Decimal.value_padded]

theorem TimeOfDay.exists_spelling {t : TimeOfDay} (shows : t.Shows) :
    ∃ p : TimeSpelling, p.chars = t.text ∧ (∀ rest, p.Longest rest) ∧ p.value = t := by
  obtain ⟨hours, minutes, seconds⟩ := shows
  have two : t.hour < 100 := Nat.lt_trans hours (by decide)
  have two' : t.minute < 100 := Nat.lt_trans minutes (by decide)
  have two'' : t.second < 100 := Nat.lt_of_le_of_lt seconds (by decide)
  refine ⟨⟨.ofNat t.hour two, .ofNat t.minute two', .ofNat t.second two''⟩, ?_,
    fun rest => ⟨?_, ?_, ?_⟩, ?_⟩
  · simp [TimeSpelling.chars, TimeOfDay.text, Numeral.chars, Numeral.ofNat]
  · exact Numeral.longest_ofNat two _
  · exact Numeral.longest_ofNat two' _
  · exact Numeral.longest_ofNat two'' _
  · simp [TimeSpelling.value, Numeral.value, Numeral.ofNat, Decimal.value_padded]

theorem Instant.exists_spelling {i : Instant} (begun : 0 ≤ i.date.year)
    (ended : i.date.year < 10000) (real : i.date.Exists) (shows : i.time.Shows) :
    ∃ p : Spelling, p.chars = i.text ∧ p.Longest ∧ p.date.value = i.date ∧
      p.time.value = i.time := by
  obtain ⟨date, date_text, date_longest, date_value⟩ := Date.exists_spelling begun ended real
  obtain ⟨time, time_text, time_longest, time_value⟩ := TimeOfDay.exists_spelling shows
  have blank : ∀ c ∈ [' '], isBlank c := List.forall_mem_singleton.2 rfl
  refine ⟨⟨date, [' '], blank, time⟩, ?_, ⟨date_longest _, time_longest _⟩, date_value,
    time_value⟩
  rw [Spelling.chars, date_text, time_text, Instant.text, List.append_assoc, List.singleton_append]

/-- Whatever instant is written, its timestamp is read back, with the zone and without it. -/
theorem parseChars_of_text {i : Instant} (begun : 0 ≤ i.date.year) (ended : i.date.year < 10000)
    (real : i.date.Exists) (shows : i.time.Shows) (steady : i.time.second < 60) {t : UInt32}
    (count : i.unixSeconds = t.toNat) {cs : List Char}
    (written : cs = i.text ++ zone ∨ cs = i.text) : parseChars cs = some t := by
  obtain ⟨p, text, longest, date, time⟩ := Instant.exists_spelling begun ended real shows
  have settled : i.time.settled = i.time := by
    rw [TimeOfDay.settled, Nat.min_eq_left (Nat.le_of_lt_succ steady)]
  rw [← text] at written
  rw [← date] at real
  rw [← time] at shows
  refine parseChars_of_spelling longest real shows ?_ written
  rw [date, time, settled]
  exact count

/-! ## Timestamps -/

namespace Instant

theorem exists_ofUnixSeconds (n : Nat) : (ofUnixSeconds n).date.Exists :=
  (Date.ofDayNumber_spec _).1

theorem time_ofUnixSeconds_lt (n : Nat) :
    (ofUnixSeconds n).time.hour < 24 ∧ (ofUnixSeconds n).time.minute < 60 ∧
      (ofUnixSeconds n).time.second < 60 := by
  simp only [ofUnixSeconds, TimeOfDay.ofSeconds]
  omega

theorem unixSeconds_ofUnixSeconds (n : Nat) : (ofUnixSeconds n).unixSeconds = n := by
  simp only [unixSeconds, ofUnixSeconds, (Date.ofDayNumber_spec _).2,
    TimeOfDay.seconds_ofSeconds]
  omega

theorem year_ofUnixSeconds (t : UInt32) :
    1970 ≤ (ofUnixSeconds t.toNat).date.year ∧ (ofUnixSeconds t.toNat).date.year ≤ 2106 := by
  obtain ⟨real, number⟩ := Date.ofDayNumber_spec (t.toNat / 86400)
  obtain ⟨begun, ended⟩ := Date.dayNumber_bounds real
  have last := t.toNat_lt
  rw [number] at begun ended
  simp only [ofUnixSeconds]
  generalize Date.ofDayNumber (t.toNat / 86400) = d at begun ended
  unfold Date.daysBeforeYear Date.epochDay at begun ended
  constructor <;> omega

end Instant

theorem format_eq (t : UInt32) :
    format t = String.ofList ((Instant.ofUnixSeconds t.toNat).text ++ zone) := by
  obtain ⟨_, last⟩ := Instant.year_ofUnixSeconds t
  have told : (Instant.ofUnixSeconds t.toNat).date.year ≤ Instant.lastYear :=
    Int.le_trans last (by decide)
  rw [format, Instant.ofUnixSeconds?, if_pos told]
  rfl

/-- What is written is read back, with the zone and without it, and is the date and the time of day
    so many seconds after the first of January 1970. -/
theorem parse_format (t : UInt32) :
    ∃ (i : Instant) (text : String),
      format t = text ++ " UTC" ∧ text.toList = i.text ∧ format t ≠ "Invalid timestamp" ∧
      parse (format t) = some t ∧ parse text = some t ∧
      i.date.Exists ∧ i.time.hour < 24 ∧ i.time.minute < 60 ∧ i.time.second < 60 ∧
      i.unixSeconds = t.toNat ∧
      i.date = Date.next^[t.toNat / 86400] Date.epoch ∧ i.time.seconds = t.toNat % 86400 := by
  let i := Instant.ofUnixSeconds t.toNat
  have real : i.date.Exists := Instant.exists_ofUnixSeconds _
  have count : i.unixSeconds = t.toNat := Instant.unixSeconds_ofUnixSeconds _
  obtain ⟨hours, minutes, seconds⟩ := Instant.time_ofUnixSeconds_lt t.toNat
  have reads {cs : List Char} : cs = i.text ++ zone ∨ cs = i.text → parseChars cs = some t := by
    obtain ⟨first, last⟩ := Instant.year_ofUnixSeconds t
    exact parseChars_of_text (Int.le_trans (by decide) first)
      (Int.lt_of_le_of_lt last (by decide)) real ⟨hours, minutes, Nat.le_of_lt seconds⟩ seconds
      count
  have parsed : parse (format t) = some t := by
    rw [parse, format_eq, String.toList_ofList]
    exact reads (.inl rfl)
  have parsed_bare : parse (String.ofList i.text) = some t := by
    rw [parse, String.toList_ofList]
    exact reads (.inr rfl)
  have told : format t ≠ "Invalid timestamp" := by
    -- That text is no time.
    intro invalid
    rw [invalid] at parsed
    cases parsed
  refine ⟨i, String.ofList i.text, ?_, String.toList_ofList, told, parsed, parsed_bare, real, hours,
    minutes, seconds, count, Date.ofDayNumber_eq_iterate _, TimeOfDay.seconds_ofSeconds _⟩
  rw [format_eq, String.ofList_append]
  rfl

end TimeServer.Time
