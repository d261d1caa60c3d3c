import TimeServer.Config.Validity
import TimeServer.Daemon.Logging

/-! # The filter of a configured level

A level is read twice: when the configuration is checked, and when the log is set up, there as one
of the directives of a filter.

* `Threshold.Spells` — the texts that are accepted as a level, `Threshold.spells_of_ofChars?`;
* `Log.Filter.ofLevel_of_spells` — the filter that is made of each of them;
* `Host.log_of_initLogging` — it is the filter of the log that is set up;
* `Host.kept_of_initLogging` — which records that log keeps, for every level that is accepted.
-/

namespace TimeServer

/-! ## Text in lower case -/

namespace Text

variable {cs : List Char} {mark : Char}

theorem toLower_cases (c : Char) :
    c.toLower = c ∨ (65 ≤ c.toNat ∧ c.toNat ≤ 90 ∧ c.toLower.toNat = c.toNat + 32) := by
  unfold Char.toLower
  split
  · rename_i capital
    obtain ⟨low, high⟩ := capital
    rw [ge_iff_le, UInt32.le_iff_toNat_le] at low
    rw [UInt32.le_iff_toNat_le] at high
    refine .inr ⟨low, high, ?_⟩
    show (c.val + ('a'.val - 'A'.val)).toNat = c.val.toNat + 32
    have high : c.val.toNat ≤ 90 := high
    have apart : ('a'.val - 'A'.val).toNat = 32 := rfl
    rw [UInt32.toNat_add, apart]
    omega
  · exact .inl rfl

theorem isBlank_toLower (c : Char) : isBlank c.toLower = isBlank c := by
  obtain same | ⟨low, high, lower⟩ := toLower_cases c
  · rw [same]
  · have visible : ∀ d : Char, 65 ≤ d.toNat → d.toNat ≤ 122 → isBlank d = false := by
      intro d low high
      simp [isBlank]
      omega
    rw [visible c low (by omega), visible c.toLower (by omega) (by omega)]

theorem toLower_of_isDigit {c : Char} (digit : c.isDigit) : c.toLower = c := by
  obtain same | ⟨low, _⟩ := toLower_cases c
  · exact same
  · have bounds : c.toNat ≤ 57 := by
      have both : 48 ≤ c.toNat ∧ c.toNat ≤ 57 := by
        simpa [Char.isDigit, UInt32.le_iff_toNat_le] using digit
      exact both.2
    omega

theorem trim_map_toLower (cs : List Char) :
    (trim cs).map Char.toLower = trim (cs.map Char.toLower) := by
  have same : isBlank ∘ Char.toLower = isBlank := funext isBlank_toLower
  simp only [trim, trimStart, dropEndWhile, List.dropWhile_map, ← List.map_reverse, same]

theorem trim_of_visible (visible : ∀ c ∈ cs, isBlank c = false) : trim cs = cs := by
  have kept : ∀ ds : List Char, (∀ c ∈ ds, isBlank c = false) → ds.dropWhile isBlank = ds := by
    intro ds visible
    cases ds with
    | nil => rfl
    | cons c ds => simp [visible c List.mem_cons_self]
  have visible_reverse : ∀ c ∈ cs.reverse, isBlank c = false :=
    fun c member => visible c (List.mem_reverse.1 member)
  rw [trim, trimStart, dropEndWhile, kept cs visible, kept _ visible_reverse, List.reverse_reverse]

theorem splitAtMark_of_notMem (absent : mark ∉ cs) : splitAtMark mark cs = [cs] := by
  induction cs with
  | nil => rfl
  | cons c cs ih =>
    obtain ⟨other, absent⟩ := not_or.1 (mt List.mem_cons.2 absent)
    rw [splitAtMark, if_neg (Ne.symm other), ih absent]

end Text

open TimeServer.Text

/-! ## Texts that are accepted -/

namespace Threshold

variable {cs : List Char} {threshold : Threshold}

/-- The text is accepted as this threshold: a number, one after a plus sign, or a name in letters
    of either case. -/
inductive Spells (threshold : Threshold) : List Char → Prop
  | number {ds : List Char} (nonempty : ds ≠ []) (decimal : ∀ c ∈ ds, c.isDigit)
      (denotes : ofNumber? (Decimal.value ds) = some threshold) : Spells threshold ds
  | signed {ds : List Char} (nonempty : ds ≠ []) (decimal : ∀ c ∈ ds, c.isDigit)
      (denotes : ofNumber? (Decimal.value ds) = some threshold) : Spells threshold ('+' :: ds)
  | name {cs : List Char} (denotes : ofName? (cs.map Char.toLower) = some threshold) :
      Spells threshold cs

theorem number?_of_decimal {ds : List Char} (nonempty : ds ≠ []) (decimal : ∀ c ∈ ds, c.isDigit) :
    number? ds = some (Decimal.value ds) := by
  have unsigned : ∀ cs, ds ≠ '+' :: cs := by
    rintro cs rfl
    exact absurd (decimal '+' List.mem_cons_self) (by decide)
  have all : ds.all Char.isDigit = true := List.all_eq_true.2 decimal
  unfold number?
  split
  · rename_i cs
    exact absurd rfl (unsigned cs)
  · simp [nonempty, all]

theorem spells_of_ofChars? (accepted : ofChars? cs = some threshold) : Spells threshold cs := by
  unfold ofChars? at accepted
  split at accepted
  · rename_i n read
    unfold number? at read
    -- The sign is looked for first, so the two kinds of numbers are told apart here.
    split at read
    · rename_i ds
      obtain ⟨⟨nonempty, all⟩, rfl⟩ : (ds ≠ [] ∧ ds.all Char.isDigit) ∧ Decimal.value ds = n := by
        simpa using read
      exact .signed nonempty (List.all_eq_true.1 all) accepted
    · obtain ⟨⟨nonempty, all⟩, rfl⟩ : (cs ≠ [] ∧ cs.all Char.isDigit) ∧ Decimal.value cs = n := by
        simpa using read
      exact .number nonempty (List.all_eq_true.1 all) accepted
  · exact .name accepted

/-- The names of thresholds, with what they stand for. -/
def names : List (List Char × Threshold) :=
  [("error".toList, some .error), ([], some .error), ("warn".toList, some .warn),
    ("info".toList, some .info), ("debug".toList, some .debug), ("trace".toList, some .trace),
    ("off".toList, none)]

theorem mem_names_of_ofName? (named : ofName? cs = some threshold) : (cs, threshold) ∈ names := by
  unfold ofName? at named
  split at named
  · rename_i either
    obtain rfl | rfl := either <;> cases named <;> simp [names]
  repeat' split at named
  all_goals first | (subst cs; cases named; simp [names]) | cases named

theorem eq_of_rank_eq {l m : Level} (same : l.rank = m.rank) : l = m := by
  cases l <;> cases m <;> first | rfl | cases same

theorem eq_of_allows {t u : Threshold} (same : ∀ level, t.allows level = u.allows level) :
    t = u := by
  cases t with
  | none =>
    cases u with
    | none => rfl
    | some m => simpa [allows] using same m
  | some l =>
    cases u with
    | none => simpa [allows] using same l
    | some m =>
      have below : l.rank ≤ m.rank := by simpa [allows] using same l
      have above : m.rank ≤ l.rank := by simpa [allows] using same m
      rw [eq_of_rank_eq (Nat.le_antisymm below above)]

end Threshold

/-! ## The filter of an accepted text -/

namespace Log

open Threshold (Spells)

variable {ds : List Char} {threshold : Threshold}

/-- A visible text in which nothing separates or assigns is all of one directive. -/
structure IsWord (cs : List Char) : Prop where
  visible : ∀ c ∈ cs, isBlank c = false
  unmarked : ∀ c ∈ cs, c ≠ '=' ∧ c ≠ '[' ∧ c ≠ ','

theorem isWord_of_decimal (decimal : ∀ c ∈ ds, c.isDigit) : IsWord ds where
  visible c member := isBlank_of_isDigit (decimal c member)
  unmarked c member := by
    have digit := decimal c member
    refine ⟨?_, ?_, ?_⟩ <;> rintro rfl <;> exact absurd digit (by decide)

theorem isWord_signed (decimal : ∀ c ∈ ds, c.isDigit) : IsWord ('+' :: ds) where
  visible := List.forall_mem_cons.2 ⟨by decide, (isWord_of_decimal decimal).visible⟩
  unmarked := List.forall_mem_cons.2 ⟨by decide, (isWord_of_decimal decimal).unmarked⟩

/-- A word is read as a level first; only what is none is taken for a target. -/
theorem Directive.ofChars?_of_isWord {c : Char} {cs : List Char} (word : IsWord (c :: cs)) :
    Directive.ofChars? (c :: cs) =
      if canBegin c then
        match Threshold.ofChars? (c :: cs) with
        | some threshold => some { threshold }
        | none => some { target := c :: cs, threshold := some .trace }
      else none := by
  have inside : ∀ d ∈ c :: cs, (d ≠ '=' && d ≠ '[') = true := by
    intro d member
    obtain ⟨unassigned, unscoped, -⟩ := word.unmarked d member
    simp [unassigned, unscoped]
  have whole := @takeWhile_run _ _ [] inside nofun
  have rest := @dropWhile_run _ _ [] inside nofun
  rw [List.append_nil] at whole rest
  unfold Directive.ofChars?
  rw [trim_of_visible word.visible]
  cases read : Threshold.ofChars? (c :: cs) with
  | none | some => simp only [whole, rest, read]

theorem Filter.ofChars_of_isWord {cs : List Char} (nonempty : cs ≠ []) (word : IsWord cs) :
    Filter.ofChars cs =
      match Directive.ofChars? cs with
      | some d => ⟨[d]⟩
      | none => ⟨[{ threshold := some .error }]⟩ := by
  have single : splitAtMark ',' cs = [cs] :=
    splitAtMark_of_notMem fun member => (word.unmarked ',' member).2.2 rfl
  unfold Filter.ofChars
  rw [single]
  cases read : Directive.ofChars? cs <;> simp [nonempty, read]

theorem Filter.ofChars_number (nonempty : ds ≠ []) (decimal : ∀ c ∈ ds, c.isDigit)
    (denotes : Threshold.ofNumber? (Decimal.value ds) = some threshold) :
    Filter.ofChars ds = ⟨[{ threshold }]⟩ := by
  have accepted : Threshold.ofChars? ds = some threshold := by
    rw [Threshold.ofChars?, Threshold.number?_of_decimal nonempty decimal]
    exact denotes
  rw [ofChars_of_isWord nonempty (isWord_of_decimal decimal)]
  obtain ⟨c, cs, rfl⟩ := List.exists_cons_of_ne_nil nonempty
  have begins : Directive.canBegin c = true := by
    simp [Directive.canBegin, Char.isAlphanum, decimal c List.mem_cons_self]
  rw [Directive.ofChars?_of_isWord (isWord_of_decimal decimal), if_pos begins, accepted]

/-- No directive begins with a plus sign, so that the filter is the one without directives. -/
theorem Filter.ofChars_signed (decimal : ∀ c ∈ ds, c.isDigit) :
    Filter.ofChars ('+' :: ds) = ⟨[{ threshold := some .error }]⟩ := by
  have word : IsWord ('+' :: ds) := isWord_signed decimal
  have barred : Directive.canBegin '+' = false := by decide
  rw [ofChars_of_isWord (List.cons_ne_nil _ _) word, Directive.ofChars?_of_isWord word, barred,
    if_neg Bool.false_ne_true]

theorem Filter.ofChars_name :
    ∀ named ∈ Threshold.names, named.1.head? ≠ some '+' ∧
      Filter.ofChars (trim named.1) = ⟨[{ threshold := named.2 }]⟩ := by
  decide

/-- Every accepted text gives a filter with one directive, which concerns every target. -/
theorem Filter.ofLevel_of_spells {text : String} (spells : Spells threshold text.toList) :
    Filter.ofLevel text =
      ⟨[{ threshold := if text.toList.head? = some '+' then some .error else threshold }]⟩ := by
  rw [Filter.ofLevel, levelDirective, String.toList_ofList, trim_map_toLower]
  generalize text.toList = cs at spells ⊢
  have lower : ∀ {ds : List Char}, (∀ c ∈ ds, c.isDigit) → ds.map Char.toLower = ds := by
    intro ds decimal
    calc ds.map Char.toLower
      _ = ds.map id := List.map_congr_left fun c member => toLower_of_isDigit (decimal c member)
      _ = ds := List.map_id ds
  cases spells with
  | number nonempty decimal denotes =>
    have unsigned : cs.head? ≠ some '+' := by
      intro head
      exact absurd (decimal '+' (List.mem_of_head? head)) (by decide)
    rw [lower decimal, trim_of_visible (isWord_of_decimal decimal).visible,
      ofChars_number nonempty decimal denotes, if_neg unsigned]
  | @signed ds nonempty decimal denotes =>
    have visible := (isWord_signed decimal).visible
    rw [List.map_cons, lower decimal]
    show Filter.ofChars (trim ('+' :: ds)) = _
    rw [trim_of_visible visible, ofChars_signed decimal, List.head?_cons, if_pos rfl]
  | name denotes =>
    obtain ⟨plain, read⟩ := ofChars_name _ (Threshold.mem_names_of_ofName? denotes)
    have unsigned : cs.head? ≠ some '+' := by
      intro head
      exact plain (by rw [List.head?_map, head]; rfl)
    rw [read, if_neg unsigned]

theorem Filter.allows_ofLevel {text : String} (spells : Spells threshold text.toList)
    (target : String) (level : Level) :
    (Filter.ofLevel text).allows target level =
      if text.toList.head? = some '+' then Threshold.allows (some .error) level
      else threshold.allows level := by
  -- A single directive without a target decides about all records.
  have single : ∀ threshold : Threshold,
      Filter.allows ⟨[{ threshold }]⟩ target level = threshold.allows level :=
    fun _ => rfl
  rw [ofLevel_of_spells spells, single]
  split <;> rfl

end Log

/-! ## The log that is set up -/

namespace Host

variable {s : Config.Logging} {h h' : Host}

theorem log_of_install {log : ActiveLog} (installed : h.install log = (.ok (), h')) :
    h'.log = some log := by
  unfold install at installed
  split at installed
  · cases installed
  · cases installed
    rfl

theorem log_of_initLogging (installed : h.initLogging s = (.ok (), h')) :
    h'.log = some ⟨.ofLevel s.logLevel, s.logFile, s.console⟩ := by
  unfold initLogging at installed
  dsimp only at installed
  split at installed
  · cases installed
  · split at installed
    · split at installed
      · cases installed
      · split at installed
        · cases installed
        · rename_i done
          cases installed
          exact log_of_install done
    · exact log_of_install installed

/-- A level that is accepted decides which records are kept, whatever their target is, unless it is
    written with a plus sign: then errors alone are kept. -/
theorem kept_of_initLogging (valid : s.defect? = none)
    (installed : h.initLogging s = (.ok (), h')) :
    ∃ threshold log, Threshold.parse? s.logLevel = some threshold ∧ h'.log = some log ∧
      (∀ target level, log.filter.allows target level =
        if s.logLevel.toList.head? = some '+' then Threshold.allows (some .error) level
        else threshold.allows level) ∧
      ((∀ target level, log.filter.allows target level = threshold.allows level) ↔
        (s.logLevel.toList.head? = some '+' → threshold = some .error)) := by
  obtain ⟨threshold, accepted⟩ : ∃ threshold, Threshold.parse? s.logLevel = some threshold := by
    unfold Config.Logging.defect? at valid
    split at valid
    · rename_i threshold accepted
      exact ⟨threshold, accepted⟩
    · cases valid
  have kept := fun target level =>
    Log.Filter.allows_ofLevel (Threshold.spells_of_ofChars? accepted) target level
  have set := log_of_initLogging installed
  generalize Log.Filter.ofLevel s.logLevel = filter at kept set
  refine ⟨threshold, ⟨filter, s.logFile, s.console⟩, accepted, set, kept, ?_⟩
  constructor
  · intro agree signed
    apply Eq.symm
    apply Threshold.eq_of_allows
    intro level
    rw [← agree "" level, kept, if_pos signed]
  · intro signed target level
    rw [kept]
    split
    · rename_i plus
      rw [signed plus]
    · rfl

theorem kept_of_initLogging_mixed :
    ({ logLevel := "TrACe" } : Config.Logging).defect? = none ∧
      ∃ log, (Host.initLogging {} { logLevel := "TrACe" }).2.log = some log ∧
        ∀ target level, log.filter.allows target level = true := by
  have valid : ({ logLevel := "TrACe" } : Config.Logging).defect? = none := by decide
  have read : Threshold.parse? "TrACe" = some (some .trace) := by decide
  have installed : Host.initLogging {} { logLevel := "TrACe" } =
      (.ok (), (Host.initLogging {} { logLevel := "TrACe" }).2) := rfl
  obtain ⟨threshold, log, accepted, set, kept, -⟩ := kept_of_initLogging valid installed
  obtain rfl : threshold = some .trace := Option.some.inj (accepted.symm.trans read)
  refine ⟨valid, log, set, ?_⟩
  intro target level
  have unsigned : "TrACe".toList.head? ≠ some '+' := by decide
  rw [kept target level, if_neg unsigned]
  cases level <;> rfl

/-- A level that is accepted as information is installed as errors alone. -/
theorem unkept_plus_three :
    ∃ (s : Config.Logging) (h' : Host) (log : ActiveLog),
      s.defect? = none ∧ Host.initLogging {} s = (.ok (), h') ∧ h'.log = some log ∧
      Threshold.parse? s.logLevel = some (some .info) ∧
      Threshold.allows (some .info) .info = true ∧
      log.filter.allows "simple_utcd::daemon" .info = false := by
  refine ⟨{ logLevel := "+3" }, { log := some ⟨.ofLevel "+3", none, true⟩ },
    ⟨.ofLevel "+3", none, true⟩, ?_, rfl, rfl, ?_⟩ <;> decide

end Host

end TimeServer
