import TimeServer.Text.Split
import TimeServer.Toml.Value.Reader

/-! # Reading plain numbers and truth values

* `takeDate?_of_digits`, `takeTime?_of_digits`, `isFloat_of_digits` — digits alone are no date, no
  time and no floating-point number;
* `integer?_digits` — they are the number that they denote;
* `readScalar_digits`, `readScalar_flag` — numbers and truth values, whatever follows them that is
  no part of a bare value.
-/

namespace TimeServer.Toml

open TimeServer.Text

variable {ds rest : List Char}

/-! ## Digits that are no dates, times or floats -/

theorem takeMark?_of_digits {mark : Char} (decimal : ∀ c ∈ ds, c.isDigit)
    (other : mark.isDigit = false) : takeMark? mark ds = none := by
  cases ds with
  | nil => rfl
  | cons c cs =>
    have digit := decimal c List.mem_cons_self
    have unmarked : c ≠ mark := by
      rintro rfl
      rw [other] at digit
      cases digit
    simp [takeMark?, unmarked]

theorem takeNumber?_cases (width : Nat) (cs : List Char) :
    takeNumber? width cs = none ∨ ∃ n, takeNumber? width cs = some (n, cs.drop width) := by
  by_cases decimal : (cs.take width).length = width ∧ (cs.take width).all Char.isDigit
  · exact .inr ⟨_, if_pos decimal⟩
  · exact .inl (if_neg decimal)

theorem drop_decimal (decimal : ∀ c ∈ ds, c.isDigit) (count : Nat) :
    ∀ c ∈ ds.drop count, c.isDigit :=
  fun c member => decimal c (List.mem_of_mem_drop member)

theorem takeDate?_of_digits (decimal : ∀ c ∈ ds, c.isDigit) : takeDate? ds = none := by
  have unmarked : takeMark? '-' (ds.drop 4) = none :=
    takeMark?_of_digits (drop_decimal decimal 4) rfl
  obtain short | ⟨year, read⟩ := takeNumber?_cases 4 ds
  · simp [takeDate?, short]
  · simp [takeDate?, read, unmarked]

theorem takeTime?_of_digits (decimal : ∀ c ∈ ds, c.isDigit) : takeTime? ds = none := by
  have unmarked : takeMark? ':' (ds.drop 2) = none :=
    takeMark?_of_digits (drop_decimal decimal 2) rfl
  obtain short | ⟨hour, read⟩ := takeNumber?_cases 2 ds
  · simp [takeTime?, takeHourMinute?, short]
  · simp [takeTime?, takeHourMinute?, read, unmarked]

theorem splitSign_of_digits (decimal : ∀ c ∈ ds, c.isDigit) : splitSign ds = (false, ds) := by
  unfold splitSign
  split
  · exact absurd (decimal '-' List.mem_cons_self) (by decide)
  · exact absurd (decimal '+' List.mem_cons_self) (by decide)
  · rfl

theorem isFloat_of_digits (decimal : ∀ c ∈ ds, c.isDigit) : isFloat ds = false := by
  have unnamed : ¬ (ds = ['i', 'n', 'f'] ∨ ds = ['n', 'a', 'n']) := by
    rintro (rfl | rfl)
    · exact absurd (decimal 'i' List.mem_cons_self) (by decide)
    · exact absurd (decimal 'n' List.mem_cons_self) (by decide)
  have parts : ∀ c ∈ ds, c.isDigit || c = '_' := fun c member => by simp [decimal c member]
  have nothing : ∀ c ∈ ([] : List Char).head?, (c.isDigit || c = '_') = false := nofun
  have whole : ds.dropWhile (fun c => c.isDigit || c = '_') = [] := by
    simpa using dropWhile_run parts nothing
  simp only [isFloat, splitSign_of_digits decimal, if_neg unnamed, whole, if_true]

/-! ## Numbers -/

theorem ofGrouped?_of_digits (nonempty : ds ≠ []) (decimal : ∀ c ∈ ds, c.isDigit) :
    ofGrouped? Char.isDigit ds = some ds := by
  fun_induction ofGrouped? Char.isDigit ds with
  | case1 => exact absurd rfl nonempty
  | case2 c digit => rfl
  | case3 c other => exact absurd (decimal c List.mem_cons_self) other
  | case4 c cs digit ih =>
    exact absurd (decimal '_' (List.mem_cons_of_mem c List.mem_cons_self)) (by decide)
  | case5 c cs other => exact absurd (decimal c List.mem_cons_self) other
  | case6 c cs single grouped digit ih =>
    rw [ih single fun d member => decimal d (List.mem_cons_of_mem c member), Option.map_some]
  | case7 c cs single grouped other => exact absurd (decimal c List.mem_cons_self) other

/-- The digits of a number stand for themselves: only those of zero begin with a zero. -/
theorem wholeDigits?_digits (n : Nat) :
    wholeDigits? (Decimal.digits n) = some (Decimal.digits n) := by
  have read := ofGrouped?_of_digits (Decimal.digits_ne_nil n) fun _ => Decimal.isDigit_of_mem_digits
  unfold wholeDigits?
  rw [read]
  split
  · rename_i zero
    exact zero.symm
  · rename_i more several zero
    have head : (Decimal.digits n).head? = some '0' := by rw [Option.some.inj zero, List.head?_cons]
    obtain rfl := Decimal.eq_zero_of_head_digits head
    exact absurd (List.cons.inj (Option.some.inj zero)).2.symm fun none => several (none ▸ rfl)
  · rfl

/-- The digits of a number that fits in a signed word are read as the number. -/
theorem integer?_digits {n : Nat} (fits : n ≤ Int64.maxValue.toInt) :
    integer? (Decimal.digits n) = some n := by
  have decimal : ∀ c ∈ Decimal.digits n, c.isDigit := fun _ => Decimal.isDigit_of_mem_digits
  unfold integer?
  split
  · rename_i base
    exact absurd (decimal 'x' (by simp [base])) (by decide)
  · rename_i base
    exact absurd (decimal 'o' (by simp [base])) (by decide)
  · rename_i base
    exact absurd (decimal 'b' (by simp [base])) (by decide)
  · simp [splitSign_of_digits decimal, wholeDigits?_digits, Decimal.value_digits, fitting?,
      fits]

/-! ## Values without quotes and brackets -/

theorem scalar?_digits {n : Nat} (fits : n ≤ Int64.maxValue.toInt) :
    scalar? (Decimal.digits n) = some (.integer n) := by
  have decimal : ∀ c ∈ Decimal.digits n, c.isDigit := fun _ => Decimal.isDigit_of_mem_digits
  have unlike_true : Decimal.digits n ≠ ['t', 'r', 'u', 'e'] := fun same =>
    absurd (decimal 't' (by simp [same])) (by decide)
  have unlike_false : Decimal.digits n ≠ ['f', 'a', 'l', 's', 'e'] := fun same =>
    absurd (decimal 'f' (by simp [same])) (by decide)
  simp [scalar?, unlike_true, unlike_false, isTime, isDateTime, takeDate?_of_digits decimal,
    takeTime?_of_digits decimal, isFloat_of_digits decimal, integer?_digits fits]

/-- A run of bare characters that is no date is read as the value that it denotes. -/
theorem readScalar_run {run : List Char} (bare : ∀ c ∈ run, isBare c)
    (stops : ∀ c ∈ rest.head?, isBare c = false) (undated : takeDate? run = none) :
    readScalar (run ++ rest) = (scalar? run).map fun value => (value, rest) := by
  simp [readScalar, takeWhile_run bare stops, dropWhile_run bare stops, isDate, undated]

theorem isBare_of_mem_digits {n : Nat} {c : Char} (member : c ∈ Decimal.digits n) : isBare c := by
  simp [isBare, Char.isAlphanum, Decimal.isDigit_of_mem_digits member]

theorem readScalar_digits {n : Nat} (fits : n ≤ Int64.maxValue.toInt)
    (stops : ∀ c ∈ rest.head?, isBare c = false) :
    readScalar (Decimal.digits n ++ rest) = some (.integer n, rest) := by
  have undated := takeDate?_of_digits fun c (member : c ∈ Decimal.digits n) =>
    Decimal.isDigit_of_mem_digits member
  rw [readScalar_run (fun _ => isBare_of_mem_digits) stops undated, scalar?_digits fits,
    Option.map_some]

theorem readScalar_flag (b : Bool) (stops : ∀ c ∈ rest.head?, isBare c = false) :
    readScalar ((if b then "true".toList else "false".toList) ++ rest) =
      some (.boolean b, rest) := by
  cases b with
  | false =>
    have bare : ∀ c ∈ "false".toList, isBare c := List.all_eq_true.1 rfl
    exact readScalar_run bare stops (by decide)
  | true =>
    have bare : ∀ c ∈ "true".toList, isBare c := List.all_eq_true.1 rfl
    exact readScalar_run bare stops (by decide)

end TimeServer.Toml
