/-! # Decimal text

Natural numbers as ASCII decimal text, over lists of characters.

* `digits` — the digits of a number, most significant first, no leading zero;
* `padded` — the same, filled up with zeros to a width;
* `value` — the number that a run of digits denotes, and `value_digits`, `value_padded`: it inverts
  both;
* `takeDigits` — splits off the longest run of at most so many digits, `IsRun`.
-/

namespace TimeServer.Text.Decimal

def digits (n : Nat) : List Char := Nat.toDigits 10 n

def padded (width n : Nat) : List Char :=
  List.replicate (width - (digits n).length) '0' ++ digits n

def value (ds : List Char) : Nat := Nat.ofDigitChars 10 ds 0

/-- Splits off the longest run of at most `limit` ASCII digits. -/
def takeDigits : (limit : Nat) → List Char → List Char × List Char
  | 0, cs => ([], cs)
  | _ + 1, [] => ([], [])
  | limit + 1, c :: cs =>
    if c.isDigit then
      let (ds, rest) := takeDigits limit cs
      (c :: ds, rest)
    else ([], c :: cs)

theorem value_digits (n : Nat) : value (digits n) = n := Nat.ofDigitChars_ten_toDigits

theorem isDigit_of_mem_digits {n : Nat} {c : Char} (member : c ∈ digits n) : c.isDigit :=
  Nat.isDigit_of_mem_toDigits (by decide) (by decide) member

theorem digits_ne_nil (n : Nat) : digits n ≠ [] :=
  List.ne_nil_of_length_pos Nat.length_toDigits_pos

theorem eq_zero_of_head_digits {n : Nat} (zero : (digits n).head? = some '0') : n = 0 := by
  induction n using Nat.strongRecOn with
  | ind n ih =>
    rw [digits, Nat.toDigits_eq_if (by decide)] at zero
    split at zero
    · rename_i small
      exact (by decide : ∀ m < 10, [m.digitChar].head? = some '0' → m = 0) n small zero
    · rename_i large
      obtain ⟨c, cs, front⟩ := List.exists_cons_of_ne_nil (digits_ne_nil (n / 10))
      rw [digits] at front
      rw [front, List.cons_append, List.head?_cons] at zero
      have tenth := ih (n / 10) (by omega) (by rw [digits, front, List.head?_cons, zero])
      omega

theorem value_padded (width n : Nat) : value (padded width n) = n := by
  rw [padded, value, Nat.ofDigitChars_append, Nat.ofDigitChars_replicate_zero, Nat.mul_zero]
  exact value_digits n

theorem isDigit_of_mem_padded {width n : Nat} {c : Char} (member : c ∈ padded width n) :
    c.isDigit := by
  obtain zero | digit := List.mem_append.1 member
  · rw [List.eq_of_mem_replicate zero]
    rfl
  · exact isDigit_of_mem_digits digit

theorem length_padded {width n : Nat} (few : (digits n).length ≤ width) :
    (padded width n).length = width := by
  rw [padded, List.length_append, List.length_replicate, Nat.sub_add_cancel few]

/-! ## Runs of digits -/

/-- These are digits, at most so many of them, and no run of as few in front of the rest is
    longer. -/
structure IsRun (limit : Nat) (ds rest : List Char) : Prop where
  decimal : ∀ c ∈ ds, c.isDigit
  few : ds.length ≤ limit
  longest : ds.length < limit → ∀ c ∈ rest.head?, c.isDigit = false

theorem takeDigits_append (limit : Nat) (cs : List Char) :
    (takeDigits limit cs).1 ++ (takeDigits limit cs).2 = cs := by
  induction limit generalizing cs with
  | zero => simp [takeDigits]
  | succ limit ih =>
    cases cs with
    | nil => simp [takeDigits]
    | cons c cs =>
      by_cases h : c.isDigit
      · simp [takeDigits, h, ih]
      · simp [takeDigits, h]

theorem isRun_takeDigits (limit : Nat) (cs : List Char) :
    IsRun limit (takeDigits limit cs).1 (takeDigits limit cs).2 := by
  fun_induction takeDigits limit cs with
  | case1 cs => exact ⟨nofun, Nat.le_refl 0, nofun⟩
  | case2 limit => exact ⟨nofun, Nat.zero_le _, fun _ => nofun⟩
  | case3 limit c cs digit ds rest taken ih =>
    rw [taken] at ih
    refine ⟨?_, Nat.succ_le_succ ih.few, fun short => ih.longest (Nat.lt_of_succ_lt_succ short)⟩
    intro c' member
    obtain rfl | member := List.mem_cons.1 member
    · exact digit
    · exact ih.decimal c' member
  | case4 limit c cs other =>
    refine ⟨nofun, Nat.zero_le _, fun _ => ?_⟩
    rintro _ ⟨⟩
    exact Bool.eq_false_iff.2 other

theorem takeDigits_of_isRun {limit : Nat} {ds rest : List Char} (run : IsRun limit ds rest) :
    takeDigits limit (ds ++ rest) = (ds, rest) := by
  induction ds generalizing limit with
  | nil =>
    cases limit with
    | zero => rfl
    | succ limit =>
      cases rest with
      | nil => rfl
      | cons c cs => simp [takeDigits, run.longest (Nat.succ_pos _) c rfl]
  | cons c ds ih =>
    cases limit with
    | zero => exact absurd run.few (Nat.not_succ_le_zero _)
    | succ limit =>
      have shorter : IsRun limit ds rest :=
        ⟨fun c' member => run.decimal c' (List.mem_cons_of_mem c member),
          Nat.le_of_succ_le_succ run.few, fun short => run.longest (Nat.succ_lt_succ short)⟩
      simp [takeDigits, run.decimal c List.mem_cons_self, ih shorter]

end TimeServer.Text.Decimal
