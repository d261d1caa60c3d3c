/-! # Digits of any base up to sixteen

* `value` — what one digit is worth;
* `isDigit` — whether a character is a digit of a base;
* `number` — what a run of digits denotes in a base;
* `upper` — the digit, in capitals, that is worth so much;
* `number_toDigits` — the digits of a number denote it.
-/

namespace TimeServer.Text.Digit

/-- What a digit is worth; 16 for a character that is none. -/
def value (c : Char) : Nat :=
  if c.isDigit then c.toNat - '0'.toNat
  else if 'a' ≤ c ∧ c ≤ 'f' then c.toNat - 'a'.toNat + 10
  else if 'A' ≤ c ∧ c ≤ 'F' then c.toNat - 'A'.toNat + 10
  else 16

def isDigit (base : Nat) (c : Char) : Bool := value c < base

def number (base : Nat) (ds : List Char) : Nat := ds.foldl (fun n c => n * base + value c) 0

/-- The digit that is worth `n`, in capitals. -/
def upper (n : Nat) : Char :=
  if n < 10 then Char.ofNat ('0'.toNat + n) else Char.ofNat ('A'.toNat + (n - 10))

theorem value_upper {n : Nat} (h : n < 16) : value (upper n) = n :=
  (by decide : ∀ n < 16, value (upper n) = n) n h

/-! ## The digits of a number -/

theorem value_digitChar {n : Nat} (h : n < 16) : value n.digitChar = n :=
  (by decide : ∀ n < 16, value n.digitChar = n) n h

theorem number_concat (base : Nat) (ds : List Char) (c : Char) :
    number base (ds ++ [c]) = number base ds * base + value c := by
  simp [number]

section Base

variable {base : Nat} (several : 1 < base) (few : base ≤ 16)

include several few

theorem isDigit_of_mem_toDigits {n : Nat} {c : Char} (member : c ∈ Nat.toDigits base n) :
    isDigit base c := by
  have digit : ∀ m < base, isDigit base m.digitChar := by
    intro m small
    simpa [isDigit, value_digitChar (Nat.lt_of_lt_of_le small few)] using small
  induction n using Nat.strongRecOn with
  | ind n ih =>
    rw [Nat.toDigits_eq_if several] at member
    split at member
    · rename_i small
      rw [List.mem_singleton.1 member]
      exact digit n small
    · rename_i large
      have smaller : n / base < n := Nat.div_lt_self (by omega) several
      obtain front | last := List.mem_append.1 member
      · exact ih (n / base) smaller front
      · rw [List.mem_singleton.1 last]
        exact digit _ (Nat.mod_lt n (by omega))

theorem number_toDigits (n : Nat) : number base (Nat.toDigits base n) = n := by
  induction n using Nat.strongRecOn with
  | ind n ih =>
    rw [Nat.toDigits_eq_if several]
    split
    · rename_i small
      simp [number, value_digitChar (Nat.lt_of_lt_of_le small few)]
    · rename_i large
      have smaller : n / base < n := Nat.div_lt_self (by omega) several
      have last : n % base < 16 := Nat.lt_of_lt_of_le (Nat.mod_lt n (by omega)) few
      rw [number_concat, ih (n / base) smaller, value_digitChar last, Nat.mul_comm,
        Nat.div_add_mod]

end Base

end TimeServer.Text.Digit
