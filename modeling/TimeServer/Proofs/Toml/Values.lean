import TimeServer.Proofs.Toml.Scalars
import TimeServer.Proofs.Toml.Strings
import TimeServer.Toml.Document.Writer

/-! # Writing and reading TOML values

The value of an entry is written as text that is read as the value, up to the end of its line.

* `Field.value` — the value that an entry is read as;
* `readElements_lines` — the elements of an array, each on a line of its own;
* `readValue_write` — values of every kind.
-/

namespace TimeServer.Toml

open TimeServer.Text

variable {depth limit : Nat} {c : Char} {cs rest : List Char}

namespace Field

/-- The value of an entry, as a document gives it. -/
def value : Field → Value
  | text t => .string t
  | number n => .integer n
  | flag b => .boolean b
  | texts ts => .array (ts.map .string)

end Field

/-! ## One value by its first character -/

theorem readValue_quoted (quote : c = '"' ∨ c = '\'') :
    readValue depth (c :: cs) =
      (readString (c :: cs)).map fun read => (.string (String.ofList read.1), read.2) := by
  obtain rfl | rfl := quote
  · cases depth <;> (simp only [readValue, Option.map_eq_bind]; rfl)
  · cases depth <;> (simp only [readValue, Option.map_eq_bind]; rfl)

theorem readValue_bare {run : List Char} (nonempty : run ≠ []) (bare : ∀ c ∈ run, isBare c) :
    readValue depth (run ++ rest) = readScalar (run ++ rest) := by
  obtain ⟨c, cs, rfl⟩ := List.exists_cons_of_ne_nil nonempty
  have other : ∀ d, isBare d = false → c ≠ d := by
    rintro d foreign rfl
    rw [bare c List.mem_cons_self] at foreign
    cases foreign
  cases depth <;>
    simp [readValue, other '[' rfl, other '{' rfl, other '"' rfl, other '\'' rfl]

theorem readValue_array {elements : List Value}
    (read : readElements (readValue depth) (cs.length + 1) cs = some (elements, rest)) :
    readValue (depth + 1) ('[' :: cs) = some (.array elements, rest) := by
  simp [readValue, read]

theorem readValue_writeString (stops : Unquoted rest) (t : String) :
    readValue depth (writeString t.toList ++ rest) = some (.string t, rest) := by
  have read : readString (writeString t.toList ++ rest) = some (t.toList, rest) :=
    readString_writeString stops
  obtain ⟨quote, more, begins, quoted⟩ := head_writeString t.toList
  rw [begins, List.cons_append] at read ⊢
  rw [readValue_quoted quoted, read, Option.map_some, String.ofList_toList]

/-! ## Arrays of texts -/

theorem skipLayout_writeString (t : String) :
    skipLayout false (writeString t.toList ++ rest) = writeString t.toList ++ rest := by
  obtain ⟨quote, more, begins, rfl | rfl⟩ := head_writeString t.toList <;>
    simp [begins, skipLayout, isBlank]

theorem readElements_end (closes : skipLayout false cs = ']' :: rest) :
    readElements (readValue depth) (limit + 1) cs = some ([], rest) := by
  simp [readElements, closes]

theorem writeString_ne_bracket (more : List Char) : writeString cs ++ rest ≠ ']' :: more := by
  obtain ⟨quote, tail, begins, rfl | rfl⟩ := head_writeString cs <;> simp [begins]

section Element

variable {t : String} (unquoted : Unquoted rest)
  (begins : skipLayout false cs = writeString t.toList ++ rest)

include unquoted begins

theorem readElements_last {after : List Char} (closes : skipLayout false rest = ']' :: after) :
    readElements (readValue depth) (limit + 1) cs = some ([.string t], after) := by
  rw [readElements, begins]
  split
  · rename_i closed
    exact absurd closed (writeString_ne_bracket _)
  · simp [readValue_writeString unquoted, closes]

theorem readElements_comma {after : List Char} (goes_on : skipLayout false rest = ',' :: after) :
    readElements (readValue depth) (limit + 1) cs =
      (readElements (readValue depth) limit after).map
        fun read => (.string t :: read.1, read.2) := by
  rw [readElements, begins]
  split
  · rename_i closed
    exact absurd closed (writeString_ne_bracket _)
  · simp only [readValue_writeString unquoted, Option.bind_eq_bind, Option.bind_some, goes_on,
      Option.map_eq_bind]
    rfl

end Element

namespace Field

/-- One element of an array, on a line of its own. -/
def writeLine (t : String) : List Char := "    ".toList ++ writeString t.toList ++ [',', '\n']

theorem length_le_writeLines (ts : List String) : ts.length ≤ (ts.flatMap writeLine).length := by
  induction ts with
  | nil => exact Nat.le_refl 0
  | cons t ts ih =>
    simp only [List.flatMap_cons, List.length_append, List.length_cons, writeLine]
    omega

theorem writeTexts_lines (t u : String) (ts : List String) :
    writeTexts (t :: u :: ts) =
      '[' :: '\n' :: ((t :: u :: ts).flatMap writeLine ++ [']']) := rfl

end Field

theorem readElements_lines {ts : List String} (enough : ts.length < limit) :
    readElements (readValue depth) limit ('\n' :: (ts.flatMap Field.writeLine ++ ']' :: rest)) =
      some (ts.map .string, rest) := by
  induction ts generalizing limit with
  | nil =>
    obtain ⟨limit, rfl⟩ := Nat.exists_eq_add_of_lt enough
    exact readElements_end rfl
  | cons t ts ih =>
    -- What is left behind the comma begins with a line end again, and the limit is one less.
    obtain ⟨limit, rfl⟩ : ∃ l, limit = l + 1 := Nat.exists_eq_succ_of_ne_zero (by omega)
    have unquoted : Unquoted (',' :: '\n' :: (ts.flatMap Field.writeLine ++ ']' :: rest)) := by
      simp [Unquoted]
    have begins : skipLayout false
        ('\n' :: ((t :: ts).flatMap Field.writeLine ++ ']' :: rest)) =
          writeString t.toList ++ ',' :: '\n' :: (ts.flatMap Field.writeLine ++ ']' :: rest) := by
      simp [Field.writeLine, skipLayout, isBlank, skipLayout_writeString]
    have others := ih (Nat.lt_of_succ_lt_succ enough)
    rw [readElements_comma unquoted begins rfl, others, Option.map_some, List.map_cons]

/-! ## Values of every kind -/

theorem readValue_writeTexts (ts : List String) :
    readValue (depth + 1) (Field.writeTexts ts ++ rest) =
      some (.array (ts.map .string), rest) := by
  match ts with
  | [] => exact readValue_array (readElements_end rfl)
  | [t] =>
    have unquoted : Unquoted (']' :: rest) := by simp [Unquoted]
    have written : Field.writeTexts [t] ++ rest = '[' :: (writeString t.toList ++ ']' :: rest) := by
      simp [Field.writeTexts]
    rw [written]
    exact readValue_array (readElements_last unquoted (skipLayout_writeString t) rfl)
  | t :: u :: ts =>
    have written : Field.writeTexts (t :: u :: ts) ++ rest =
        '[' :: '\n' :: ((t :: u :: ts).flatMap Field.writeLine ++ ']' :: rest) := by
      simp [Field.writeTexts_lines]
    -- The limit is the length of the text, and no element is empty.
    have enough := Field.length_le_writeLines (t :: u :: ts)
    rw [written]
    refine readValue_array (readElements_lines ?_)
    simp only [List.length_cons, List.length_append] at enough ⊢
    omega

theorem readValue_write {f : Field} (writable : f.isWritable) :
    readValue (depth + 1) (f.write ++ '\n' :: rest) = some (f.value, '\n' :: rest) := by
  have unquoted : Unquoted ('\n' :: rest) := by simp [Unquoted]
  have stops : ∀ c ∈ ('\n' :: rest).head?, isBare c = false := by simp [isBare]
  cases f with
  | text t => exact readValue_writeString unquoted t
  | number n =>
    have fits : n ≤ Int64.maxValue.toInt := by simpa [Field.isWritable] using writable
    have bare : ∀ c ∈ Decimal.digits n, isBare c := fun _ => isBare_of_mem_digits
    exact (readValue_bare (Decimal.digits_ne_nil n) bare).trans (readScalar_digits fits stops)
  | flag b =>
    have bare : ∀ c ∈ (Field.flag b).write, isBare c := by
      cases b <;> exact List.all_eq_true.1 rfl
    have nonempty : (Field.flag b).write ≠ [] := by cases b <;> decide
    exact (readValue_bare nonempty bare).trans (readScalar_flag b stops)
  | texts ts => exact readValue_writeTexts ts

/-! ## What a value is made of -/

namespace Field

theorem head_write (f : Field) : ∃ c more, f.write = c :: more ∧ isBlank c = false := by
  cases f with
  | text t =>
    obtain ⟨quote, more, begins, rfl | rfl⟩ := head_writeString t.toList <;>
      exact ⟨_, more, begins, rfl⟩
  | number n =>
    obtain ⟨c, more, begins⟩ := List.exists_cons_of_ne_nil (Decimal.digits_ne_nil n)
    have digit : c.isDigit := Decimal.isDigit_of_mem_digits (begins ▸ List.mem_cons_self)
    refine ⟨c, more, begins, Bool.eq_false_iff.2 fun blank => ?_⟩
    obtain rfl | rfl : c = ' ' ∨ c = '\t' := by simpa [isBlank] using blank
    · exact absurd digit (by decide)
    · exact absurd digit (by decide)
  | flag b =>
    cases b with
    | false => exact ⟨'f', _, rfl, rfl⟩
    | true => exact ⟨'t', _, rfl, rfl⟩
  | texts ts =>
    match ts with
    | [] => exact ⟨'[', _, rfl, rfl⟩
    | [t] => exact ⟨'[', _, rfl, rfl⟩
    | t :: u :: ts => exact ⟨'[', _, rfl, rfl⟩

theorem return_notMem_write (f : Field) : '\r' ∉ f.write := by
  cases f with
  | text t => exact return_notMem_writeString t.toList
  | number n => exact fun member => absurd (Decimal.isDigit_of_mem_digits member) (by decide)
  | flag b => cases b <;> decide
  | texts ts =>
    match ts with
    | [] => decide
    | [t] => simp [write, writeTexts, return_notMem_writeString]
    | t :: u :: ts => simp [write, writeTexts_lines, writeLine, return_notMem_writeString]

end Field

end TimeServer.Toml
