/-! # Splitting text

* `splitAtMark` — the parts between the occurrences of a mark;
* `takeWhile_run`, `dropWhile_run` — the longest run of a class of characters and what follows it.
-/

namespace TimeServer.Text

/-- The parts of a text between the occurrences of a mark; one part if there is none. -/
def splitAtMark (mark : Char) : List Char → List (List Char)
  | [] => [[]]
  | c :: cs =>
    if c = mark then [] :: splitAtMark mark cs
    else
      match splitAtMark mark cs with
      | [] => [[c]]
      | part :: parts => (c :: part) :: parts

theorem intercalate_splitAtMark (mark : Char) (cs : List Char) :
    [mark].intercalate (splitAtMark mark cs) = cs := by
  induction cs with
  | nil => simp [splitAtMark]
  | cons c cs ih =>
    unfold splitAtMark
    split
    · rename_i h
      subst h
      cases hs : splitAtMark c cs with
      | nil => rw [hs] at ih; simp at ih; subst ih; simp [splitAtMark] at hs
      | cons part parts => rw [hs] at ih; simp [List.intercalate, ← ih]
    · cases hs : splitAtMark mark cs with
      | nil => rw [hs] at ih; simp at ih; subst ih; simp [splitAtMark] at hs
      | cons part parts =>
        rw [hs] at ih
        cases parts <;> simp_all [List.intercalate]

/-! ## Runs -/

section Runs

variable {p : Char → Bool} {run rest : List Char}

theorem takeWhile_run (inside : ∀ c ∈ run, p c) (stops : ∀ c ∈ rest.head?, p c = false) :
    (run ++ rest).takeWhile p = run := by
  rw [List.takeWhile_append_of_pos inside]
  cases rest with
  | nil => simp
  | cons c cs => simp [stops c rfl]

theorem dropWhile_run (inside : ∀ c ∈ run, p c) (stops : ∀ c ∈ rest.head?, p c = false) :
    (run ++ rest).dropWhile p = rest := by
  rw [List.dropWhile_append_of_pos inside]
  cases rest with
  | nil => rfl
  | cons c cs => simp [stops c rfl]

end Runs

end TimeServer.Text
