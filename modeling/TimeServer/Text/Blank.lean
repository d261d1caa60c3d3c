/-! # White space

The characters with the Unicode property `White_Space`, and trimming by them.
-/

namespace TimeServer.Text

/-- Whether a character is white space in the sense of Unicode. -/
def isBlank (c : Char) : Bool :=
  let n := c.toNat
  (0x9 ≤ n && n ≤ 0xD) || n == 0x20 || n == 0x85 || n == 0xA0 || n == 0x1680 ||
    (0x2000 ≤ n && n ≤ 0x200A) || n == 0x2028 || n == 0x2029 || n == 0x202F || n == 0x205F ||
    n == 0x3000

theorem isBlank_of_isDigit {c : Char} (digit : c.isDigit) : isBlank c = false := by
  have bounds : 48 ≤ c.toNat ∧ c.toNat ≤ 57 := by
    simpa [Char.isDigit, UInt32.le_iff_toNat_le] using digit
  simp [isBlank]
  omega

def trimStart (cs : List Char) : List Char := cs.dropWhile isBlank

theorem exists_space (cs : List Char) :
    ∃ space, (∀ c ∈ space, isBlank c) ∧ cs = space ++ trimStart cs :=
  ⟨cs.takeWhile isBlank, List.all_eq_true.1 List.all_takeWhile,
    List.takeWhile_append_dropWhile.symm⟩

theorem trimStart_append {space : List Char} (blank : ∀ c ∈ space, isBlank c) (cs : List Char) :
    trimStart (space ++ cs) = trimStart cs :=
  List.dropWhile_append_of_pos blank

theorem trimStart_trimStart (cs : List Char) : trimStart (trimStart cs) = trimStart cs := by
  obtain ⟨space, blank, whole⟩ := exists_space cs
  calc trimStart (trimStart cs)
    _ = trimStart (space ++ trimStart cs) := (trimStart_append blank _).symm
    _ = trimStart cs := by rw [← whole]

theorem trimStart_digits {ds : List Char} (decimal : ∀ c ∈ ds, c.isDigit) (nonempty : ds ≠ [])
    (rest : List Char) : trimStart (ds ++ rest) = ds ++ rest := by
  obtain ⟨c, ds, rfl⟩ := List.exists_cons_of_ne_nil nonempty
  have visible : isBlank c = false := isBlank_of_isDigit (decimal c List.mem_cons_self)
  simp [trimStart, visible]

def dropEndWhile (p : Char → Bool) (cs : List Char) : List Char := (cs.reverse.dropWhile p).reverse

def trim (cs : List Char) : List Char := dropEndWhile isBlank (trimStart cs)

end TimeServer.Text
