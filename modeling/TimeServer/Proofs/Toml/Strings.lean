import TimeServer.Toml.Text.Reader
import TimeServer.Toml.Text.Writer

/-! # Writing and reading TOML strings

Every text is written as a string that is read as the text, whatever follows the string that is no
quote.

* `readBasic_escapeChar` — what stands for a character is read as the character;
* `readBasic_escape`, `readBasic_escape_lines` — the same for texts, on one line and over several;
* `readLiteral_line`, `readLiteral_lines` — texts that need no escape;
* `readString_writeString` — strings of every form.
-/

namespace TimeServer.Toml

open TimeServer.Text

variable {multiline : Bool} {c : Char} {cs rest : List Char}

/-- The text does not go on with a quote of either sort. -/
def Unquoted (rest : List Char) : Prop := ∀ c ∈ rest.head?, c ≠ '"' ∧ c ≠ '\''

/-! ## Reading one character -/

theorem readBasic_plain (unquoted : c ≠ '"') (unescaped : c ≠ '\\')
    (plain : isText c ∨ (multiline ∧ c = '\n')) :
    readBasic multiline .off (c :: cs) = push c (readBasic multiline .off cs) := by
  conv => lhs; unfold readBasic
  simp [unquoted, unescaped, plain]

theorem readBasic_escaped {d : Char} (escaped : escaped? c = some d) :
    readBasic multiline .off ('\\' :: c :: cs) = push d (readBasic multiline .off cs) := by
  have short : c ≠ 'u' := by
    rintro rfl
    cases escaped
  have long : c ≠ 'U' := by
    rintro rfl
    cases escaped
  conv => lhs; unfold readBasic
  simp [short, long, escaped]

theorem readBasic_numbered {c₁ c₂ c₃ c₄ : Char} (number : numbered? [c₁, c₂, c₃, c₄] = some c) :
    readBasic multiline .off ('\\' :: 'u' :: c₁ :: c₂ :: c₃ :: c₄ :: cs) =
      push c (readBasic multiline .off cs) := by
  conv => lhs; unfold readBasic
  simp [number]

theorem numbered?_numbered (small : c.toNat < 256) :
    numbered? ['0', '0', Digit.upper (c.toNat / 16), Digit.upper (c.toNat % 16)] = some c := by
  have high := Digit.value_upper (show c.toNat / 16 < 16 by omega)
  have low := Digit.value_upper (show c.toNat % 16 < 16 by omega)
  have zero : Digit.value '0' = 0 := rfl
  have number : Digit.number 16
      ['0', '0', Digit.upper (c.toNat / 16), Digit.upper (c.toNat % 16)] = c.toNat := by
    simp only [Digit.number, List.foldl, high, low, zero]
    omega
  have digits : (['0', '0', Digit.upper (c.toNat / 16), Digit.upper (c.toNat % 16)]).all
      (Digit.isDigit 16) := by
    simp only [List.all_cons, List.all_nil, Digit.isDigit, high, low, zero]
    simp
    omega
  have valid : c.toNat.isValidChar := c.valid
  rw [numbered?, number, if_pos ⟨digits, valid⟩, Char.ofNat_toNat]

/-- The three ways to write a character: as itself, as an escape or by its number. -/
theorem escapeChar_cases (multiline : Bool) (c : Char) :
    (escapeChar multiline c = [c] ∧ c ≠ '\\' ∧ (isText c ∨ (multiline ∧ c = '\n'))) ∨
      (∃ d, escapeChar multiline c = ['\\', d] ∧ escaped? d = some c) ∨
      (escapeChar multiline c = numbered c ∧ c.toNat < 256) := by
  unfold escapeChar
  split
  · subst c
    exact .inr (.inl ⟨_, rfl, rfl⟩)
  · rename_i unescaped
    split
    · subst c
      exact .inr (.inl ⟨_, rfl, rfl⟩)
    split
    · subst c
      exact .inr (.inl ⟨_, rfl, rfl⟩)
    split
    · subst c
      cases multiline with
      | true => exact .inl ⟨rfl, unescaped, .inr ⟨rfl, rfl⟩⟩
      | false => exact .inr (.inl ⟨_, rfl, rfl⟩)
    split
    · subst c
      exact .inr (.inl ⟨_, rfl, rfl⟩)
    split
    · subst c
      exact .inr (.inl ⟨_, rfl, rfl⟩)
    split
    · rename_i text
      exact .inl ⟨rfl, unescaped, .inl text⟩
    · rename_i control
      have small : c.toNat < 256 := by
        simp [isText] at control
        omega
      exact .inr (.inr ⟨rfl, small⟩)

theorem readBasic_escapeChar (unquoted : c ≠ '"') :
    readBasic multiline .off (escapeChar multiline c ++ cs) =
      push c (readBasic multiline .off cs) := by
  obtain ⟨written, unescaped, plain⟩ | ⟨d, written, escaped⟩ | ⟨written, small⟩ :=
    escapeChar_cases multiline c
  · rw [written]
    exact readBasic_plain unquoted unescaped plain
  · rw [written]
    exact readBasic_escaped escaped
  · rw [written]
    exact readBasic_numbered (numbered?_numbered small)

/-- What stands for a character begins with the character or with a backslash. -/
theorem head_escapeChar (multiline : Bool) (c : Char) : ∃ first more,
    escapeChar multiline c = first :: more ∧ (first = c ∨ first = '\\') := by
  obtain ⟨written, -, -⟩ | ⟨d, written, -⟩ | ⟨written, -⟩ := escapeChar_cases multiline c
  · exact ⟨c, [], written, .inl rfl⟩
  · exact ⟨'\\', [d], written, .inr rfl⟩
  · exact ⟨'\\', _, written, .inr rfl⟩

theorem return_notMem_escapeChar (multiline : Bool) (c : Char) :
    '\r' ∉ escapeChar multiline c := by
  have digit : ∀ n < 16, '\r' ≠ Digit.upper n := by decide
  obtain ⟨written, -, plain⟩ | ⟨d, written, escaped⟩ | ⟨written, small⟩ :=
    escapeChar_cases multiline c
  · rw [written, List.mem_singleton]
    rintro rfl
    exact plain.elim nofun nofun
  · rw [written]
    have other : '\r' ≠ d := by
      rintro rfl
      cases escaped
    simp [other]
  · have high := digit (c.toNat / 16) (by omega)
    have low := digit (c.toNat % 16) (by omega)
    simp [written, numbered, high, low]

/-! ## Basic strings -/

theorem readBasic_end : readBasic false .off ('"' :: rest) = some ([], rest) := by
  conv => lhs; unfold readBasic
  simp

theorem readBasic_escape (run : Nat) :
    readBasic false .off (escape false run cs ++ '"' :: rest) = some (cs, rest) := by
  induction cs generalizing run with
  | nil => exact readBasic_end
  | cons c cs ih =>
    by_cases quote : c = '"'
    · subst c
      have read : readBasic false .off ('\\' :: '"' :: (escape false 0 cs ++ '"' :: rest)) =
          push '"' (readBasic false .off (escape false 0 cs ++ '"' :: rest)) :=
        readBasic_escaped rfl
      rw [ih 0] at read
      simpa [escape, push] using read
    · simp only [escape, quote, if_false, List.append_assoc]
      rw [readBasic_escapeChar quote, ih 0]
      rfl

theorem readBasic_quote (inside : ∀ more, cs ≠ '"' :: '"' :: more) :
    readBasic true .off ('"' :: cs) = push '"' (readBasic true .off cs) := by
  conv => lhs; unfold readBasic
  simp only [ne_eq, not_true_eq_false, false_and, if_false, reduceCtorEq, if_true]

theorem readBasic_close :
    readBasic true .off ('"' :: '"' :: '"' :: cs) = some (closeQuotes '"' cs) := by
  conv => lhs; unfold readBasic
  simp

theorem closeQuotes_replicate {quote : Char} {count : Nat} (few : count ≤ 2)
    (stops : ∀ c ∈ rest.head?, c ≠ quote) :
    closeQuotes quote (List.replicate count quote ++ rest) =
      (List.replicate count quote, rest) := by
  obtain rfl | rfl | rfl : count = 0 ∨ count = 1 ∨ count = 2 := by omega
  · cases rest with
    | nil => rfl
    | cons c cs =>
      have other : c ≠ quote := stops c rfl
      cases cs <;> simp [closeQuotes, other]
  · cases rest with
    | nil => simp [closeQuotes]
    | cons c cs =>
      have other : c ≠ quote := stops c rfl
      simp [closeQuotes, other]
  · simp [closeQuotes]

theorem head_escape {run : Nat} (written : run < 2 → c ≠ '"') (more : List Char) :
    escape true run (c :: cs) ++ rest ≠ '"' :: more := by
  by_cases quote : c = '"'
  · have third : ¬ run < 2 := fun few => written few quote
    simp [escape, quote, third]
  · obtain ⟨first, tail, same, rfl | rfl⟩ := head_escapeChar true c <;>
      simp [escape, quote, same]

/-- No more than two quotes of a text come right before the closing ones, and no two others follow a
    quote that is written as itself. -/
theorem quotes_of_escape {run : Nat} (few : run < 2) (cs rest : List Char) :
    cs = [] ∨ run = 0 ∧ cs = ['"'] ∨
      ∀ more, escape true (run + 1) cs ++ rest ≠ '"' :: '"' :: more := by
  cases cs with
  | nil => exact .inl rfl
  | cons d ds =>
    by_cases inside : run + 1 < 2 → d ≠ '"'
    · exact .inr (.inr fun more => head_escape inside _)
    · -- A second quote can be written as itself; the text behind it cannot begin with a third.
      obtain ⟨first, rfl⟩ := Classical.not_imp.1 inside |>.imp_right Decidable.not_not.1
      obtain rfl : run = 0 := by omega
      cases ds with
      | nil => exact .inr (.inl ⟨rfl, rfl⟩)
      | cons e es =>
        refine .inr (.inr fun more same => ?_)
        have written : escape true 1 ('"' :: e :: es) = '"' :: escape true 2 (e :: es) := by
          simp [escape]
        rw [written, List.cons_append] at same
        exact head_escape (fun third => absurd third (Nat.lt_irrefl 2)) more (List.cons.inj same).2

theorem readBasic_escape_lines (stops : Unquoted rest) (run : Nat) :
    readBasic true .off (escape true run cs ++ '"' :: '"' :: '"' :: rest) = some (cs, rest) := by
  have unquoted : ∀ c ∈ rest.head?, c ≠ '"' := fun c member => (stops c member).1
  induction cs generalizing run with
  | nil =>
    have close := closeQuotes_replicate (Nat.zero_le 2) unquoted
    exact readBasic_close.trans (congrArg some close)
  | cons c cs ih =>
    by_cases quote : c = '"'
    · subst c
      -- A quote stands for itself unless it would be the third in a row.
      by_cases few : run < 2
      · have written : escape true run ('"' :: cs) = '"' :: escape true (run + 1) cs := by
          simp [escape, few]
        rw [written, List.cons_append]
        -- At the end of the text it joins the closing quotes, which are five at the most.
        obtain rfl | ⟨rfl, rfl⟩ | inside := quotes_of_escape few cs ('"' :: '"' :: '"' :: rest)
        · have close := closeQuotes_replicate (Nat.le_succ 1) unquoted
          exact readBasic_close.trans (congrArg some close)
        · have close := closeQuotes_replicate (Nat.le_refl 2) unquoted
          exact readBasic_close.trans (congrArg some close)
        · rw [readBasic_quote inside, ih (run + 1)]
          rfl
      · have read : readBasic true .off
            ('\\' :: '"' :: (escape true 0 cs ++ '"' :: '"' :: '"' :: rest)) =
              push '"' (readBasic true .off (escape true 0 cs ++ '"' :: '"' :: '"' :: rest)) :=
          readBasic_escaped rfl
        rw [ih 0] at read
        simpa [escape, push, few] using read
    · simp only [escape, quote, if_false, List.append_assoc]
      rw [readBasic_escapeChar quote, ih 0]
      rfl

/-! ## Literal strings -/

theorem readLiteral_plain (unquoted : c ≠ '\'') (plain : isText c ∨ (multiline ∧ c = '\n')) :
    readLiteral multiline (c :: cs) = push c (readLiteral multiline cs) := by
  conv => lhs; unfold readLiteral
  simp [unquoted, plain]

theorem readLiteral_line (unquoted : '\'' ∉ cs) (plain : ∀ c ∈ cs, isText c) :
    readLiteral false (cs ++ '\'' :: rest) = some (cs, rest) := by
  induction cs with
  | nil =>
    conv => lhs; unfold readLiteral
    simp
  | cons c cs ih =>
    obtain ⟨other, unquoted⟩ := not_or.1 (mt List.mem_cons.2 unquoted)
    obtain ⟨first, plain⟩ := List.forall_mem_cons.1 plain
    rw [List.cons_append, readLiteral_plain (Ne.symm other) (.inl first), ih unquoted plain]
    rfl

theorem readLiteral_quote (inside : ∀ more, cs ≠ '\'' :: '\'' :: more) :
    readLiteral true ('\'' :: cs) = push '\'' (readLiteral true cs) := by
  conv => lhs; unfold readLiteral
  simp only [if_true]

theorem readLiteral_close :
    readLiteral true ('\'' :: '\'' :: '\'' :: cs) = some (closeQuotes '\'' cs) := by
  conv => lhs; unfold readLiteral
  simp

theorem le_longestRun (quote : Char) (before : Nat) (cs : List Char) :
    before ≤ longestRun quote before cs := by
  induction cs generalizing before with
  | nil => exact Nat.le_refl before
  | cons c cs ih =>
    unfold longestRun
    split
    · exact Nat.le_of_succ_le (ih (before + 1))
    · exact Nat.le_max_left _ _

/-- No more than two quotes of such a text come right before the closing ones, and no two others
    follow another quote. -/
theorem quotes_of_longestRun {before : Nat} (cs rest : List Char)
    (few : longestRun '\'' (before + 1) cs ≤ 2) :
    cs = [] ∨ cs = ['\''] ∨ ∀ more, cs ++ rest ≠ '\'' :: '\'' :: more := by
  match cs with
  | [] => exact .inl rfl
  | [d] =>
    by_cases quote : d = '\''
    · exact .inr (.inl (by rw [quote]))
    · exact .inr (.inr fun more same => quote (List.cons.inj same).1)
  | d :: e :: es =>
    refine .inr (.inr fun more same => ?_)
    obtain ⟨rfl, tail⟩ := List.cons.inj same
    obtain ⟨rfl, -⟩ := List.cons.inj tail
    have third := le_longestRun '\'' (before + 1 + 1 + 1) es
    simp only [longestRun, if_true] at few
    omega

theorem readLiteral_lines (stops : Unquoted rest) (plain : ∀ c ∈ cs, isText c ∨ c = '\n')
    {before : Nat} (few : longestRun '\'' before cs ≤ 2) :
    readLiteral true (cs ++ '\'' :: '\'' :: '\'' :: rest) = some (cs, rest) := by
  have unquoted : ∀ c ∈ rest.head?, c ≠ '\'' := fun c member => (stops c member).2
  induction cs generalizing before with
  | nil =>
    have close := closeQuotes_replicate (Nat.zero_le 2) unquoted
    exact readLiteral_close.trans (congrArg some close)
  | cons c cs ih =>
    obtain ⟨first, others⟩ := List.forall_mem_cons.1 plain
    by_cases quote : c = '\''
    · subst c
      simp only [longestRun, if_true] at few
      rw [List.cons_append]
      obtain rfl | rfl | inside := quotes_of_longestRun cs ('\'' :: '\'' :: '\'' :: rest) few
      · have close := closeQuotes_replicate (Nat.le_succ 1) unquoted
        exact readLiteral_close.trans (congrArg some close)
      · have close := closeQuotes_replicate (Nat.le_refl 2) unquoted
        exact readLiteral_close.trans (congrArg some close)
      · rw [readLiteral_quote inside, ih others few]
        rfl
    · simp only [longestRun, quote, if_false] at few
      rw [List.cons_append, readLiteral_plain quote (by simpa using first),
        ih others (Nat.le_trans (Nat.le_max_right _ _) few)]
      rfl

/-! ## Strings of every form -/

namespace Form

/-- What a text must satisfy to be written in a form. -/
def Suits (cs : List Char) : Form → Prop
  | basic | basicLines => True
  | literal => cs ≠ [] ∧ '\'' ∉ cs ∧ ∀ c ∈ cs, isText c
  | literalLines => longestRun '\'' 0 cs ≤ 2 ∧ ∀ c ∈ cs, isText c ∨ c = '\n'

theorem suits_ofChars (cs : List Char) : (ofChars cs).Suits cs := by
  unfold ofChars
  split
  · split <;> trivial
  · rename_i none_hidden
    have plain : ∀ c ∈ cs, isText c ∨ c = '\n' := by
      intro c member
      have visible : isHidden c = false :=
        Bool.eq_false_iff.2 fun hidden => none_hidden (List.any_eq_true.2 ⟨c, member, hidden⟩)
      simpa [isHidden, Decidable.imp_iff_not_or] using visible
    split
    · trivial
    · rename_i not_basic
      split
      · rename_i one_line
        refine ⟨?_, one_line.1, fun c member => ?_⟩
        · rintro rfl
          simp at not_basic
        · obtain text | rfl := plain c member
          · exact text
          · exact absurd member one_line.2
      split
      · trivial
      split
      · rename_i few
        exact ⟨few, plain⟩
      split <;> trivial

end Form

theorem readString_line_basic (short : ∀ more, cs ≠ '"' :: '"' :: more) :
    readString ('"' :: cs) = readBasic false .off cs := by
  unfold readString
  split
  · rename_i more same
    exact absurd (List.cons.inj same).2 (short more)
  · rename_i same
    cases same
  · rfl

theorem readString_line_literal (short : ∀ more, cs ≠ '\'' :: '\'' :: more) :
    readString ('\'' :: cs) = readLiteral false cs := by
  unfold readString
  split
  · rename_i same
    cases same
  · rename_i more same
    exact absurd (List.cons.inj same).2 (short more)
  · rfl

theorem readString_basic (stops : Unquoted rest) :
    readString ('"' :: (escape false 0 cs ++ '"' :: rest)) = some (cs, rest) := by
  have short : ∀ more, escape false 0 cs ++ '"' :: rest ≠ '"' :: '"' :: more := by
    intro more same
    cases cs with
    | nil => exact (stops '"' (by simp [(List.cons.inj same).2])).1 rfl
    | cons c cs =>
      by_cases quote : c = '"'
      · simp [escape, quote] at same
      · obtain ⟨first, tail, written, rfl | rfl⟩ := head_escapeChar false c <;>
          simp_all [escape]
  rw [readString_line_basic short, readBasic_escape]

theorem readString_literal (nonempty : cs ≠ []) (unquoted : '\'' ∉ cs)
    (plain : ∀ c ∈ cs, isText c) :
    readString ('\'' :: (cs ++ '\'' :: rest)) = some (cs, rest) := by
  have short : ∀ more, cs ++ '\'' :: rest ≠ '\'' :: '\'' :: more := by
    intro more same
    obtain ⟨c, tail, rfl⟩ := List.exists_cons_of_ne_nil nonempty
    exact unquoted ((List.cons.inj same).1 ▸ List.mem_cons_self)
  rw [readString_line_literal short, readLiteral_line unquoted plain]

/-- A line end stands behind the opening quotes just if the text has one, and is dropped. -/
theorem dropLineEnd_start {body : List Char} (begins : body.head? = some '\n' → '\n' ∈ cs) :
    dropLineEnd ((if '\n' ∈ cs then ['\n'] else []) ++ body) = body := by
  split
  · rfl
  · rename_i absent
    unfold dropLineEnd
    split
    · rename_i same
      exact absurd (begins (congrArg List.head? same)) absent
    · rfl

theorem head_escape_lines (begins : (escape true 0 cs ++ '"' :: rest).head? = some '\n') :
    '\n' ∈ cs := by
  cases cs with
  | nil => simp [escape] at begins
  | cons c cs =>
    by_cases quote : c = '"'
    · simp [escape, quote] at begins
    · obtain ⟨first, tail, written, rfl | rfl⟩ := head_escapeChar true c <;>
        simp_all [escape]

theorem readString_basicLines (stops : Unquoted rest) :
    readString ('"' :: '"' :: '"' :: ((if '\n' ∈ cs then ['\n'] else []) ++
      (escape true 0 cs ++ '"' :: '"' :: '"' :: rest))) = some (cs, rest) := by
  rw [readString, dropLineEnd_start head_escape_lines, readBasic_escape_lines stops]

theorem readString_literalLines (stops : Unquoted rest) (plain : ∀ c ∈ cs, isText c ∨ c = '\n')
    (few : longestRun '\'' 0 cs ≤ 2) :
    readString ('\'' :: '\'' :: '\'' :: ((if '\n' ∈ cs then ['\n'] else []) ++
      (cs ++ '\'' :: '\'' :: '\'' :: rest))) = some (cs, rest) := by
  have begins : (cs ++ '\'' :: '\'' :: '\'' :: rest).head? = some '\n' → '\n' ∈ cs := by
    cases cs <;> simp_all
  rw [readString, dropLineEnd_start begins, readLiteral_lines stops plain few]

/-- Every text is written as a string that is read as the text, if no quote follows it. -/
theorem readString_writeString (stops : Unquoted rest) :
    readString (writeString cs ++ rest) = some (cs, rest) := by
  have suits := Form.suits_ofChars cs
  unfold writeString
  cases form : Form.ofChars cs with
  | basic => simpa [Form.quotes, writeBody] using readString_basic stops
  | literal =>
    rw [form] at suits
    obtain ⟨nonempty, unquoted, plain⟩ := suits
    simpa [Form.quotes, writeBody] using readString_literal nonempty unquoted plain
  | basicLines => simpa [Form.quotes, writeBody] using readString_basicLines stops
  | literalLines =>
    rw [form] at suits
    obtain ⟨few, plain⟩ := suits
    simpa [Form.quotes, writeBody] using readString_literalLines stops plain few

/-! ## What a string is made of -/

theorem head_writeString (cs : List Char) :
    ∃ quote more, writeString cs = quote :: more ∧ (quote = '"' ∨ quote = '\'') := by
  unfold writeString
  cases Form.ofChars cs with
  | basic => exact ⟨_, _, rfl, .inl rfl⟩
  | literal => exact ⟨_, _, rfl, .inr rfl⟩
  | basicLines => exact ⟨_, _, rfl, .inl rfl⟩
  | literalLines => exact ⟨_, _, rfl, .inr rfl⟩

theorem return_notMem_escape (multiline : Bool) (run : Nat) (cs : List Char) :
    '\r' ∉ escape multiline run cs := by
  induction cs generalizing run with
  | nil => simp [escape]
  | cons c cs ih =>
    unfold escape
    split
    · split <;> simp [ih]
    · simp [ih, return_notMem_escapeChar]

theorem return_notMem_writeString (cs : List Char) : '\r' ∉ writeString cs := by
  have suits := Form.suits_ofChars cs
  have start : '\r' ∉ if '\n' ∈ cs then ['\n'] else [] := by
    split <;> simp
  unfold writeString
  cases form : Form.ofChars cs with
  | basic => simp [Form.quotes, writeBody, return_notMem_escape]
  | literal =>
    rw [form] at suits
    have absent : '\r' ∉ cs := fun member => absurd (suits.2.2 '\r' member) (by decide)
    simp [Form.quotes, writeBody, absent]
  | basicLines => simp [Form.quotes, writeBody, return_notMem_escape, start]
  | literalLines =>
    rw [form] at suits
    have absent : '\r' ∉ cs := fun member => absurd (suits.2 '\r' member) (by decide)
    simp [Form.quotes, writeBody, absent, start]

end TimeServer.Toml
