import TimeServer.Proofs.Toml.Values
import TimeServer.Text.Split
import TimeServer.Toml.Document.Reader

/-! # Writing and reading TOML documents

A document that is written from sections is read as a table of tables, one for each section.

* `readStatement_headerLine`, `readStatement_entryLine` — one line, with a `PlainKey`;
* `Yields`, `yields_write`, `yields_writeAll` — the statements of a text, and those of sections;
* `Document.foldlM_add?_section`, `Document.foldlM_add?_sections` — what the statements of sections
  add to a document;
* `parseChars?_writeAll`, `parseChars?_comment` — whole documents, and those that begin with a
  comment.
-/

namespace TimeServer.Toml

open TimeServer.Text

variable {cs rest : List Char} {c : Char} {key : String}

theorem skipBlanks_visible (visible : isBlank c = false) : skipBlanks (c :: cs) = c :: cs := by
  simp [skipBlanks, visible]

theorem skipBlanks_line_end : skipBlanks ('\n' :: cs) = '\n' :: cs := skipBlanks_visible rfl

/-! ## Keys -/

/-- The key may be written without quotes. -/
def PlainKey (key : String) : Prop := key.toList ≠ [] ∧ ∀ c ∈ key.toList, isPlain c

instance : DecidablePred PlainKey := fun key =>
  decidable_of_iff (key.toList ≠ [] ∧ key.toList.all isPlain)
    (and_congr_right fun _ => List.all_eq_true)

theorem PlainKey.head (plain : PlainKey key) : ∃ c cs, key.toList = c :: cs ∧
    ∀ d, isPlain d = false → c ≠ d := by
  obtain ⟨c, cs, first⟩ := List.exists_cons_of_ne_nil plain.1
  refine ⟨c, cs, first, ?_⟩
  rintro d foreign rfl
  rw [plain.2 c (first ▸ List.mem_cons_self)] at foreign
  cases foreign

theorem PlainKey.skipBlanks (plain : PlainKey key) :
    skipBlanks (key.toList ++ rest) = key.toList ++ rest := by
  obtain ⟨c, cs, first, other⟩ := plain.head
  have visible : isBlank c = false := by simp [isBlank, other ' ' rfl, other '\t' rfl]
  rw [first]
  exact skipBlanks_visible visible

theorem readKey_plain (plain : PlainKey key) (stops : ∀ c ∈ rest.head?, isPlain c = false) :
    readKey (key.toList ++ rest) = some (key, rest) := by
  obtain ⟨c, cs, first, other⟩ := plain.head
  unfold readKey
  split
  · rename_i quote
    rw [first] at quote
    exact absurd (List.cons.inj quote).1 (other '"' rfl)
  · rename_i quote
    rw [first] at quote
    exact absurd (List.cons.inj quote).1 (other '\'' rfl)
  · simp [takeWhile_run plain.2 stops, dropWhile_run plain.2 stops, plain.1]

theorem readPath_plain (plain : PlainKey key) (stops : ∀ c ∈ rest.head?, isPlain c = false)
    {c : Char} (after : skipBlanks rest = c :: cs) (single : c ≠ '.') :
    readPath (key.toList ++ rest) = some (([], key), c :: cs) := by
  have read : readKeys maxPath (key.toList ++ rest) = some ([key], c :: cs) := by
    rw [maxPath, readKeys, plain.skipBlanks, readKey_plain plain stops]
    simp [after, single]
  simp [readPath, read]

/-! ## Lines -/

namespace Section

/-- The line of a header. -/
def headerLine (name : String) : List Char := ['['] ++ name.toList ++ [']', '\n']

/-- The line of an entry. -/
def entryLine (e : String × Field) : List Char :=
  e.1.toList ++ [' ', '=', ' '] ++ e.2.write ++ ['\n']

theorem write_eq_lines (s : Section) :
    s.write = headerLine s.name ++ s.fields.flatMap entryLine := rfl

end Section

theorem readStatement_headerLine (plain : PlainKey key) :
    readStatement (Section.headerLine key ++ rest) = some (.header [] key, rest) := by
  have stops : ∀ c ∈ (']' :: '\n' :: rest).head?, isPlain c = false := by simp [isPlain]
  have path := readPath_plain plain stops rfl (by decide)
  obtain ⟨c, cs, first, other⟩ := plain.head
  rw [first, List.cons_append] at path
  simp [Section.headerLine, first, readStatement, other '[' rfl, path, endLine, skipBlanks_line_end]

theorem readStatement_entryLine {e : String × Field} (plain : PlainKey e.1)
    (writable : e.2.isWritable) :
    readStatement (Section.entryLine e ++ rest) = some (.entry [] e.1 e.2.value, rest) := by
  have stops : ∀ c ∈ (' ' :: '=' :: ' ' :: (e.2.write ++ '\n' :: rest)).head?,
      isPlain c = false := by
    simp [isPlain]
  have path := readPath_plain plain stops rfl (by decide)
  have value : readValue maxDepth (skipBlanks (' ' :: (e.2.write ++ '\n' :: rest))) =
      some (e.2.value, '\n' :: rest) := by
    have visible : skipBlanks (' ' :: (e.2.write ++ '\n' :: rest)) = e.2.write ++ '\n' :: rest := by
      obtain ⟨c, more, begins, visible⟩ := e.2.head_write
      rw [begins]
      exact skipBlanks_visible visible
    rw [visible]
    exact readValue_write writable
  obtain ⟨c, cs, first, other⟩ := plain.head
  rw [first, List.cons_append] at path
  simp [Section.entryLine, first, readStatement, other '[' rfl, path, value, endLine,
    skipBlanks_line_end]

/-! ## Lists of statements -/

/-- A text is made of these statements. -/
def Yields (cs : List Char) (found : List Statement) : Prop :=
  ∀ limit, cs.length < limit → readStatements limit cs = some found

/-- The character may begin the line of a statement. -/
def Opens (c : Char) : Prop := isBlank c = false ∧ c ≠ '\n' ∧ c ≠ '#'

theorem yields_nil : Yields [] [] := by
  intro limit enough
  obtain ⟨limit, rfl⟩ := Nat.exists_eq_add_of_lt enough
  rfl

section Yields

variable {found : List Statement} (yields : Yields cs found)

include yields

theorem Yields.blank_line : Yields ('\n' :: cs) found := by
  intro limit enough
  obtain ⟨limit, rfl⟩ : ∃ l, limit = l + 1 := Nat.exists_eq_succ_of_ne_zero (by omega)
  exact yields limit (Nat.lt_of_succ_lt_succ enough)

theorem Yields.comment {comment : List Char} (visible : ∀ c ∈ comment, isText c) :
    Yields ('#' :: (comment ++ '\n' :: cs)) found := by
  intro limit enough
  obtain ⟨limit, rfl⟩ : ∃ l, limit = l + 1 := Nat.exists_eq_succ_of_ne_zero (by omega)
  have stops : ∀ c ∈ ('\n' :: cs).head?, isText c = false := by simp [isText]
  have mark : skipBlanks ('#' :: (comment ++ '\n' :: cs)) = '#' :: (comment ++ '\n' :: cs) :=
    skipBlanks_visible rfl
  have line : endLine ('#' :: (comment ++ '\n' :: cs)) = some cs := by
    simp [endLine, mark, dropWhile_run visible stops]
  have shorter : cs.length < limit := by
    simp only [List.length_cons, List.length_append] at enough
    omega
  simp [readStatements, mark, line, yields limit shorter]

theorem Yields.statement {line : List Char} {statement : Statement}
    (read : readStatement (line ++ cs) = some (statement, cs))
    (begins : ∃ c more, line = c :: more ∧ Opens c) :
    Yields (line ++ cs) (statement :: found) := by
  obtain ⟨c, more, rfl, visible, written, stated⟩ := begins
  intro limit enough
  obtain ⟨limit, rfl⟩ : ∃ l, limit = l + 1 := Nat.exists_eq_succ_of_ne_zero (by omega)
  have shorter : cs.length < limit := by
    simp only [List.length_cons, List.length_append] at enough
    omega
  rw [List.cons_append] at read ⊢
  simp [readStatements, skipBlanks_visible visible, written, stated, read, yields limit shorter]

end Yields

/-! ## Sections -/

namespace Section

/-- The statements of a section. -/
def statements (s : Section) : List Statement :=
  .header [] s.name :: s.fields.map fun e => .entry [] e.1 e.2.value

/-- The section, its keys and its values can be written as they are, and no key is given twice. -/
structure Plain (s : Section) : Prop where
  name : PlainKey s.name
  keys : ∀ e ∈ s.fields, PlainKey e.1
  values : ∀ e ∈ s.fields, e.2.isWritable
  distinct : (s.fields.map Prod.fst).Nodup

end Section

variable {found : List Statement}

theorem yields_entryLines {fields : List (String × Field)} (keys : ∀ e ∈ fields, PlainKey e.1)
    (values : ∀ e ∈ fields, e.2.isWritable) (yields : Yields cs found) :
    Yields (fields.flatMap Section.entryLine ++ cs)
      ((fields.map fun e => .entry [] e.1 e.2.value) ++ found) := by
  induction fields with
  | nil => exact yields
  | cons e fields ih =>
    obtain ⟨key, keys⟩ := List.forall_mem_cons.1 keys
    obtain ⟨value, values⟩ := List.forall_mem_cons.1 values
    obtain ⟨c, more, first, other⟩ := key.head
    have begins : ∃ c more, Section.entryLine e = c :: more ∧ Opens c := by
      refine ⟨c, _, by simp [Section.entryLine, first]; rfl, ?_, other '\n' rfl, other '#' rfl⟩
      simp [isBlank, other ' ' rfl, other '\t' rfl]
    rw [List.flatMap_cons, List.append_assoc]
    exact (ih keys values).statement (readStatement_entryLine key value) begins

theorem yields_write {s : Section} (plain : s.Plain) (yields : Yields cs found) :
    Yields (s.write ++ cs) (s.statements ++ found) := by
  have begins : ∃ c more, Section.headerLine s.name = c :: more ∧ Opens c :=
    ⟨'[', _, rfl, rfl, by decide, by decide⟩
  rw [Section.write_eq_lines, List.append_assoc]
  exact (yields_entryLines plain.keys plain.values yields).statement
    (readStatement_headerLine plain.name) begins

namespace Section

/-- The characters of all sections. -/
def writeAll (sections : List Section) : List Char :=
  ((sections.map write).intersperse ['\n']).flatten

theorem writeAll_cons (s : Section) (sections : List Section) :
    writeAll (s :: sections) =
      s.write ++ if sections = [] then [] else '\n' :: writeAll sections := by
  cases sections <;> simp [writeAll]

end Section

/-- Sections are read one by one; the blank lines between them are passed over. -/
theorem yields_writeAll {sections : List Section} (plain : ∀ s ∈ sections, s.Plain) :
    Yields (Section.writeAll sections) (sections.flatMap Section.statements) := by
  induction sections with
  | nil => exact yields_nil
  | cons s sections ih =>
    obtain ⟨first, others⟩ := List.forall_mem_cons.1 plain
    rw [Section.writeAll_cons]
    split
    · subst sections
      exact yields_write first yields_nil
    · exact yields_write first (ih others).blank_line

/-! ## Characters that are read in another way at a line's end or in front of a document -/

theorem PlainKey.return_notMem (plain : PlainKey key) : '\r' ∉ key.toList :=
  fun member => absurd (plain.2 '\r' member) (by decide)

namespace Section

theorem Plain.return_notMem {s : Section} (plain : s.Plain) : '\r' ∉ s.write := by
  have lines : ∀ e ∈ s.fields, '\r' ∉ entryLine e := by
    intro e member
    simp [entryLine, (plain.keys e member).return_notMem, e.2.return_notMem_write]
  simp only [write_eq_lines, headerLine, List.mem_append, List.mem_flatMap, not_or, not_exists,
    not_and]
  exact ⟨by simp [plain.name.return_notMem], lines⟩

theorem return_notMem_writeAll {sections : List Section} (plain : ∀ s ∈ sections, s.Plain) :
    '\r' ∉ writeAll sections := by
  induction sections with
  | nil => exact List.not_mem_nil
  | cons s sections ih =>
    obtain ⟨first, others⟩ := List.forall_mem_cons.1 plain
    rw [writeAll_cons]
    split <;> simp [first.return_notMem, ih others]

theorem dropMark_writeAll (sections : List Section) :
    dropMark (writeAll sections) = writeAll sections := by
  cases sections with
  | nil => rfl
  | cons s sections =>
    rw [writeAll_cons]
    rfl

end Section

/-! ## What statements add up to -/

namespace Entries

variable {es sub : Entries}

theorem lookup_of_notMem (absent : key ∉ es.map Prod.fst) : es.lookup key = none := by
  refine List.lookup_eq_none_iff.2 fun e member => ?_
  have other : key ≠ e.1 := fun same => absent (same ▸ List.mem_map_of_mem member)
  simpa using other

theorem replace_last (absent : key ∉ es.map Prod.fst) (old new : Value) :
    (es ++ [(key, old)]).replace key new = es ++ [(key, new)] := by
  have kept : es.replace key new = es := by
    refine (List.map_congr_left fun e member => if_neg ?_).trans (List.map_id es)
    exact fun same => absent (same ▸ List.mem_map_of_mem member)
  have last : Entries.replace [(key, old)] key new = [(key, new)] := by simp [replace]
  rw [replace, List.map_append]
  exact congr (congrArg _ kept) last

theorem within?_last (absent : key ∉ es.map Prod.fst) (change : Entries → Option Entries) :
    within? change [key] (es ++ [(key, .table .header sub)]) =
      (change sub).map fun new => es ++ [(key, .table .header new)] := by
  have found : (es ++ [(key, Value.table .header sub)]).lookup key = some (.table .header sub) := by
    simp [List.lookup_append, lookup_of_notMem absent]
  simp only [within?, found, replace_last absent, Option.map_eq_bind]
  rfl

end Entries

namespace Section

/-- The entries of a section, as a document gives them. -/
def entries (fields : List (String × Field)) : Entries := fields.map fun e => (e.1, e.2.value)

/-- The section, as a document gives it. -/
def entry (s : Section) : String × Value := (s.name, .table .header (entries s.fields))

end Section

namespace Document

variable {es sub : Entries} {name : String}

theorem foldlM_add?_entries {fields : List (String × Field)} (absent : name ∉ es.map Prod.fst)
    (distinct : (sub.map Prod.fst ++ fields.map Prod.fst).Nodup) :
    (fields.map fun e => Statement.entry [] e.1 e.2.value).foldlM add?
        ⟨es ++ [(name, .table .header sub)], [name]⟩ =
      some ⟨es ++ [(name, .table .header (sub ++ Section.entries fields))], [name]⟩ := by
  induction fields generalizing sub with
  | nil => simp [Section.entries]
  | cons e fields ih =>
    have fresh : e.1 ∉ sub.map Prod.fst := fun member =>
      (List.nodup_append.1 distinct).2.2 _ member _ List.mem_cons_self rfl
    have added : add? ⟨es ++ [(name, .table .header sub)], [name]⟩ (.entry [] e.1 e.2.value) =
        some ⟨es ++ [(name, .table .header (sub ++ [(e.1, e.2.value)]))], [name]⟩ := by
      simp [add?, Entries.within?_last absent, Entries.insert?, Entries.lookup_of_notMem fresh]
    have later : ((sub ++ [(e.1, e.2.value)]).map Prod.fst ++ fields.map Prod.fst).Nodup := by
      simpa using distinct
    rw [List.map_cons, List.foldlM_cons, added]
    refine (ih later).trans ?_
    simp [Section.entries]

theorem foldlM_add?_section {s : Section} (plain : s.Plain) (absent : s.name ∉ es.map Prod.fst)
    (path : List String) :
    s.statements.foldlM add? ⟨es, path⟩ = some ⟨es ++ [s.entry], [s.name]⟩ := by
  have opened : add? ⟨es, path⟩ (.header [] s.name) =
      some ⟨es ++ [(s.name, .table .header [])], [s.name]⟩ := by
    simp [add?, Entries.within?, Entries.openTable?, Entries.lookup_of_notMem absent]
  rw [Section.statements, List.foldlM_cons, opened]
  exact foldlM_add?_entries absent (by simpa using plain.distinct)

theorem foldlM_add?_sections {sections : List Section} (plain : ∀ s ∈ sections, s.Plain)
    (distinct : (es.map Prod.fst ++ sections.map Section.name).Nodup) (path : List String) :
    ∃ path', (sections.flatMap Section.statements).foldlM add? ⟨es, path⟩ =
      some ⟨es ++ sections.map Section.entry, path'⟩ := by
  induction sections generalizing es path with
  | nil => exact ⟨path, by simp⟩
  | cons s sections ih =>
    obtain ⟨first, others⟩ := List.forall_mem_cons.1 plain
    have absent : s.name ∉ es.map Prod.fst := fun member =>
      (List.nodup_append.1 distinct).2.2 _ member _ List.mem_cons_self rfl
    have later : ((es ++ [s.entry]).map Prod.fst ++ sections.map Section.name).Nodup := by
      simpa [Section.entry] using distinct
    obtain ⟨path', added⟩ := ih others later [s.name]
    refine ⟨path', ?_⟩
    rw [List.flatMap_cons, List.foldlM_append, foldlM_add?_section first absent path]
    simpa using added

end Document

/-! ## Whole documents -/

theorem parseChars?_of_yields {found : List Statement} (yields : Yields cs found)
    (unmarked : dropMark cs = cs) (unified : '\r' ∉ cs) {d : Document}
    (added : found.foldlM Document.add? {} = some d) : parseChars? cs = some d.entries := by
  simp [parseChars?, unmarked, unifyLineEnds_of_notMem unified, yields _ (Nat.lt_succ_self _),
    added]

section Sections

variable {sections : List Section} (plain : ∀ s ∈ sections, s.Plain)

include plain

theorem writeSections?_plain : writeSections? sections = some (Section.writeAll sections) := by
  refine if_pos (List.all_eq_true.2 fun s member => List.all_eq_true.2 fun e inside => ?_)
  exact (plain s member).values e inside

variable (distinct : (sections.map Section.name).Nodup)

include distinct

theorem parseChars?_writeAll :
    parseChars? (Section.writeAll sections) = some (sections.map Section.entry) := by
  have fresh : (([] : Entries).map Prod.fst ++ sections.map Section.name).Nodup := distinct
  obtain ⟨path, added⟩ := Document.foldlM_add?_sections plain fresh []
  exact parseChars?_of_yields (yields_writeAll plain) (Section.dropMark_writeAll sections)
    (Section.return_notMem_writeAll plain) added

theorem parseChars?_comment {comment : List Char} (visible : ∀ c ∈ comment, isText c) :
    parseChars? ('#' :: (comment ++ '\n' :: '\n' :: Section.writeAll sections)) =
      some (sections.map Section.entry) := by
  have fresh : (([] : Entries).map Prod.fst ++ sections.map Section.name).Nodup := distinct
  obtain ⟨path, added⟩ := Document.foldlM_add?_sections plain fresh []
  have unified : '\r' ∉ comment := fun member => absurd (visible '\r' member) (by decide)
  exact parseChars?_of_yields ((yields_writeAll plain).blank_line.comment visible) rfl
    (by simp [unified, Section.return_notMem_writeAll plain]) added

end Sections

end TimeServer.Toml
