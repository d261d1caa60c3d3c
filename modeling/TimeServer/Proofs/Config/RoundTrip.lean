import TimeServer.Config.Document
import TimeServer.Config.Storage
import TimeServer.Proofs.Toml.Documents

/-! # Writing and reading configurations

A configuration whose numbers TOML can write is read from its own text, with the banner of a file in
front or without it.

* `Key.carry` — what reading a key makes of a section, if another section was written, and
  `Key.read?_fields`: all keys together give the section that was written;
* `Fits`, `Fits.render?`, `fits_of_render?` — the configurations that can be written;
* `parse?_of_render?`, `parse?_banner_of_render?` — they are read as they were written.
-/

namespace TimeServer

open Toml (Entries Field Section Value PlainKey)

namespace Toml.Value

theorem texts?_map_string (ts : List String) : (array (ts.map string)).texts? = some ts := by
  induction ts with
  | nil => rfl
  | cons t ts ih =>
    rw [texts?] at ih ⊢
    simp [text?, ih]

end Toml.Value

namespace Config

namespace Key

variable {σ : Type} {keys : List (Key σ)}

/-! ## One key -/

/-- A section with one field as another section has it, if the other is written and the key is
    read. -/
def carry (s : σ) (u : σ) (key : Key σ) : Option σ :=
  match key.get? s with
  | some field => key.set? field.value u
  | none => some u

section Carry

variable (name : String) (s u : σ)

@[simp]
theorem carry_text (get : σ → String) (set : String → σ → σ) :
    carry s u (text name get set) = some (set (get s) u) := rfl

@[simp]
theorem carry_flag (get : σ → Bool) (set : Bool → σ → σ) :
    carry s u (flag name get set) = some (set (get s) u) := rfl

@[simp]
theorem carry_number (limit : Nat) (get : σ → Nat) (set : Nat → σ → σ) (small : get s < limit) :
    carry s u (number name limit get set) = some (set (get s) u) := by
  simp [carry, number, Field.value, Value.number?, small]

@[simp]
theorem carry_texts (get : σ → List String) (set : List String → σ → σ) :
    carry s u (texts name get set) = some (set (get s) u) := by
  simp [carry, texts, Field.value, Value.texts?_map_string]

@[simp]
theorem carry_optionalText (get : σ → Option String) (set : String → σ → σ) :
    carry s u (optionalText name get set) = some ((get s).elim u fun t => set t u) := by
  cases given : get s <;> simp [carry, optionalText, given, Field.value, Value.text?]

end Carry

/-! ## All keys of a section -/

theorem names_fields (keys : List (Key σ)) (s : σ) :
    ((fields keys s).map Prod.fst).Sublist (keys.map Key.name) := by
  induction keys with
  | nil => exact .slnil
  | cons key keys ih =>
    rw [fields, List.filterMap_cons, List.map_cons]
    cases key.get? s with
    | none => exact ih.cons key.name
    | some field => exact ih.cons_cons key.name

theorem lookup_fields_of_notMem {name : String} (absent : name ∉ keys.map Key.name) (s : σ) :
    (Section.entries (fields keys s)).lookup name = none := by
  refine Toml.Entries.lookup_of_notMem fun member => absent ((names_fields keys s).subset ?_)
  simpa [Section.entries] using member

theorem lookup_fields (distinct : (keys.map Key.name).Nodup) {key : Key σ} (member : key ∈ keys)
    (s : σ) :
    (Section.entries (fields keys s)).lookup key.name = (key.get? s).map Field.value := by
  induction keys with
  | nil => cases member
  | cons first keys ih =>
    obtain ⟨fresh, distinct⟩ := List.nodup_cons.1 distinct
    rw [fields, List.filterMap_cons]
    obtain rfl | member := List.mem_cons.1 member
    · cases key.get? s with
      | none => exact lookup_fields_of_notMem fresh s
      | some field => simp [Section.entries]
    · have other : (key.name == first.name) = false :=
        beq_false_of_ne fun same => fresh (same ▸ List.mem_map_of_mem member)
      cases first.get? s with
      | none => exact ih distinct member
      | some field =>
        rw [Option.map_some, Section.entries, List.map_cons, List.lookup_cons, other]
        exact ih distinct member

theorem readAll?_fields (distinct : (keys.map Key.name).Nodup) (s u : σ) :
    readAll? keys (Section.entries (fields keys s)) u = keys.foldlM (carry s) u := by
  -- By induction on the keys that are left to read; the entries are those of all keys.
  suffices some_keys : ∀ read ⊆ keys, ∀ u,
      readAll? read (Section.entries (fields keys s)) u = read.foldlM (carry s) u from
    some_keys keys (List.Subset.refl keys) u
  intro read within
  induction read with
  | nil => exact fun u => rfl
  | cons key read ih =>
    intro u
    obtain ⟨member, within⟩ := List.cons_subset.1 within
    rw [List.foldlM_cons, ← funext (ih within), readAll?, List.foldlM_cons,
      lookup_fields distinct member, carry]
    cases key.get? s <;> rfl

/-- A section is read as it was written if its keys make it of the usual one. -/
theorem read?_fields (distinct : (keys.map Key.name).Nodup) {s usual : σ}
    (complete : keys.foldlM (carry s) usual = some s) :
    read? keys usual (some (.table .header (Section.entries (fields keys s)))) = some s :=
  (readAll?_fields distinct s usual).trans complete

end Key

/-! ## The sections -/

theorem Network.foldlM_carry (n : Network) : Network.keys.foldlM (Key.carry n) {} = some n := by
  simp [Network.keys, UInt16.toNat_lt_size, UInt32.toNat_lt_size, UInt64.toNat_lt_size]

theorem Identity.foldlM_carry (s : Identity) : Identity.keys.foldlM (Key.carry s) {} = some s := by
  simp [Identity.keys, UInt8.toNat_lt_size]

theorem Logging.foldlM_carry (l : Logging) : Logging.keys.foldlM (Key.carry l) {} = some l := by
  obtain ⟨logFile, _, _, _⟩ := l
  cases logFile <;> simp [Logging.keys]

theorem Security.foldlM_carry (s : Security) : Security.keys.foldlM (Key.carry s) {} = some s := by
  simp [Security.keys]

theorem Performance.foldlM_carry (p : Performance) :
    Performance.keys.foldlM (Key.carry p) {} = some p := by
  simp [Performance.keys, UInt64.toNat_lt_size]

/-! ## Numbers that can be written -/

/-- The numbers of the configuration fit in signed words of 64 bits.  Those that are shorter
    always do. -/
structure Fits (c : Config) : Prop where
  maxConnections : c.network.maxConnections.toNat ≤ Int64.maxValue.toInt
  timeoutMs : c.network.timeoutMs.toNat ≤ Int64.maxValue.toInt
  workerThreads : c.performance.workerThreads.toNat ≤ Int64.maxValue.toInt
  statsInterval : c.performance.statsInterval.toNat ≤ Int64.maxValue.toInt

variable {c : Config}

/-- The numbers of a section are written if each of its keys has one that can be. -/
theorem Key.isWritable_fields {σ : Type} {keys : List (Key σ)} {s : σ} :
    (∀ e ∈ Key.fields keys s, e.2.isWritable) ↔
      ∀ key ∈ keys, ∀ field ∈ key.get? s, field.isWritable := by
  simp only [Key.fields, List.mem_filterMap, Option.map_eq_some_iff]
  constructor
  · intro writable key member field given
    exact writable (key.name, field) ⟨key, member, field, given, rfl⟩
  · rintro writable _ ⟨key, member, field, given, rfl⟩
    exact writable key member field given

theorem isWritable_iff_fits :
    (∀ s ∈ c.sections, ∀ e ∈ s.fields, e.2.isWritable) ↔ c.Fits := by
  have limit : Int64.maxValue.toInt = 9223372036854775807 := rfl
  have numbers : (∀ s ∈ c.sections, ∀ e ∈ s.fields, e.2.isWritable) ↔
      ((c.network.listenPort.toNat ≤ Int64.maxValue.toInt ∧
        c.network.maxConnections.toNat ≤ Int64.maxValue.toInt ∧
        c.network.backlog.toNat ≤ Int64.maxValue.toInt ∧
        c.network.timeoutMs.toNat ≤ Int64.maxValue.toInt) ∧
      c.server.stratum.toNat ≤ Int64.maxValue.toInt ∧
      c.performance.workerThreads.toNat ≤ Int64.maxValue.toInt ∧
      c.performance.statsInterval.toNat ≤ Int64.maxValue.toInt) := by
    simp only [sections, List.forall_mem_cons, Key.isWritable_fields]
    simp [Network.keys, Identity.keys, Logging.keys, Security.keys, Performance.keys, Key.text,
      Key.flag, Key.number, Key.texts, Key.optionalText, Field.isWritable]
  rw [numbers]
  constructor
  · rintro ⟨⟨-, maxConnections, -, timeoutMs⟩, -, workerThreads, statsInterval⟩
    exact ⟨maxConnections, timeoutMs, workerThreads, statsInterval⟩
  · intro fits
    have port := c.network.listenPort.toNat_lt
    have backlog := c.network.backlog.toNat_lt
    have stratum := c.server.stratum.toNat_lt
    exact ⟨⟨by omega, fits.maxConnections, by omega, fits.timeoutMs⟩, by omega,
      fits.workerThreads, fits.statsInterval⟩

/-! ## The document -/

theorem Key.plain_section {σ : Type} {keys : List (Key σ)} {name : String} {s : σ}
    (plain : PlainKey name) (names : ∀ n ∈ keys.map Key.name, PlainKey n)
    (distinct : (keys.map Key.name).Nodup)
    (values : ∀ e ∈ Key.fields keys s, e.2.isWritable) :
    Section.Plain ⟨name, Key.fields keys s⟩ where
  name := plain
  keys e member := names e.1 ((Key.names_fields keys s).subset (List.mem_map_of_mem member))
  values := values
  distinct := (Key.names_fields keys s).nodup distinct

theorem Fits.plain_sections (fits : c.Fits) : ∀ s ∈ c.sections, s.Plain := by
  have values := isWritable_iff_fits.2 fits
  simp only [sections, List.forall_mem_cons] at values ⊢
  obtain ⟨network, server, logging, security, performance, -⟩ := values
  exact ⟨Key.plain_section (by decide) (by decide) (by decide) network,
    Key.plain_section (by decide) (by decide) (by decide) server,
    Key.plain_section (by decide) (by decide) (by decide) logging,
    Key.plain_section (by decide) (by decide) (by decide) security,
    Key.plain_section (by decide) (by decide) (by decide) performance, nofun⟩

theorem ofEntries?_sections (c : Config) : ofEntries? (c.sections.map Section.entry) = some c := by
  have network := Key.read?_fields (by decide) (Network.foldlM_carry c.network)
  have server := Key.read?_fields (by decide) (Identity.foldlM_carry c.server)
  have logging := Key.read?_fields (by decide) (Logging.foldlM_carry c.logging)
  have security := Key.read?_fields (by decide) (Security.foldlM_carry c.security)
  have performance := Key.read?_fields (by decide) (Performance.foldlM_carry c.performance)
  simp [ofEntries?, sections, Section.entry, List.lookup_cons, network, server, logging, security,
    performance]

/-! ## The text -/

theorem Fits.render? (fits : c.Fits) :
    c.render? = some (String.ofList (Section.writeAll c.sections)) := by
  rw [Config.render?, Toml.writeSections?_plain fits.plain_sections, Option.map_some]

theorem fits_of_render? {text : String} (rendered : c.render? = some text) : c.Fits := by
  refine isWritable_iff_fits.1 fun s member e inside => ?_
  rw [Config.render?, Toml.writeSections?] at rendered
  split at rendered
  · rename_i writable
    exact List.all_eq_true.1 (List.all_eq_true.1 writable s member) e inside
  · cases rendered

theorem names_nodup (c : Config) : (c.sections.map Section.name).Nodup := by
  have names : c.sections.map Section.name =
      ["network", "server", "logging", "security", "performance"] := rfl
  rw [names]
  decide

theorem parse?_of_entries {text : String}
    (read : Toml.parseChars? text.toList = some (c.sections.map Section.entry)) :
    parse? text = some c := by
  have parsed : parse? text = (Toml.parseChars? text.toList).bind ofEntries? := rfl
  rw [parsed, read, Option.bind_some, ofEntries?_sections]

theorem parse?_of_render? {text : String} (rendered : c.render? = some text) :
    parse? text = some c := by
  have fits := fits_of_render? rendered
  obtain rfl := Option.some.inj (fits.render?.symm.trans rendered)
  have read := Toml.parseChars?_writeAll fits.plain_sections c.names_nodup
  exact parse?_of_entries (by rw [String.toList_ofList, read])

theorem parse?_banner_of_render? {text : String} (rendered : c.render? = some text) :
    parse? (banner ++ text) = some c := by
  have fits := fits_of_render? rendered
  obtain rfl := Option.some.inj (fits.render?.symm.trans rendered)
  have visible : ∀ c ∈ " simple-utcd configuration".toList, Toml.isText c :=
    List.all_eq_true.1 (by decide)
  have read := Toml.parseChars?_comment fits.plain_sections c.names_nodup visible
  have front : (banner ++ String.ofList (Section.writeAll c.sections)).toList =
      '#' :: (" simple-utcd configuration".toList ++
        '\n' :: '\n' :: Section.writeAll c.sections) := by
    simp [banner]
  exact parse?_of_entries (by rw [front, read])

end Config

end TimeServer
