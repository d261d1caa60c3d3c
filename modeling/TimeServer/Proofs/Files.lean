import TimeServer.Files

/-! # Writing and reading files

* `at?_put_self`, `at?_put_of_ne` — what stands at each place after a change;
* `step_put`, `walk_put` — a change where no directory stands is in no way;
* `Leads`, `target_ok_iff` — the paths that a file can be written to;
* `read_of_write` — a file that was written is read as it was written.
-/

namespace TimeServer.Files

variable {fs made : Files} {place target next : List String} {name : String} {node : FileNode}

theorem exists_of_bind_ok {ε α β : Type} {first : Except ε α} {others : α → Except ε β} {result : β}
    (succeeded : first >>= others = .ok result) :
    ∃ a, first = .ok a ∧ others a = .ok result := by
  cases first with
  | error e => cases succeeded
  | ok a => exact ⟨a, rfl, succeeded⟩

theorem ok_bind {ε α β : Type} (a : α) (others : α → Except ε β) :
    (Except.ok a >>= others) = others a := rfl

/-! ## Places -/

theorem lookup_filter_ne {entries : List (List String × FileNode)} (other : place ≠ target) :
    (entries.filter (·.1 ≠ target)).lookup place = entries.lookup place := by
  induction entries with
  | nil => rfl
  | cons e entries ih =>
    by_cases here : e.1 = target
    · have passed : (place == e.1) = false := beq_false_of_ne (here ▸ other)
      rw [List.filter_cons_of_neg (by simpa using here), List.lookup_cons, passed]
      exact ih
    · rw [List.filter_cons_of_pos (by simpa using here), List.lookup_cons, List.lookup_cons, ih]

theorem at?_put_self (below : target ≠ []) : (fs.put target node).at? target = some node := by
  simp [at?, put, below]

theorem at?_put_of_ne (other : place ≠ target) : (fs.put target node).at? place = fs.at? place := by
  have passed : (place == target) = false := beq_false_of_ne other
  rw [at?, put, List.lookup_cons, passed, lookup_filter_ne other, at?]

theorem isSome_at?_put (below : target ≠ []) (there : (fs.at? place).isSome) :
    ((fs.put target node).at? place).isSome := by
  by_cases same : place = target
  · rw [same, at?_put_self below]
    rfl
  · rwa [at?_put_of_ne same]

/-! ## Walking -/

theorem needDirectory_ok : fs.needDirectory place = .ok () ↔ fs.at? place = some .directory := by
  unfold needDirectory
  split <;> simp_all

theorem step_eq (directory : fs.at? place = some .directory) :
    fs.step place name =
      if name = "." then .ok place
      else if name = ".." then .ok place.dropLast
      else if maxName < name.utf8ByteSize then .error (.os 36)
      else if (fs.at? (place ++ [name])).isSome then .ok (place ++ [name])
      else .error (.os 2) := by
  rw [step, needDirectory_ok.2 directory]
  rfl

/-- The name is one that a file or a directory can have. -/
def IsName (name : String) : Prop := name ≠ "." ∧ name ≠ ".." ∧ name.utf8ByteSize ≤ maxName

instance : DecidablePred IsName := fun name =>
  inferInstanceAs (Decidable (name ≠ "." ∧ name ≠ ".." ∧ name.utf8ByteSize ≤ maxName))

theorem step_of_isName (directory : fs.at? place = some .directory) (plain : IsName name) :
    fs.step place name =
      if (fs.at? (place ++ [name])).isSome then .ok (place ++ [name]) else .error (.os 2) := by
  obtain ⟨here, up, short⟩ := plain
  rw [step_eq directory, if_neg here, if_neg up, if_neg (Nat.not_lt.2 short)]

theorem directory_of_step (stepped : fs.step place name = .ok next) :
    fs.at? place = some .directory := by
  by_cases directory : fs.at? place = some .directory
  · exact directory
  · simp [step, needDirectory, directory] at stepped
    cases stepped

section Put

variable (below : target ≠ []) (free : fs.at? target ≠ some .directory)

include below free

theorem step_put (stepped : fs.step place name = .ok next) :
    (fs.put target node).step place name = .ok next := by
  have directory := directory_of_step stepped
  have kept : (fs.put target node).at? place = some .directory := by
    rw [at?_put_of_ne, directory]
    rintro rfl
    exact free directory
  rw [step_eq directory] at stepped
  rw [step_eq kept]
  by_cases here : name = "."
  · simpa [here] using stepped
  by_cases up : name = ".."
  · simpa [here, up] using stepped
  by_cases long : maxName < name.utf8ByteSize
  · simp [here, up, long] at stepped
  cases there : (fs.at? (place ++ [name])).isSome with
  | false => simp [here, up, long, there] at stepped
  | true => simpa [here, up, long, there, isSome_at?_put below there] using stepped

theorem walk_put {names : List String} (walked : fs.walk place names = .ok next) :
    (fs.put target node).walk place names = .ok next := by
  induction names generalizing place with
  | nil => exact walked
  | cons name names ih =>
    obtain ⟨following, stepped, walked⟩ := exists_of_bind_ok walked
    rw [walk, step_put below free stepped]
    exact ih walked

end Put

theorem walk_append (names more : List String) :
    fs.walk place (names ++ more) = (fs.walk place names).bind fun there => fs.walk there more := by
  induction names generalizing place with
  | nil => rfl
  | cons name names ih =>
    rw [List.cons_append, walk, walk]
    cases fs.step place name with
    | error e => rfl
    | ok following => exact ih

/-! ## Files -/

variable {path text : String}

/-- A path at whose end a file may be written: its last name, and the directory that the others
    lead to. -/
structure Leads (fs : Files) (path : String) (directory : List String) (name : String) : Prop where
  usable : checkPath path = .ok ()
  names : ∃ way, (FilePath.ofText path).names = way ++ [name] ∧
    fs.walk (fs.start (FilePath.ofText path)) way = .ok directory
  is_directory : fs.at? directory = some .directory
  named : IsName name
  no_slash : (FilePath.ofText path).endsInSlash = false
  free : fs.at? (directory ++ [name]) ≠ some .directory

theorem target_ok_iff : fs.target path = .ok place ↔
    ∃ directory name, place = directory ++ [name] ∧ fs.Leads path directory name := by
  constructor
  · intro found
    obtain ⟨_, usable, found⟩ := exists_of_bind_ok found
    cases last : (FilePath.ofText path).names.getLast? with
    | none =>
      simp only [last] at found
      cases found
    | some name =>
      simp only [last] at found
      obtain ⟨directory, walked, found⟩ := exists_of_bind_ok found
      obtain ⟨_, is_directory, found⟩ := exists_of_bind_ok found
      obtain ⟨way, names⟩ := List.getLast?_eq_some_iff.1 last
      rw [names, List.dropLast_concat] at walked
      split at found
      · cases found
      split at found
      · cases found
      split at found
      · cases found
      rename_i named short free
      obtain ⟨here, up, no_slash⟩ : name ≠ "." ∧ name ≠ ".." ∧
          (FilePath.ofText path).endsInSlash = false := by
        simpa using named
      exact ⟨directory, name, (Except.ok.inj found).symm, usable, ⟨way, names, walked⟩,
        needDirectory_ok.1 is_directory, ⟨here, up, Nat.not_lt.1 short⟩, no_slash, free⟩
  · rintro ⟨directory, name, rfl, leads⟩
    obtain ⟨way, names, walked⟩ := leads.names
    obtain ⟨here, up, short⟩ := leads.named
    simp [target, leads.usable, names, walked, ok_bind, needDirectory_ok.2 leads.is_directory,
      here, up, leads.no_slash, Nat.not_lt.2 short, leads.free]

theorem Leads.resolve_put {directory : List String} (leads : fs.Leads path directory name)
    (node : FileNode) :
    (fs.put (directory ++ [name]) node).resolve path = .ok (directory ++ [name]) := by
  obtain ⟨way, names, walked⟩ := leads.names
  have below : directory ++ [name] ≠ [] := by simp
  have is_directory : (fs.put (directory ++ [name]) node).at? directory = some .directory := by
    rw [at?_put_of_ne (by simp), leads.is_directory]
  have last : (fs.put (directory ++ [name]) node).walk directory [name] =
      .ok (directory ++ [name]) := by
    simp [walk, step_of_isName is_directory leads.named, at?_put_self below, ok_bind]
  have whole : (fs.put (directory ++ [name]) node).walk (fs.start (FilePath.ofText path))
      (FilePath.ofText path).names = .ok (directory ++ [name]) := by
    rw [names, walk_append, walk_put below leads.free walked]
    exact last
  have started : (fs.put (directory ++ [name]) node).start (FilePath.ofText path) =
      fs.start (FilePath.ofText path) := rfl
  simp [resolve, leads.usable, ok_bind, started, whole, leads.no_slash]

theorem write_of_target (found : fs.target path = .ok place) :
    fs.write path text = .ok (fs.put place (.file (some text))) := by
  rw [write, found]
  rfl

theorem read_of_write (written : fs.write path text = .ok made) : made.read path = .ok text := by
  obtain ⟨place, found, put⟩ := exists_of_bind_ok written
  obtain ⟨directory, name, rfl, leads⟩ := target_ok_iff.1 found
  obtain rfl := Except.ok.inj put
  have there : (fs.put (directory ++ [name]) (.file (some text))).at? (directory ++ [name]) =
      some (.file (some text)) :=
    at?_put_self (by simp)
  rw [read, leads.resolve_put, ok_bind, there]

end TimeServer.Files
