import TimeServer.Proofs.Files

/-! # Making the directories of a path

* `OnWay` — what stands at each place on a way;
* `makeDirectories_of_clear` — directories are made where nothing stands in their way, and nothing
  else is changed;
* `Accepts`, `Clear`, `Clear.accepts` — the paths that a file can be written to, with directories
  that are missing.
-/

namespace TimeServer.Files

open TimeServer.Text

variable {fs made : Files} {place : List String} {name path : String}

/-! ## Ways -/

/-- Everything on the way is as required. -/
def OnWay (required : Option FileNode → Prop) (fs : Files) (start names : List String) : Prop :=
  ∀ way, way <+: names → required (fs.at? (start ++ way))

/-- There is a directory. -/
abbrev IsDirectory (node : Option FileNode) : Prop := node = some .directory

/-- There is a directory, or one may be made. -/
abbrev IsClear (node : Option FileNode) : Prop := node = none ∨ node = some .directory

variable {required : Option FileNode → Prop} {start names : List String}

theorem onWay_nil : OnWay required fs start [] ↔ required (fs.at? start) := by
  simp [OnWay]

theorem onWay_cons : OnWay required fs start (name :: names) ↔
    required (fs.at? start) ∧ OnWay required fs (start ++ [name]) names := by
  constructor
  · intro all
    refine ⟨by simpa using all [] List.nil_prefix, fun way within => ?_⟩
    simpa using all (name :: way) ((List.prefix_cons_inj name).2 within)
  · rintro ⟨first, others⟩ way within
    obtain rfl | ⟨more, rfl, inside⟩ := List.prefix_cons_iff.1 within
    · simpa using first
    · simpa using others more inside

theorem onWay_concat : OnWay required fs start (names ++ [name]) ↔
    OnWay required fs start names ∧ required (fs.at? (start ++ (names ++ [name]))) := by
  simp [OnWay, List.prefix_concat_iff, or_imp, forall_and, and_comm]

theorem ne_concat_of_within {way : List String} (within : way <+: names) :
    start ++ (names ++ [name]) ≠ start ++ way := by
  intro same
  have length := within.length_le
  rw [← List.append_cancel_left same, List.length_append] at length
  exact Nat.not_succ_le_self _ length

theorem walk_of_directories (plain : ∀ name ∈ names, IsName name)
    (directories : OnWay IsDirectory fs start names) :
    fs.walk start names = .ok (start ++ names) := by
  induction names generalizing start with
  | nil => simp [walk]
  | cons name names ih =>
    obtain ⟨named, plain⟩ := List.forall_mem_cons.1 plain
    obtain ⟨first, directories⟩ := onWay_cons.1 directories
    have second : fs.at? (start ++ [name]) = some .directory := by
      simpa using directories [] List.nil_prefix
    have stepped : fs.step start name = .ok (start ++ [name]) := by
      simp [step_of_isName first named, second]
    rw [walk, stepped, ok_bind, ih plain directories, List.append_assoc, List.singleton_append]

theorem directories_or_walk_of_clear (plain : ∀ name ∈ names, IsName name)
    (started : fs.at? start = some .directory) (clear : OnWay IsClear fs start names) :
    OnWay IsDirectory fs start names ∨ fs.walk start names = .error (.os 2) := by
  induction names generalizing start with
  | nil => exact .inl (onWay_nil.2 started)
  | cons name names ih =>
    obtain ⟨named, plain⟩ := List.forall_mem_cons.1 plain
    obtain ⟨-, clear⟩ := onWay_cons.1 clear
    obtain missing | second : IsClear (fs.at? (start ++ [name])) := by
      simpa using clear [] List.nil_prefix
    · have stepped : fs.step start name = .error (.os 2) := by
        simp [step_of_isName started named, missing]
      right
      rw [walk, stepped]
      rfl
    · have stepped : fs.step start name = .ok (start ++ [name]) := by
        simp [step_of_isName started named, second]
      rw [walk, stepped, ok_bind]
      exact (ih plain second clear).imp_left fun directories => onWay_cons.2 ⟨started, directories⟩

/-! ## Making directories -/

/-- There are directories on the way, and nothing else was changed. -/
structure Made (fs made : Files) (start names : List String) : Prop where
  current : made.current = fs.current
  directories : OnWay IsDirectory made start names
  others : ∀ place, (∀ way, way <+: names → place ≠ start ++ way) → made.at? place = fs.at? place

theorem ensureDirectory_of_directories (plain : ∀ n ∈ names ++ [name], IsName n)
    (directories : OnWay IsDirectory fs start names)
    (clear : IsClear (fs.at? (start ++ (names ++ [name])))) :
    ∃ made, fs.ensureDirectory start (names ++ [name]) = (.ok (), made) ∧
      Made fs made start (names ++ [name]) := by
  obtain ⟨plain_way, last⟩ := List.forall_mem_append.1 plain
  obtain ⟨here, up, short⟩ := List.forall_mem_singleton.1 last
  have walked := walk_of_directories plain_way directories
  have directory := needDirectory_ok.2 (directories names (List.prefix_refl names))
  obtain missing | there := clear
  · have made : fs.makeDirectory start (names ++ [name]) =
        .ok (fs.put (start ++ (names ++ [name])) .directory) := by
      simp [makeDirectory, walked, ok_bind, directory, here, up, Nat.not_lt.2 short, missing]
    refine ⟨fs.put (start ++ (names ++ [name])) .directory, by simp [ensureDirectory, made], rfl,
      onWay_concat.2 ⟨fun way within => ?_, at?_put_self (by simp)⟩,
      fun place aside => at?_put_of_ne (aside _ (List.prefix_refl _))⟩
    rw [at?_put_of_ne (ne_concat_of_within within).symm]
    exact directories way within
  · have found : fs.makeDirectory start (names ++ [name]) = .error (.os 17) := by
      simp [makeDirectory, walked, ok_bind, directory, here, up, Nat.not_lt.2 short, there]
    have whole := onWay_concat.2 ⟨directories, there⟩
    have is_directory : fs.isDirectory start (names ++ [name]) := by
      simp [isDirectory, walk_of_directories plain whole, there]
    exact ⟨fs, by simp [ensureDirectory, found, is_directory], rfl, whole, fun _ _ => rfl⟩

theorem ensureDirectory_of_missing (missing : fs.walk start names = .error (.os 2)) :
    fs.ensureDirectory start (names ++ [name]) = (.error (.os 2), fs) := by
  have failed : fs.makeDirectory start (names ++ [name]) = .error (.os 2) := by
    simp [makeDirectory, missing]
    rfl
  have not_directory : fs.isDirectory start (names ++ [name]) = false := by
    rw [isDirectory, walk_append, missing]
    rfl
  simp [ensureDirectory, failed, not_directory]

theorem makeDirectories_of_clear {upwards : List String} (plain : ∀ name ∈ upwards, IsName name)
    (started : fs.at? start = some .directory) (clear : OnWay IsClear fs start upwards.reverse) :
    ∃ made, fs.makeDirectories start upwards = (.ok (), made) ∧
      Made fs made start upwards.reverse := by
  induction upwards with
  | nil => exact ⟨fs, rfl, rfl, onWay_nil.2 started, fun _ _ => rfl⟩
  | cons name upwards ih =>
    have plain_whole : ∀ n ∈ upwards.reverse ++ [name], IsName n := by
      simpa [or_comm] using plain
    obtain ⟨plain_last, plain⟩ := List.forall_mem_cons.1 plain
    rw [List.reverse_cons] at clear ⊢
    obtain ⟨clear, last⟩ := onWay_concat.1 clear
    have plain_way : ∀ n ∈ upwards.reverse, IsName n := by simpa using plain
    obtain directories | missing := directories_or_walk_of_clear plain_way started clear
    · obtain ⟨made, ensured, result⟩ :=
        ensureDirectory_of_directories plain_whole directories last
      exact ⟨made, by simp [makeDirectories, ensured], result⟩
    · -- Those in front are made first, and leave the last place as it was.
      obtain ⟨made, front, result⟩ := ih plain clear
      have last : IsClear (made.at? (start ++ (upwards.reverse ++ [name]))) := by
        rwa [result.others _ fun way => ne_concat_of_within]
      obtain ⟨more, ensured, whole⟩ :=
        ensureDirectory_of_directories plain_whole result.directories last
      refine ⟨more, by simp [makeDirectories, ensureDirectory_of_missing missing, front, ensured],
        whole.current.trans result.current, whole.directories, fun place outside => ?_⟩
      rw [whole.others place outside, result.others]
      intro way within
      exact outside way (within.trans (List.prefix_append _ _))

/-! ## Paths of directories -/

theorem intercalate_sublist {parts more : List (List Char)} (fewer : parts.Sublist more) :
    (['/'].intercalate parts).Sublist (['/'].intercalate more) := by
  induction fewer with
  | slnil => exact .slnil
  | @cons parts more part fewer ih =>
    cases more with
    | nil =>
      obtain rfl := List.sublist_nil.1 fewer
      exact List.nil_sublist _
    | cons next more =>
      rw [List.intercalate_cons_cons, List.append_assoc]
      exact ih.trans (List.sublist_append_of_sublist_right (List.sublist_append_right _ _))
  | @cons_cons parts more part fewer ih =>
    cases more with
    | nil =>
      obtain rfl := List.sublist_nil.1 fewer
      exact List.Sublist.refl _
    | cons next more =>
      rw [List.intercalate_cons_cons]
      cases parts with
      | nil => simp [List.intercalate]
      | cons first parts =>
        rw [List.intercalate_cons_cons]
        exact (List.Sublist.refl _).append ih

theorem text_sublist {names : List String} (fewer : names.Sublist (FilePath.ofText path).names) :
    (FilePath.text ⟨(FilePath.ofText path).isAbsolute, names, false⟩).toList.Sublist
      path.toList := by
  have parts : (names.map String.toList).Sublist
      ((splitAtMark '/' path.toList).filter (· ≠ [])) := by
    simpa [FilePath.ofText, Function.comp_def] using fewer.map String.toList
  cases absolute : (FilePath.ofText path).isAbsolute with
  | false =>
    have shorter := intercalate_sublist (parts.trans List.filter_sublist)
    rw [intercalate_splitAtMark] at shorter
    simpa [FilePath.text] using shorter
  | true =>
    obtain ⟨cs, slash⟩ : ∃ cs, path.toList = '/' :: cs := by
      simpa [FilePath.ofText, List.head?_eq_some_iff] using absolute
    -- The part in front of the first slash is empty, so it is no name.
    have split : splitAtMark '/' ('/' :: cs) = [] :: splitAtMark '/' cs := by simp [splitAtMark]
    rw [slash, split, List.filter_cons_of_neg (by simp)] at parts
    have shorter := intercalate_sublist (parts.trans List.filter_sublist)
    rw [intercalate_splitAtMark] at shorter
    simpa [FilePath.text, slash] using shorter

theorem names_of_text_empty {absolute : Bool} (nonempty : ∀ n ∈ names, n ≠ "")
    (empty : (FilePath.text ⟨absolute, names, false⟩).isEmpty) : names = [] := by
  cases names with
  | nil => rfl
  | cons first more =>
    have blank : absolute = false ∧ "/".intercalate (first :: more) = "" := by
      simpa [FilePath.text] using empty
    have none : first = "" := by
      cases more with
      | nil => simpa using blank.2
      | cons second more =>
        rw [String.intercalate_cons_cons] at blank
        simp at blank
    exact absurd none (nonempty first List.mem_cons_self)

theorem size_le_of_sublist {cs ds : List Char} (fewer : cs.Sublist ds) :
    (String.ofList cs).utf8ByteSize ≤ (String.ofList ds).utf8ByteSize := by
  induction fewer with
  | slnil => exact Nat.le_refl _
  | cons c fewer ih =>
    rw [String.ofList_cons, String.utf8ByteSize_append]
    omega
  | cons_cons c fewer ih =>
    rw [String.ofList_cons, String.ofList_cons, String.utf8ByteSize_append,
      String.utf8ByteSize_append]
    omega

theorem checkPath_of_sublist {part : String} (shorter : part.toList.Sublist path.toList)
    (nonempty : part.isEmpty = false) (usable : checkPath path = .ok ()) :
    checkPath part = .ok () := by
  have size := size_le_of_sublist shorter
  rw [String.ofList_toList, String.ofList_toList] at size
  unfold checkPath at usable ⊢
  split at usable
  · cases usable
  rename_i whole
  split at usable
  · cases usable
  split at usable
  · cases usable
  rename_i small
  have legal : '\x00' ∉ part.toList := fun member => whole (shorter.subset member)
  have short : ¬ maxPath < part.utf8ByteSize := by omega
  simp [legal, nonempty, short]

/-! ## Paths that can be written to -/

/-- A text file can be written at the path, in directories that are made if need be. -/
def Accepts (fs : Files) (path : String) : Prop :=
  ∃ made, fs.createParents path = (.ok (), made) ∧ ∃ place, made.target path = .ok place

/-- The path ends in a name where no directory stands, behind names where directories stand or
    nothing does. -/
structure Clear (fs : Files) (path : String) (way : List String) (name : String) : Prop where
  usable : checkPath path = .ok ()
  names : (FilePath.ofText path).names = way ++ [name]
  plain : ∀ n ∈ way ++ [name], IsName n
  no_slash : (FilePath.ofText path).endsInSlash = false
  started : fs.at? (fs.start (FilePath.ofText path)) = some .directory
  clear : OnWay IsClear fs (fs.start (FilePath.ofText path)) way
  free : fs.at? (fs.start (FilePath.ofText path) ++ (way ++ [name])) ≠ some .directory

theorem clear_empty {way : List String} (usable : checkPath path = .ok ())
    (names : (FilePath.ofText path).names = way ++ [name]) (plain : ∀ n ∈ way ++ [name], IsName n)
    (no_slash : (FilePath.ofText path).endsInSlash = false) : Clear {} path way name := by
  have started : ({} : Files).start (FilePath.ofText path) = [] := by simp [start]
  refine ⟨usable, names, plain, no_slash, by simp [started, at?], fun way _ => ?_,
    by simp [started, at?]⟩
  by_cases root : way = [] <;> simp [started, at?, root, IsClear]

section Clear

variable {way : List String} (clear : fs.Clear path way name)

include clear

theorem Clear.nonempty : ∀ n ∈ way, n ≠ "" := by
  have member : ∀ n ∈ way, n ∈ (FilePath.ofText path).names := fun n member =>
    clear.names ▸ List.mem_append_left _ member
  intro n inside
  obtain ⟨cs, ⟨-, nonempty⟩, rfl⟩ : ∃ cs, (cs ∈ splitAtMark '/' path.toList ∧ cs ≠ []) ∧
      String.ofList cs = n := by
    simpa [FilePath.ofText] using member n inside
  simpa using nonempty

theorem Clear.parent? : (FilePath.ofText path).parent? =
    some ⟨(FilePath.ofText path).isAbsolute, way, false⟩ := by
  have kept : (way ++ [name]).filter (· ≠ ".") = way ++ [name] :=
    List.filter_eq_self.2 fun n member => by simpa using (clear.plain n member).1
  unfold FilePath.parent?
  rw [clear.names]
  split
  · rename_i here
    exact absurd rfl (clear.plain "." (here ▸ List.mem_cons_self)).1
  · simp only [kept]
    simp

theorem Clear.createParents : ∃ made, fs.createParents path = (.ok (), made) ∧
    Made fs made (fs.start (FilePath.ofText path)) way := by
  unfold Files.createParents
  rw [clear.parent?]
  dsimp only
  split
  · rename_i empty
    obtain rfl := names_of_text_empty (fun n member => clear.nonempty n member) empty
    exact ⟨fs, rfl, rfl, onWay_nil.2 clear.started, fun _ _ => rfl⟩
  · rename_i nonempty
    have usable : checkPath (FilePath.text ⟨(FilePath.ofText path).isAbsolute, way, false⟩) =
        .ok () := by
      refine checkPath_of_sublist (text_sublist ?_) (by simpa using nonempty) clear.usable
      rw [clear.names]
      exact List.sublist_append_left way [name]
    have plain : ∀ n ∈ way.reverse, IsName n := fun n member =>
      clear.plain n (List.mem_append_left _ (List.mem_reverse.1 member))
    rw [usable]
    have made := makeDirectories_of_clear plain clear.started (by simpa using clear.clear)
    rw [List.reverse_reverse] at made
    exact made

theorem Clear.accepts : fs.Accepts path := by
  obtain ⟨made, created, result⟩ := clear.createParents
  have plain : ∀ n ∈ way, IsName n := fun n member => clear.plain n (List.mem_append_left _ member)
  have started : made.start (FilePath.ofText path) = fs.start (FilePath.ofText path) := by
    simp [start, result.current]
  have leads : made.Leads path (fs.start (FilePath.ofText path) ++ way) name := by
    refine ⟨clear.usable, ⟨way, clear.names, ?_⟩, result.directories way (List.prefix_refl way),
      clear.plain name (by simp), clear.no_slash, ?_⟩
    · rw [started, walk_of_directories plain result.directories]
    · rw [List.append_assoc, result.others _ fun way => ne_concat_of_within]
      exact clear.free
  exact ⟨made, created, _, target_ok_iff.2 ⟨_, name, rfl, leads⟩⟩

end Clear

end TimeServer.Files
