import GraphScript.Files.Basic

namespace GraphScript.Files

theorem lookup_first (place other : List String) (entry : Entry) (rest : List (List String × Entry)) :
    List.lookup other ((place, entry) :: rest) =
      if other = place then some entry else rest.lookup other := by
  by_cases same : other = place
  · simp [same]
  · have apart : (other == place) = false := by simpa using same
    rw [List.lookup_cons, apart, if_neg same]

theorem lookup_setEntry (place other : List String) (entry : Entry)
    (entries : List (List String × Entry)) :
    (setEntry place entry entries).lookup other =
      if other = place then some entry else entries.lookup other := by
  induction entries with
  | nil => exact lookup_first place other entry []
  | cons first rest ih =>
    obtain ⟨p, e⟩ := first
    by_cases here : p = place
    · subst here
      by_cases same : other = p <;> simp [setEntry, lookup_first, same]
    · rw [setEntry, if_neg here, lookup_first, lookup_first, ih]
      by_cases found : other = p
      · simp [found, here]
      · simp [found]

theorem setEntry_setEntry (place : List String) (old entry : Entry)
    (entries : List (List String × Entry)) :
    setEntry place entry (setEntry place old entries) = setEntry place entry entries := by
  induction entries with
  | nil => simp [setEntry]
  | cons first rest ih => by_cases here : first.1 = place <;> simp [setEntry, here, ih]

/-- An entry that is there keeps its position, so it does not matter when it is set. -/
theorem setEntry_comm {place other : List String} (apart : other ≠ place)
    {entries : List (List String × Entry)} (there : (entries.lookup place).isSome)
    (old entry : Entry) :
    setEntry other entry (setEntry place old entries) =
      setEntry place old (setEntry other entry entries) := by
  induction entries with
  | nil => cases there
  | cons first rest ih =>
    obtain ⟨p, e⟩ := first
    by_cases here : p = place
    · subst here
      simp [setEntry, apart.symm]
    · have later : (rest.lookup place).isSome := by
        rwa [lookup_first, if_neg (Ne.symm here)] at there
      by_cases found : p = other
      · simp [setEntry, found, apart]
      · simp [setEntry, here, found, ih later]

theorem setEntry_of_lookup {place : List String} {entry : Entry}
    {entries : List (List String × Entry)} (h : entries.lookup place = some entry) :
    setEntry place entry entries = entries := by
  induction entries with
  | nil => cases h
  | cons first rest ih =>
    obtain ⟨p, e⟩ := first
    by_cases here : p = place
    · subst here
      rw [lookup_first, if_pos rfl] at h
      cases h
      rw [setEntry, if_pos rfl]
    · rw [lookup_first, if_neg (Ne.symm here)] at h
      rw [setEntry, if_neg here, ih h]

variable {files after : Files} {path : Path} {place : List String}

theorem at?_root : files.at? [] = some .directory := rfl

theorem at?_eq_lookup (h : place ≠ []) : files.at? place = files.entries.lookup place :=
  if_neg h

theorem ne_root (h : files.at? place ≠ some .directory) : place ≠ [] := by
  rintro rfl
  exact h at?_root

theorem at?_set (h : place ≠ []) (entry : Entry) (other : List String) :
    (files.set place entry).at? other = if other = place then some entry else files.at? other := by
  by_cases root : other = []
  · have apart : other ≠ place := fun same => h (same.symm.trans root)
    rw [if_neg apart, root]
    rfl
  · rw [at?_eq_lookup root, at?_eq_lookup root]
    exact lookup_setEntry place other entry files.entries

/-- A file is written where no directory is, so the directories stay the same. -/
theorem directory_set_file (h : files.at? place ≠ some .directory) (bytes : List UInt8)
    (other : List String) :
    (files.set place (.file bytes)).at? other = some .directory ↔
      files.at? other = some .directory := by
  rw [at?_set (ne_root h)]
  by_cases same : other = place
  · rw [if_pos same, same]
    constructor
    · intro written
      cases written
    · intro found
      exact absurd found h
  · rw [if_neg same]

/-- All directories of a file system are there in another one. -/
structure KeepsDirectories (files after : Files) : Prop where
  working : after.working = files.working
  directories : ∀ place, files.at? place = some .directory → after.at? place = some .directory

theorem follow_of_keeps (keeps : files.KeepsDirectories after) {parts target : List String}
    (h : files.follow place parts = .ok target) : after.follow place parts = .ok target := by
  induction parts generalizing place with
  | nil => exact h
  | cons part rest ih =>
    unfold follow at h ⊢
    split at h
    next => cases h
    next => cases h
    next here =>
      rw [keeps.directories place here]
      dsimp only
      split at h
      next => cases h
      next short =>
        rw [if_neg short]
        exact ih h

/-- A path that leads somewhere leads to the same place as long as no directory is lost. -/
theorem locate_of_keeps (keeps : files.KeepsDirectories after) (h : files.locate path = .ok place) :
    after.locate path = .ok place := by
  unfold locate at h ⊢
  split at h
  next => cases h
  next plain =>
    rw [if_neg plain]
    split at h
    next => cases h
    next short =>
      rw [if_neg short, keeps.working]
      exact follow_of_keeps keeps h

/-- Two file systems with the same directories. -/
structure SameDirectories (files after : Files) : Prop where
  working : after.working = files.working
  directories : ∀ place, after.at? place = some .directory ↔ files.at? place = some .directory

namespace SameDirectories

theorem refl (files : Files) : files.SameDirectories files :=
  ⟨rfl, fun _ => Iff.rfl⟩

theorem trans {middle : Files} (h : files.SameDirectories middle) (h' : middle.SameDirectories after) :
    files.SameDirectories after :=
  ⟨h'.working.trans h.working, fun place => (h'.directories place).trans (h.directories place)⟩

theorem set_file (h : files.at? place ≠ some .directory) (bytes : List UInt8) :
    files.SameDirectories (files.set place (.file bytes)) :=
  ⟨rfl, directory_set_file h bytes⟩

/-- Paths lead to the same places where the directories are the same. -/
theorem locate_iff (h : files.SameDirectories after) :
    after.locate path = .ok place ↔ files.locate path = .ok place :=
  ⟨locate_of_keeps ⟨h.working.symm, fun place => (h.directories place).mp⟩,
    locate_of_keeps ⟨h.working, fun place => (h.directories place).mpr⟩⟩

end SameDirectories

theorem locate_follow (h : files.locate path = .ok place) :
    files.follow (if path.start = .relative then files.working else []) path.parts = .ok place := by
  unfold locate at h
  split at h
  next => cases h
  next =>
    split at h
    next => cases h
    next => exact h

theorem follow_append {parts middle more : List String} (h : files.follow place parts = .ok middle) :
    files.follow place (parts ++ more) = files.follow middle more := by
  induction parts generalizing place with
  | nil =>
    cases h
    rfl
  | cons part rest ih =>
    unfold follow at h
    rw [List.cons_append, follow]
    split at h
    next => cases h
    next => cases h
    next here =>
      split at h
      next => cases h
      next short =>
        rw [if_neg short]
        exact ih h

theorem isDirectory_iff :
    files.isDirectory path = true ↔
      ∃ place, files.locate path = .ok place ∧ files.at? place = some .directory := by
  unfold isDirectory
  cases files.locate path with
  | error cause => simp
  | ok place => simp

theorem SameDirectories.isDirectory (h : files.SameDirectories after)
    (there : files.isDirectory path = true) : after.isDirectory path = true := by
  obtain ⟨place, leads, here⟩ := isDirectory_iff.mp there
  exact isDirectory_iff.mpr ⟨place, h.locate_iff.mpr leads, (h.directories place).mpr here⟩

/-- A file system with more directories and the same files. -/
structure Extends (files after : Files) : Prop extends KeepsDirectories files after where
  files : ∀ place bytes, after.at? place = some (.file bytes) ↔ files.at? place = some (.file bytes)

theorem Extends.refl (files : Files) : files.Extends files :=
  ⟨⟨rfl, fun _ h => h⟩, fun _ _ => Iff.rfl⟩

theorem Extends.trans {middle : Files} (h : files.Extends middle) (h' : middle.Extends after) :
    files.Extends after :=
  ⟨⟨h'.working.trans h.working, fun place here => h'.directories place (h.directories place here)⟩,
    fun place bytes => (h'.files place bytes).trans (h.files place bytes)⟩

theorem extends_set_directory (free : files.at? place = none) :
    files.Extends (files.set place .directory) := by
  have ne : place ≠ [] := by
    rintro rfl
    cases free
  refine ⟨⟨rfl, fun other here => ?_⟩, fun other bytes => ?_⟩
  · rw [at?_set ne]
    split
    next => rfl
    next => exact here
  · rw [at?_set ne]
    by_cases same : other = place
    · rw [if_pos same, same, free]
      simp
    · rw [if_neg same]

theorem makeDirectory_cases (files : Files) (path : Path) :
    (∃ failure, files.makeDirectory path = (files, .error failure)) ∨
      ∃ place, files.locate path = .ok place ∧ files.at? place = none ∧
        files.makeDirectory path = (files.set place .directory, .ok ()) := by
  unfold makeDirectory
  cases files.locate path with
  | error cause => exact .inl ⟨_, rfl⟩
  | ok place =>
    dsimp only
    cases free : files.at? place with
    | some entry => exact .inl ⟨_, rfl⟩
    | none => exact .inr ⟨place, rfl, free, rfl⟩

/-- A directory is made if it is not there; if that fails nothing has changed. -/
theorem ensureDirectory_cases (files : Files) (path : Path) :
    (∃ failure, files.ensureDirectory path = (files, .error failure)) ∨
      ∃ after, files.ensureDirectory path = (after, .ok ()) ∧ files.Extends after ∧
        after.isDirectory path = true := by
  unfold ensureDirectory
  obtain ⟨failure, refused⟩ | ⟨place, leads, free, made⟩ := makeDirectory_cases files path
  · rw [refused]
    dsimp only
    split
    next there => exact .inr ⟨files, rfl, .refl files, (Bool.and_eq_true_iff.mp there).2⟩
    next => exact .inl ⟨failure, rfl⟩
  · rw [made]
    have extended := extends_set_directory free
    have ne : place ≠ [] := by
      rintro rfl
      cases free
    refine .inr ⟨_, rfl, extended, isDirectory_iff.mpr ⟨place, ?_, ?_⟩⟩
    · exact locate_of_keeps extended.toKeepsDirectories leads
    · rw [at?_set ne, if_pos rfl]

theorem ensureDirectory_ok (h : files.ensureDirectory path = (after, .ok ())) :
    files.Extends after ∧ after.isDirectory path = true := by
  obtain ⟨failure, refused⟩ | ⟨made, ensured, extended, there⟩ := ensureDirectory_cases files path
  · rw [refused] at h
    cases h
  · rw [ensured] at h
    cases h
    exact ⟨extended, there⟩

theorem ensureParts_ok {start : Start} {parts : List String}
    (h : ensureParts start parts files = (after, .ok ())) :
    files.Extends after ∧ after.isDirectory ⟨start, parts.reverse⟩ = true := by
  induction parts generalizing files after with
  | nil => exact ensureDirectory_ok h
  | cons part before ih =>
    unfold ensureParts at h
    dsimp only at h
    obtain ⟨failure, refused⟩ | ⟨made, ensured, extended, there⟩ :=
      ensureDirectory_cases files ⟨start, (part :: before).reverse⟩
    · rw [refused] at h
      dsimp only at h
      split at h
      next =>
        split at h
        next middle above =>
          obtain ⟨first, -⟩ := ih above
          obtain ⟨second, there⟩ := ensureDirectory_ok h
          exact ⟨first.trans second, there⟩
        next => cases h
      next => cases h
    · rw [ensured] at h
      cases h
      exact ⟨extended, there⟩

/-- Where directories were made the path leads to one, and no file has changed. -/
theorem ensureDirectories_ok (h : files.ensureDirectories path = (after, .ok ())) :
    files.Extends after ∧ after.isDirectory path = true := by
  have made := ensureParts_ok h
  rwa [List.reverse_reverse] at made

/-- A directory that is there is left as it is. -/
theorem ensureDirectories_of_isDirectory (h : files.isDirectory path = true) :
    files.ensureDirectories path = (files, .ok ()) := by
  have ensured : files.ensureDirectory path = (files, .ok ()) := by
    obtain ⟨place, leads, here⟩ := isDirectory_iff.mp h
    have occupied : files.makeDirectory path = (files, .error ⟨.occupied, path.text⟩) := by
      simp [makeDirectory, leads, here]
    simp [ensureDirectory, occupied, h]
  unfold ensureDirectories
  cases hp : path.parts.reverse with
  | nil =>
    have whole : path = ⟨path.start, []⟩ := by
      rw [← List.reverse_eq_nil_iff.mp hp]
    rw [ensureParts, ← whole, ensured]
  | cons part before =>
    have whole : path = ⟨path.start, (part :: before).reverse⟩ := by
      rw [← hp, List.reverse_reverse]
    rw [ensureParts, ← whole, ensured]

theorem writeText_of_locate (leads : files.locate path = .ok place)
    (free : files.at? place ≠ some .directory) (text : String) :
    files.writeText path text = (files.set place (.file (Text.Utf8.encode text)), .ok ()) := by
  unfold writeText update
  rw [leads]
  dsimp only
  split
  next here => exact absurd here free
  next => rfl
  next => rfl

/-- A text is written at the place of the path, where no directory is. -/
theorem writeText_ok {text : String} (h : files.writeText path text = (after, .ok ())) :
    ∃ place, files.locate path = .ok place ∧ files.at? place ≠ some .directory ∧
      after = files.set place (.file (Text.Utf8.encode text)) := by
  unfold writeText update at h
  split at h
  next => cases h
  next place leads =>
    refine ⟨place, leads, ?_⟩
    split at h
    next => cases h
    next bytes here =>
      cases h
      exact ⟨by rw [here]; simp, rfl⟩
    next free =>
      cases h
      exact ⟨by rw [free]; simp, rfl⟩

/-- The bytes of the file at a place; where there is none they are none. -/
def bytesAt (files : Files) (place : List String) : List UInt8 :=
  match files.at? place with
  | some (.file bytes) => bytes
  | _ => []

theorem bytesAt_of_file {bytes : List UInt8} (h : files.at? place = some (.file bytes)) :
    files.bytesAt place = bytes := by
  rw [bytesAt, h]

/-- A text is added to what is at the place of the path. -/
theorem appendText_of_locate (leads : files.locate path = .ok place)
    (free : files.at? place ≠ some .directory) (text : String) :
    files.appendText path text =
      (files.set place (.file (files.bytesAt place ++ Text.Utf8.encode text)), .ok ()) := by
  unfold appendText update bytesAt
  rw [leads]
  dsimp only
  split
  next here => exact absurd here free
  next bytes here => rw [here]
  next none => rw [none]

theorem appendText_of_error {cause : Cause} (h : files.locate path = .error cause) (text : String) :
    files.appendText path text = (files, .error ⟨cause, path.text⟩) := by
  unfold appendText update
  rw [h]

end GraphScript.Files
