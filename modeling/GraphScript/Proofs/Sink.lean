import GraphScript.Log.Sink
import GraphScript.Proofs.Declaration
import GraphScript.Proofs.Encoding

namespace GraphScript

theorem Text.Utf8.encode_empty : encode "" = [] :=
  encode_ofList []

theorem Text.Utf8.encode_append (first second : String) :
    encode (first ++ second) = encode first ++ encode second := by
  rw [← String.ofList_toList (s := first), ← String.ofList_toList (s := second),
    ← String.ofList_append, encode_ofList, encode_ofList, encode_ofList, List.flatMap_append]

namespace Files

namespace Path

/-- What is added to a text without slashes goes to the last of its pieces. -/
theorem piecesFrom_append (piece cs : List Char) :
    ∃ front last, ∀ more, '/' ∉ more →
      piecesFrom piece (cs ++ more) = front ++ [String.ofList (last ++ more)] := by
  induction cs generalizing piece with
  | nil => exact ⟨[], piece.reverse, fun more plain => piecesFrom_of_not_mem plain piece⟩
  | cons c cs ih =>
    by_cases slash : c = '/'
    · obtain ⟨front, last, pieces⟩ := ih []
      refine ⟨String.ofList piece.reverse :: front, last, fun more plain => ?_⟩
      rw [List.cons_append, piecesFrom, if_pos slash, pieces more plain]
      rfl
    · obtain ⟨front, last, pieces⟩ := ih (c :: piece)
      refine ⟨front, last, fun more plain => ?_⟩
      rw [List.cons_append, piecesFrom, if_neg slash, pieces more plain]

theorem startOf_append (text : String) {c : Char} (other : c ≠ '/') (more : List Char) :
    startOf (String.ofList (text.toList ++ c :: more)) = startOf text := by
  have same (cs : List Char) :
      (cs ++ c :: more).takeWhile (· == '/') = cs.takeWhile (· == '/') := by
    induction cs with
    | nil => simp [other]
    | cons d cs ih => by_cases slash : d = '/' <;> simp [slash, ih]
  rw [startOf, String.toList_ofList, same]
  rfl

/-- What is added to a text behind an underscore goes to the last part of its path. -/
theorem ofText_append (text : String) : ∃ front first, ∀ more : String, '/' ∉ more.toList →
    1 < more.length →
      ofText (text ++ ("_" ++ more)) = ⟨startOf text, front ++ [first ++ ("_" ++ more)]⟩ := by
  obtain ⟨front, last, pieces⟩ := piecesFrom_append [] text.toList
  refine ⟨front.filter fun part => part != "" && part != ".", String.ofList last,
    fun more plain long => ?_⟩
  have letters : ("_" ++ more).toList = '_' :: more.toList := by simp
  have slashless : '/' ∉ ("_" ++ more).toList := by
    rw [letters]
    simp [plain]
  have joined : String.ofList (last ++ ("_" ++ more).toList) = String.ofList last ++ ("_" ++ more) := by
    rw [String.ofList_append, String.ofList_toList]
  have ne (short : String) (hs : short.length ≤ 1) : String.ofList last ++ ("_" ++ more) ≠ short := by
    rintro rfl
    rw [String.length_append, String.length_append] at hs
    omega
  have part : (String.ofList last ++ ("_" ++ more) != "" &&
      String.ofList last ++ ("_" ++ more) != ".") = true := by
    rw [Bool.and_eq_true_iff, bne_iff_ne, bne_iff_ne]
    exact ⟨ne "" (by decide), ne "." (by decide)⟩
  have kept : [String.ofList last ++ ("_" ++ more)].filter (fun part => part != "" && part != ".") =
      [String.ofList last ++ ("_" ++ more)] := by
    rw [List.filter_cons, if_pos part, List.filter_nil]
  have whole : text ++ ("_" ++ more) = String.ofList (text.toList ++ ("_" ++ more).toList) := by
    rw [String.ofList_append, String.ofList_toList, String.ofList_toList]
  rw [ofText, whole, String.toList_ofList, pieces _ slashless, List.filter_append, joined, kept, letters,
    startOf_append _ (by decide)]

end Path

theorem follow_concat {files : Files} {place parts target : List String} {part : String}
    (h : files.follow place (parts ++ [part]) = .ok target) (down : part ≠ "..") :
    ∃ middle, target = middle ++ [part] := by
  induction parts generalizing place with
  | nil =>
    rw [List.nil_append, follow] at h
    split at h
    next => cases h
    next => cases h
    next =>
      split at h
      next => cases h
      next =>
        cases h
        exact ⟨place, rfl⟩
  | cons first parts ih =>
    rw [List.cons_append, follow] at h
    split at h
    next => cases h
    next => cases h
    next =>
      split at h
      next => cases h
      next => exact ih h

end Files

namespace Log

section

variable {α : Type}

theorem lookup_entry (key : String) (value : α) (entries : List (String × α)) (other : String) :
    List.lookup other ((key, value) :: entries) =
      if other = key then some value else entries.lookup other := by
  by_cases same : other = key
  · simp [same]
  · have apart : (other == key) = false := by simpa using same
    rw [List.lookup_cons, apart, if_neg same]

theorem lookup_assign (key : String) (value : α) (entries : List (String × α)) (other : String) :
    (assign key value entries).lookup other = if other = key then some value else entries.lookup other := by
  induction entries with
  | nil => exact lookup_entry key value [] other
  | cons entry entries ih =>
    obtain ⟨k, v⟩ := entry
    unfold assign
    by_cases here : k = key
    · rw [if_pos here, lookup_entry, lookup_entry, here]
      split
      next => rfl
      next => rfl
    · rw [if_neg here, lookup_entry, lookup_entry, ih]
      by_cases found : other = k
      · simp [found, here]
      · simp [found]

theorem mem_keys_assign {key : String} {value : α} {entries : List (String × α)} {name : String} :
    name ∈ (assign key value entries).map Prod.fst ↔ name = key ∨ name ∈ entries.map Prod.fst := by
  rw [← isSome_lookup_iff, ← isSome_lookup_iff, lookup_assign]
  by_cases same : name = key <;> simp [same]

theorem nodup_keys_assign (key : String) (value : α) {entries : List (String × α)}
    (h : (entries.map Prod.fst).Nodup) : ((assign key value entries).map Prod.fst).Nodup := by
  induction entries with
  | nil => exact List.nodup_singleton key
  | cons entry entries ih =>
    obtain ⟨k, v⟩ := entry
    obtain ⟨new, others⟩ := List.nodup_cons.mp h
    unfold assign
    split
    next => exact List.nodup_cons.mpr ⟨new, others⟩
    next other =>
      refine List.nodup_cons.mpr ⟨fun hm => ?_, ih others⟩
      rcases mem_keys_assign.mp hm with same | hm
      · exact other same
      · exact new hm

end

namespace FileSink

/-- The files of a sink lie in one directory, with the streams in their names. -/
theorem pathFor_eq (sink : FileSink) : ∃ (folder : Files.Path) (first : String),
    ∀ stream : String, '/' ∉ stream.toList →
      sink.pathFor stream = ⟨folder.start, folder.parts ++ [first ++ ("_" ++ (stream ++ ".jsonl"))]⟩ := by
  obtain ⟨front, first, name⟩ := Files.Path.ofText_append sink.session
  have plain {stream : String} (h : '/' ∉ stream.toList) : '/' ∉ (stream ++ ".jsonl").toList := by
    simp [h]
  have whole (stream : String) : sink.session ++ "_" ++ stream ++ ".jsonl" =
      sink.session ++ ("_" ++ (stream ++ ".jsonl")) := by
    simp only [String.append_assoc]
  have long (stream : String) : 1 < (stream ++ ".jsonl").length := by
    have ending : ".jsonl".length = 6 := by decide
    rw [String.length_append]
    omega
  by_cases relative : Files.Path.startOf sink.session = .relative
  · refine ⟨⟨sink.directory.start, sink.directory.parts ++ front⟩, first, fun stream h => ?_⟩
    rw [pathFor, whole, name _ (plain h) (long stream), Files.Path.join, if_pos relative,
      List.append_assoc]
  · refine ⟨⟨Files.Path.startOf sink.session, front⟩, first, fun stream h => ?_⟩
    rw [pathFor, whole, name _ (plain h) (long stream), Files.Path.join, if_neg relative]

/-- Different streams have different files. -/
theorem place_inj {sink : FileSink} {files : Files} {stream stream' : String} {place : List String}
    (plain : '/' ∉ stream.toList) (plain' : '/' ∉ stream'.toList)
    (h : files.locate (sink.pathFor stream) = .ok place)
    (h' : files.locate (sink.pathFor stream') = .ok place) : stream = stream' := by
  obtain ⟨folder, first, path⟩ := sink.pathFor_eq
  have down (stream : String) : first ++ ("_" ++ (stream ++ ".jsonl")) ≠ ".." := by
    intro same
    have lengths := congrArg String.length same
    simp only [String.length_append] at lengths
    have ending : ".jsonl".length = 6 := by decide
    have up : "..".length = 2 := by decide
    omega
  rw [path stream plain] at h
  rw [path stream' plain'] at h'
  obtain ⟨middle, rfl⟩ := Files.follow_concat (Files.locate_follow h) (down stream)
  obtain ⟨middle', same⟩ := Files.follow_concat (Files.locate_follow h') (down stream')
  have names := (List.append_inj' same rfl).2
  simpa [← String.toList_inj] using names

/-- A sink that was not used, on a directory that is there and holds none of its files. -/
structure IsUnused (sink : FileSink) (files : Files) : Prop where
  begun : sink.begun = []
  there : files.isDirectory sink.directory = true
  free : ∀ stream : String, '/' ∉ stream.toList → ∀ place,
    files.locate (sink.pathFor stream) = .ok place → files.at? place = none

/-- A new sink on an empty directory is one, unless its session leads elsewhere. -/
theorem isUnused_of_empty {sink : FileSink} {files : Files} {folder : List String}
    (begun : sink.begun = []) (plain : '/' ∉ sink.session.toList)
    (leads : files.locate sink.directory = .ok folder) (there : files.at? folder = some .directory)
    (empty : ∀ name, files.at? (folder ++ [name]) = none) : sink.IsUnused files where
  begun := begun
  there := Files.isDirectory_iff.mpr ⟨folder, leads, there⟩
  free := by
    intro stream plainStream place h
    have part : Files.Path.IsPart (sink.session ++ "_" ++ stream ++ ".jsonl") := by
      refine Files.Path.isPart_of_not_mem (by simp [plain, plainStream]) ?_
      have ending : ".jsonl".length = 6 := by decide
      rw [String.length_append]
      omega
    rw [Files.locate_part leads part h]
    exact empty _

/-- What stays as it was from the first use on: where the files go, the directories, and what is at
other places than theirs. The streams that were begun have files. -/
structure Keeps (origin : FileSink) (base : Files) (state : FileSink × Files) : Prop where
  directory : state.1.directory = origin.directory
  session : state.1.session = origin.session
  same : base.SameDirectories state.2
  distinct : (state.1.begun.map Prod.fst).Nodup
  begun : ∀ stream ∈ state.1.begun.map Prod.fst, '/' ∉ stream.toList ∧ ∃ place bytes,
    base.locate (origin.pathFor stream) = .ok place ∧ state.2.at? place = some (.file bytes)
  others : ∀ place, (∀ stream : String, '/' ∉ stream.toList →
    base.locate (origin.pathFor stream) ≠ .ok place) → state.2.at? place = base.at? place

def put (state : FileSink × Files) (stream : String) (place : List String) (s : Stream)
    (bytes : List UInt8) : FileSink × Files :=
  ({ state.1 with begun := assign stream s state.1.begun }, state.2.set place (.file bytes))

variable {origin : FileSink} {base : Files} {state : FileSink × Files} {stream : String}
  {place : List String}

theorem IsUnused.keeps (unused : origin.IsUnused base) : Keeps origin base (origin, base) where
  directory := rfl
  session := rfl
  same := .refl base
  distinct := by
    rw [unused.begun]
    exact List.nodup_nil
  begun := by
    rw [unused.begun]
    exact fun stream hs => by cases hs
  others := fun place _ => rfl

namespace Keeps

theorem pathFor_eq (keeps : Keeps origin base state) (stream : String) :
    state.1.pathFor stream = origin.pathFor stream := by
  rw [pathFor, pathFor, keeps.directory, keeps.session]

theorem locate (keeps : Keeps origin base state) (leads : base.locate (origin.pathFor stream) = .ok place) :
    state.2.locate (state.1.pathFor stream) = .ok place := by
  rw [keeps.pathFor_eq]
  exact keeps.same.locate_iff.mpr leads

theorem ne_directory (unused : origin.IsUnused base) (keeps : Keeps origin base state)
    (plain : '/' ∉ stream.toList) (leads : base.locate (origin.pathFor stream) = .ok place) :
    state.2.at? place ≠ some .directory := by
  rw [Ne, keeps.same.directories, unused.free stream plain place leads]
  exact fun here => by cases here

theorem put (unused : origin.IsUnused base) (keeps : Keeps origin base state)
    (plain : '/' ∉ stream.toList) (leads : base.locate (origin.pathFor stream) = .ok place)
    (s : Stream) (bytes : List UInt8) : Keeps origin base (put state stream place s bytes) := by
  have apart := keeps.ne_directory unused plain leads
  have written (other : List String) : (state.2.set place (.file bytes)).at? other =
      if other = place then some (.file bytes) else state.2.at? other :=
    Files.at?_set (Files.ne_root apart) _ other
  refine ⟨keeps.directory, keeps.session, keeps.same.trans (.set_file apart bytes),
    nodup_keys_assign _ _ keeps.distinct, fun name hn => ?_, fun other free => ?_⟩
  · rcases mem_keys_assign.mp hn with rfl | hn
    · exact ⟨plain, place, bytes, leads, (written place).trans (if_pos rfl)⟩
    · obtain ⟨plain', place', bytes', leads', here⟩ := keeps.begun name hn
      by_cases same : place' = place
      · exact ⟨plain', place', bytes, leads', (written place').trans (if_pos same)⟩
      · exact ⟨plain', place', bytes', leads', ((written place').trans (if_neg same)).trans here⟩
  · have other' : other ≠ place := fun same => free stream plain (same ▸ leads)
    exact ((written other).trans (if_neg other')).trans (keeps.others other free)

end Keeps

/-- At most one stream and one file differ. -/
structure Touches (stream : String) (place : List String) (state after : FileSink × Files) : Prop where
  begun : ∀ name, name ≠ stream → after.1.begun.lookup name = state.1.begun.lookup name
  files : ∀ other, other ≠ place → after.2.at? other = state.2.at? other

theorem Touches.refl (state : FileSink × Files) : Touches stream place state state :=
  ⟨fun _ _ => rfl, fun _ _ => rfl⟩

theorem Touches.trans {middle after : FileSink × Files} (h : Touches stream place state middle)
    (h' : Touches stream place middle after) : Touches stream place state after :=
  ⟨fun name hn => (h'.begun name hn).trans (h.begun name hn),
    fun other ho => (h'.files other ho).trans (h.files other ho)⟩

theorem touches_put (ne : place ≠ []) (s : Stream) (bytes : List UInt8) :
    Touches stream place state (put state stream place s bytes) :=
  ⟨fun name hn => (lookup_assign stream s _ name).trans (if_neg hn),
    fun other ho => (Files.at?_set ne _ other).trans (if_neg ho)⟩

/-- A stream that is begun already, or one with only a header. -/
def known (origin : FileSink) (clock : Clock) (stream : String) (begun : Option Stream) : Stream :=
  begun.getD ⟨[], line (origin.header clock stream)⟩

theorem begin_ok (unused : origin.IsUnused base) (keeps : Keeps origin base state)
    (plain : '/' ∉ stream.toList) (leads : base.locate (origin.pathFor stream) = .ok place)
    (clock : Clock) :
    ∃ after, state.1.begin clock stream state.2 = (after, .ok ()) ∧ Keeps origin base after ∧
      Touches stream place state after ∧
      after.1.begun.lookup stream = some (origin.known clock stream (state.1.begun.lookup stream)) ∧
      after.2.at? place = some (.file (state.2.bytesAt place)) := by
  have apart := keeps.ne_directory unused plain leads
  unfold begin
  cases hb : state.1.begun.lookup stream with
  | some s =>
    have key : stream ∈ state.1.begun.map Prod.fst := isSome_lookup_iff.mp (by rw [hb]; rfl)
    obtain ⟨-, place', bytes, leads', here⟩ := keeps.begun stream key
    cases leads.symm.trans leads'
    refine ⟨state, if_pos rfl, keeps, .refl state, hb, ?_⟩
    rw [here, Files.bytesAt_of_file here]
  | none =>
    have there : state.2.isDirectory state.1.directory = true := by
      rw [keeps.directory]
      exact keeps.same.isDirectory unused.there
    have header : state.1.header clock stream = origin.header clock stream := by
      rw [FileSink.header, FileSink.header, keeps.session]
    refine ⟨put state stream place (origin.known clock stream none) (state.2.bytesAt place), ?_,
      keeps.put unused plain leads _ _, touches_put (Files.ne_root apart) _ _, ?_, ?_⟩
    · rw [Files.ensureDirectories_of_isDirectory there]
      dsimp only
      rw [Files.appendText_of_locate (keeps.locate leads) apart, Text.Utf8.encode_empty, List.append_nil,
        header]
      rfl
    · exact (lookup_assign stream _ _ stream).trans (if_pos rfl)
    · exact (Files.at?_set (Files.ne_root apart) _ place).trans (if_pos rfl)

/-- Whether a line waits or leaves with all that waits, nothing gets lost. -/
theorem push_eq (s : Stream) (text : String) :
    (s.push text).1.counts = s.counts ∧
      Text.Utf8.encode (s.push text).2 ++ Text.Utf8.encode (s.push text).1.waiting =
        Text.Utf8.encode (s.waiting ++ text) := by
  unfold Stream.push
  dsimp only
  split
  next => simp [Text.Utf8.encode_empty]
  next => simp [Text.Utf8.encode_empty]

theorem added_eq (clock : Clock) (record : Params) (s : Stream) :
    (added clock record s).1.counts = count (typeOf record) s.counts ∧
      Text.Utf8.encode (added clock record s).2 ++ Text.Utf8.encode (added clock record s).1.waiting =
        Text.Utf8.encode (s.waiting ++ line (timed clock record)) :=
  push_eq ⟨count (typeOf record) s.counts, s.waiting⟩ _

theorem emit_of_begin {middle : FileSink × Files} {clock : Clock} {s : Stream}
    (begins : state.1.begin clock stream state.2 = (middle, .ok ()))
    (opened : middle.1.begun.lookup stream = some s) (record : Params) :
    state.1.emit clock stream record state.2 =
      (({ middle.1 with begun := assign stream (added clock record s).1 middle.1.begun },
        if (added clock record s).2 = "" then middle.2
        else (middle.2.appendText (middle.1.pathFor stream) (added clock record s).2).1), .ok ()) := by
  unfold emit
  rw [begins]
  dsimp only
  rw [opened]
  rfl

/-- A record for a stream whose file has a place is taken: it is counted, and what is in the file and
what waits grow together by its line. -/
theorem emit_ok (unused : origin.IsUnused base) (keeps : Keeps origin base state)
    (plain : '/' ∉ stream.toList) (leads : base.locate (origin.pathFor stream) = .ok place)
    (clock : Clock) (record : Params) :
    ∃ after s bytes, state.1.emit clock stream record state.2 = (after, .ok ()) ∧
      Keeps origin base after ∧ Touches stream place state after ∧
      after.1.begun.lookup stream = some s ∧ after.2.at? place = some (.file bytes) ∧
      s.counts = count (typeOf record)
        (origin.known clock stream (state.1.begun.lookup stream)).counts ∧
      bytes ++ Text.Utf8.encode s.waiting = state.2.bytesAt place ++ Text.Utf8.encode
        ((origin.known clock stream (state.1.begun.lookup stream)).waiting ++
          line (timed clock record)) := by
  obtain ⟨middle, begins, kept, touched, opened, here⟩ := begin_ok unused keeps plain leads clock
  obtain ⟨counts, waiting⟩ :=
    added_eq clock record (origin.known clock stream (state.1.begun.lookup stream))
  have emits := emit_of_begin begins opened record
  revert counts waiting emits
  generalize added clock record (origin.known clock stream (state.1.begun.lookup stream)) = grown
  obtain ⟨s, out⟩ := grown
  intro counts waiting emits
  dsimp only at counts waiting emits
  have apart := kept.ne_directory unused plain leads
  have ne := Files.ne_root apart
  have files : (if out = "" then middle.2 else (middle.2.appendText (middle.1.pathFor stream) out).1) =
      middle.2.set place (.file (state.2.bytesAt place ++ Text.Utf8.encode out)) := by
    split
    next none =>
      rw [none, Text.Utf8.encode_empty, List.append_nil, Files.set,
        Files.setEntry_of_lookup ((Files.at?_eq_lookup ne).symm.trans here)]
    next => rw [Files.appendText_of_locate (kept.locate leads) apart, Files.bytesAt_of_file here]
  rw [files] at emits
  refine ⟨put middle stream place s (state.2.bytesAt place ++ Text.Utf8.encode out), s, _, emits,
    kept.put unused plain leads _ _, touched.trans (touches_put ne _ _),
    (lookup_assign stream _ _ stream).trans (if_pos rfl),
    (Files.at?_set ne _ place).trans (if_pos rfl), counts, ?_⟩
  rw [List.append_assoc, waiting]

/-- A record for a stream whose file has no place is refused, and nothing changes. -/
theorem emit_error (unused : origin.IsUnused base) (keeps : Keeps origin base state)
    (astray : ∀ place, base.locate (origin.pathFor stream) ≠ .ok place) (clock : Clock)
    (record : Params) :
    ∃ failure, state.1.emit clock stream record state.2 = (state, .error failure) := by
  have idle : state.1.begun.lookup stream = none := by
    refine Option.not_isSome_iff_eq_none.mp fun there => ?_
    obtain ⟨-, place, -, leads, -⟩ := keeps.begun stream (isSome_lookup_iff.mp there)
    exact astray place leads
  have there : state.2.isDirectory state.1.directory = true := by
    rw [keeps.directory]
    exact keeps.same.isDirectory unused.there
  obtain ⟨cause, fails⟩ : ∃ cause, state.2.locate (state.1.pathFor stream) = .error cause := by
    cases hl : state.2.locate (state.1.pathFor stream) with
    | error cause => exact ⟨cause, rfl⟩
    | ok place =>
      rw [keeps.pathFor_eq] at hl
      exact absurd (keeps.same.locate_iff.mp hl) (astray place)
  refine ⟨⟨cause, (state.1.pathFor stream).text⟩, ?_⟩
  unfold emit begin
  rw [idle, Files.ensureDirectories_of_isDirectory there]
  dsimp only
  rw [Files.appendText_of_error fails]
  rfl

/-- Streams of different names whose files are there. -/
structure Filed (origin : FileSink) (base : Files) (entries : List (String × Stream)) (files : Files) :
    Prop where
  same : base.SameDirectories files
  distinct : (entries.map Prod.fst).Nodup
  there : ∀ stream ∈ entries.map Prod.fst, '/' ∉ stream.toList ∧ ∃ place bytes,
    base.locate (origin.pathFor stream) = .ok place ∧ files.at? place = some (.file bytes)

/-- What the first of some streams writes goes to the end of its own file, which no later one has. -/
theorem Filed.append {name : String} {first : Stream} {rest : List (String × Stream)} {files : Files}
    (h : Filed origin base ((name, first) :: rest) files) {path : Files.Path}
    (own : path = origin.pathFor name) (text : String) :
    ∃ place bytes after, base.locate (origin.pathFor name) = .ok place ∧
      files.at? place = some (.file bytes) ∧ files.appendText path text = (after, .ok ()) ∧
      (∀ other, after.at? other =
        if other = place then some (.file (bytes ++ Text.Utf8.encode text)) else files.at? other) ∧
      (∀ stream ∈ rest.map Prod.fst, base.locate (origin.pathFor stream) ≠ .ok place) ∧
      Filed origin base rest after := by
  obtain ⟨new, distinct⟩ := List.nodup_cons.mp h.distinct
  obtain ⟨⟨plain, place, bytes, leads, here⟩, there⟩ := List.forall_mem_cons.mp h.there
  have apart : files.at? place ≠ some .directory := by
    rw [here]
    exact fun other => by cases other
  have written (other : List String) :
      (files.set place (.file (bytes ++ Text.Utf8.encode text))).at? other =
        if other = place then some (.file (bytes ++ Text.Utf8.encode text)) else files.at? other :=
    Files.at?_set (Files.ne_root apart) _ other
  have later : ∀ stream ∈ rest.map Prod.fst, base.locate (origin.pathFor stream) ≠ .ok place :=
    fun stream hs same => new (place_inj plain (there stream hs).1 leads same ▸ hs)
  refine ⟨place, bytes, _, leads, here, ?_, written, later, h.same.trans (.set_file apart _), distinct,
    fun stream hs => ?_⟩
  · have leads' : files.locate path = .ok place := by
      rw [own]
      exact h.same.locate_iff.mpr leads
    rw [Files.appendText_of_locate leads' apart, Files.bytesAt_of_file here]
  · obtain ⟨plain', place', bytes', leads', here'⟩ := there stream hs
    have away : place' ≠ place := fun same => later stream hs (same ▸ leads')
    exact ⟨plain', place', bytes', leads', (written place').trans ((if_neg away).trans here')⟩

theorem writeStreams_ok {sink : FileSink} (paths : ∀ stream, sink.pathFor stream = origin.pathFor stream)
    (ending : String → Stream → String) {entries : List (String × Stream)} {files : Files}
    (h : Filed origin base entries files) :
    base.SameDirectories (sink.writeStreams ending entries files) ∧
      (∀ other, (∀ stream ∈ entries.map Prod.fst, base.locate (origin.pathFor stream) ≠ .ok other) →
        (sink.writeStreams ending entries files).at? other = files.at? other) ∧
      ∀ stream s place bytes, entries.lookup stream = some s →
        base.locate (origin.pathFor stream) = .ok place → files.at? place = some (.file bytes) →
        (sink.writeStreams ending entries files).at? place =
          some (.file (bytes ++ Text.Utf8.encode (s.waiting ++ ending stream s))) := by
  induction entries generalizing files with
  | nil => exact ⟨h.same, fun _ _ => rfl, fun _ _ _ _ hl => by cases hl⟩
  | cons entry rest ih =>
    obtain ⟨name, first⟩ := entry
    obtain ⟨place, bytes, after, leads, here, appended, written, later, filed⟩ :=
      h.append (paths name) (first.waiting ++ ending name first)
    obtain ⟨same, others, own⟩ := ih filed
    rw [writeStreams, appended]
    refine ⟨same, fun other free => ?_, fun stream s place' bytes' hl leads' here' => ?_⟩
    · obtain ⟨free', free⟩ := List.forall_mem_cons.mp free
      have away : other ≠ place := fun same => free' (same ▸ leads)
      rw [others other free, written, if_neg away]
    · rw [lookup_entry] at hl
      split at hl
      next this =>
        cases hl
        rw [this] at leads' ⊢
        cases leads.symm.trans leads'
        cases here.symm.trans here'
        rw [others place later, written, if_pos rfl]
      next =>
        have hs : stream ∈ rest.map Prod.fst := isSome_lookup_iff.mp (by rw [hl]; rfl)
        have away : place' ≠ place := fun same => later stream hs (same ▸ leads')
        exact own stream s place' bytes' hl leads' ((written place').trans ((if_neg away).trans here'))

theorem close_ok (keeps : Keeps origin base state) (clock : Clock) :
    Keeps origin base (state.1.close clock state.2) ∧
      (state.1.close clock state.2).1.begun = [] ∧
      ∀ stream place, '/' ∉ stream.toList → base.locate (origin.pathFor stream) = .ok place →
        (state.1.begun.lookup stream = none →
          (state.1.close clock state.2).2.at? place = state.2.at? place) ∧
        ∀ s bytes, state.1.begun.lookup stream = some s → state.2.at? place = some (.file bytes) →
          (state.1.close clock state.2).2.at? place = some (.file (bytes ++
            Text.Utf8.encode (s.waiting ++ line (footer clock stream s.counts)))) := by
  obtain ⟨same, others, own⟩ := writeStreams_ok keeps.pathFor_eq
    (fun stream s => line (footer clock stream s.counts)) ⟨keeps.same, keeps.distinct, keeps.begun⟩
  refine ⟨⟨keeps.directory, keeps.session, same, List.nodup_nil,
      fun stream hs => absurd hs List.not_mem_nil, fun other free => ?_⟩, rfl,
    fun stream place plain leads => ⟨fun idle => ?_, fun s bytes hl here => ?_⟩⟩
  · refine (others other fun stream hs => free stream (keeps.begun stream hs).1).trans ?_
    exact keeps.others other free
  · refine others place fun stream' hs same => ?_
    cases place_inj plain (keeps.begun stream' hs).1 leads same
    rw [← isSome_lookup_iff, idle] at hs
    cases hs
  · exact own stream s place bytes hl leads here

end FileSink

end Log

end GraphScript
