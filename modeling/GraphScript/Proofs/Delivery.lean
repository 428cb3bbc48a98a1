import GraphScript.Command.Run
import GraphScript.Proofs.Account
import GraphScript.Proofs.Storage

namespace GraphScript

namespace Files

namespace Path

/-- A text that is one part of a path and leads into a directory. -/
structure IsPart (name : String) : Prop where
  single : ofText name = ⟨.relative, [name]⟩
  ne_up : name ≠ ".."

theorem piecesFrom_of_not_mem {cs : List Char} (h : '/' ∉ cs) (piece : List Char) :
    piecesFrom piece cs = [String.ofList (piece.reverse ++ cs)] := by
  induction cs generalizing piece with
  | nil => simp [piecesFrom]
  | cons c rest ih =>
    have other : c ≠ '/' := fun same => h (same ▸ List.mem_cons_self)
    rw [piecesFrom, if_neg other, ih fun hm => h (List.mem_cons_of_mem _ hm)]
    simp

/-- A text without slashes that is longer than two characters is one part. -/
theorem isPart_of_not_mem {name : String} (h : '/' ∉ name.toList) (long : 2 < name.length) :
    IsPart name := by
  have ne {short : String} (bound : short.length ≤ 2) : name ≠ short := by
    rintro rfl
    omega
  have start : startOf name = .relative := by
    have none : name.toList.takeWhile (· == '/') = [] := by
      cases hc : name.toList with
      | nil => rfl
      | cons c rest =>
        have other : c ≠ '/' := by
          rintro rfl
          exact h (hc ▸ List.mem_cons_self)
        simp [other]
    rw [startOf, none]
    rfl
  refine ⟨?_, ne (by decide)⟩
  rw [ofText, start, piecesFrom_of_not_mem h]
  simp [ne (show "".length ≤ 2 by decide), ne (show ".".length ≤ 2 by decide)]

theorem IsPart.join {name : String} (h : IsPart name) (directory : Path) :
    directory.join (ofText name) = ⟨directory.start, directory.parts ++ [name]⟩ := by
  rw [h.single]
  rfl

end Path

variable {files : Files} {directory : Path} {place : List String}

theorem locate_part (base : files.locate directory = .ok place) {name : String}
    (part : Path.IsPart name) {target : List String}
    (h : files.locate (directory.join (.ofText name)) = .ok target) : target = place ++ [name] := by
  have way := locate_follow h
  rw [part.join] at way
  rw [follow_append (locate_follow base)] at way
  unfold follow at way
  split at way
  next => cases way
  next => cases way
  next =>
    split at way
    next => cases way
    next =>
      rw [if_neg part.ne_up] at way
      cases way
      rfl

/-- Whether the file of an artifact can be written in the directory at a place. -/
structure Writable (files : Files) (directory : Path) (place : List String) (a : Artifact) : Prop where
  leads : files.locate (directory.join (.ofText a.fileName)) = .ok (place ++ [a.fileName])
  free : files.at? (place ++ [a.fileName]) ≠ some .directory

/-- The files after an artifact was written in the directory at a place. -/
def deposit (place : List String) (files : Files) (a : Artifact) : Files :=
  files.set (place ++ [a.fileName]) (.file (Text.Utf8.encode a.source))

variable {a b : Artifact} {artifacts : List Artifact}

theorem at?_deposit (other : List String) :
    (files.deposit place a).at? other =
      if other = place ++ [a.fileName] then some (.file (Text.Utf8.encode a.source))
      else files.at? other :=
  at?_set (by simp) _ other

theorem deposit_keeps (free : files.at? (place ++ [a.fileName]) ≠ some .directory) :
    files.KeepsDirectories (files.deposit place a) :=
  ⟨rfl, fun other => (directory_set_file free _ other).mpr⟩

theorem keeps_deposit (free : files.at? (place ++ [a.fileName]) ≠ some .directory) :
    (files.deposit place a).KeepsDirectories files :=
  ⟨rfl, fun other => (directory_set_file free _ other).mp⟩

theorem writable_deposit (free : files.at? (place ++ [a.fileName]) ≠ some .directory) :
    (files.deposit place a).Writable directory place b ↔ files.Writable directory place b := by
  constructor
  · intro h
    exact ⟨locate_of_keeps (keeps_deposit free) h.leads, fun here =>
      h.free ((deposit_keeps free).directories _ here)⟩
  · intro h
    exact ⟨locate_of_keeps (deposit_keeps free) h.leads, fun here =>
      h.free ((keeps_deposit free).directories _ here)⟩

/-- Writing artifacts keeps all directories and what can be written. -/
theorem deposits_writable (h : ∀ a ∈ artifacts, files.Writable directory place a) :
    files.KeepsDirectories (artifacts.foldl (deposit place) files) ∧
      ∀ b, files.Writable directory place b →
        (artifacts.foldl (deposit place) files).Writable directory place b := by
  induction artifacts generalizing files with
  | nil => exact ⟨⟨rfl, fun _ here => here⟩, fun _ hb => hb⟩
  | cons a rest ih =>
    obtain ⟨first, others⟩ := List.forall_mem_cons.mp h
    obtain ⟨kept, writable⟩ := ih fun b hb => (writable_deposit first.free).mpr (others b hb)
    have here := deposit_keeps first.free
    refine ⟨⟨kept.working.trans here.working, fun q hq => ?_⟩, fun b hb => ?_⟩
    · exact kept.directories q (here.directories q hq)
    · exact writable b ((writable_deposit first.free).mpr hb)

theorem at?_deposits_other {other : List String} (h : ∀ a ∈ artifacts, other ≠ place ++ [a.fileName]) :
    (artifacts.foldl (deposit place) files).at? other = files.at? other := by
  induction artifacts generalizing files with
  | nil => rfl
  | cons a rest ih =>
    obtain ⟨first, others⟩ := List.forall_mem_cons.mp h
    rw [List.foldl_cons, ih others, at?_deposit, if_neg first]

theorem at?_deposits_latest {name : String} (h : Artifact.IsLatest Artifact.fileName name artifacts a) :
    (artifacts.foldl (deposit place) files).at? (place ++ [name]) =
      some (.file (Text.Utf8.encode a.source)) := by
  obtain ⟨before, after, rfl, rfl, others⟩ := h
  have apart : ∀ b ∈ after, place ++ [a.fileName] ≠ place ++ [b.fileName] := by
    intro b hb same
    exact others b hb (by simpa using same.symm)
  rw [List.foldl_append, List.foldl_cons, at?_deposits_other apart, at?_deposit, if_pos rfl]

theorem deposit_of_at?
    (h : files.at? (place ++ [a.fileName]) = some (.file (Text.Utf8.encode a.source))) :
    files.deposit place a = files := by
  rw [at?_eq_lookup (by simp)] at h
  rw [deposit, set, setEntry_of_lookup h]

/-- It does not matter what was written first if it is written again. -/
theorem deposits_overwritten (again : a.fileName ∈ artifacts.map Artifact.fileName)
    (there : (files.at? (place ++ [a.fileName])).isSome) :
    artifacts.foldl (deposit place) (files.deposit place a) =
      artifacts.foldl (deposit place) files := by
  induction artifacts generalizing files with
  | nil => cases again
  | cons b rest ih =>
    rw [List.foldl_cons, List.foldl_cons]
    by_cases same : b.fileName = a.fileName
    · have once : (files.deposit place a).deposit place b = files.deposit place b := by
        simp only [deposit, set, same, setEntry_setEntry]
      rw [once]
    · have later : a.fileName ∈ rest.map Artifact.fileName := by
        rw [List.map_cons] at again
        exact (List.mem_cons.mp again).resolve_left (Ne.symm same)
      have apart : place ++ [b.fileName] ≠ place ++ [a.fileName] := by simpa using same
      have swapped : (files.deposit place a).deposit place b =
          (files.deposit place b).deposit place a := by
        rw [at?_eq_lookup (by simp)] at there
        simp only [deposit, set, setEntry_comm apart there]
      rw [swapped]
      refine ih later ?_
      rw [at?_deposit, if_neg (Ne.symm apart)]
      exact there

/-- Writing once more what is there changes nothing. -/
theorem deposits_self (h : ∀ name a, Artifact.IsLatest Artifact.fileName name artifacts a →
      files.at? (place ++ [name]) = some (.file (Text.Utf8.encode a.source))) :
    artifacts.foldl (deposit place) files = files := by
  induction artifacts with
  | nil => rfl
  | cons a rest ih =>
    have others : ∀ name b, Artifact.IsLatest Artifact.fileName name rest b →
        files.at? (place ++ [name]) = some (.file (Text.Utf8.encode b.source)) := by
      rintro name b ⟨before, after, rfl, own, last⟩
      exact h name b ⟨a :: before, after, rfl, own, last⟩
    rw [List.foldl_cons]
    by_cases again : a.fileName ∈ rest.map Artifact.fileName
    · obtain ⟨b, hb, own⟩ := List.mem_map.mp again
      obtain ⟨c, latest⟩ := Artifact.exists_latest ⟨b, hb, own⟩
      have there := others a.fileName c latest
      rw [deposits_overwritten again (by rw [there]; rfl)]
      exact ih others
    · have last : ∀ b ∈ rest, b.fileName ≠ a.fileName := by
        intro b hb own
        exact again (List.mem_map.mpr ⟨b, hb, own⟩)
      have there := h a.fileName a ⟨[], rest, rfl, rfl, last⟩
      rw [deposit_of_at? there]
      exact ih others

/-- What writing artifacts in the directory at a place leaves: the latest source under each name, and
all other files as they were. -/
structure Delivered (artifacts : List Artifact) (place : List String) (before after : Files) :
    Prop where
  latest : ∀ name a, Artifact.IsLatest Artifact.fileName name artifacts a →
    after.at? (place ++ [name]) = some (.file (Text.Utf8.encode a.source))
  others : ∀ other bytes, (∀ a ∈ artifacts, other ≠ place ++ [a.fileName]) →
    (after.at? other = some (.file bytes) ↔ before.at? other = some (.file bytes))

end Files

namespace Command.Progress

open Files

variable {directory : Files.Path} {place : List String} {artifacts : List Artifact} {p p' : Progress}
  {paths : List Files.Path}

theorem writable_of_writeEach (base : p.files.locate directory = .ok place)
    (parts : ∀ a ∈ artifacts, Files.Path.IsPart a.fileName)
    (h : writeEach directory artifacts p = (p', .ok paths)) :
    ∀ a ∈ artifacts, p.files.Writable directory place a := by
  induction artifacts generalizing p p' paths with
  | nil => simp
  | cons a rest ih =>
    obtain ⟨part, others⟩ := List.forall_mem_cons.mp parts
    unfold writeEach at h
    dsimp only at h
    split at h
    next => cases h
    next written hw =>
      obtain ⟨target, leads, free, rfl⟩ := writeText_ok hw
      obtain rfl := locate_part base part leads
      have first : p.files.Writable directory place a := ⟨leads, free⟩
      split at h
      next last more later =>
        have kept := locate_of_keeps (deposit_keeps free) base
        have writable := ih (h := later) kept others
        exact List.forall_mem_cons.mpr ⟨first, fun b hb => (writable_deposit free).mp (writable b hb)⟩
      next => cases h

theorem writeEach_of_writable (h : ∀ a ∈ artifacts, p.files.Writable directory place a) :
    ∃ p', writeEach directory artifacts p =
        (p', .ok (artifacts.map fun a => directory.join (.ofText a.fileName))) ∧
      p'.files = artifacts.foldl (deposit place) p.files := by
  induction artifacts generalizing p with
  | nil => exact ⟨p, rfl, rfl⟩
  | cons a rest ih =>
    obtain ⟨first, others⟩ := List.forall_mem_cons.mp h
    let noted : Progress := Progress.note { p with files := p.files.deposit place a }
      [.message "importer" .debug ("Wrote " ++ (directory.join (.ofText a.fileName)).text)]
    have writable : ∀ b ∈ rest, noted.files.Writable directory place b := fun b hb =>
      (writable_deposit first.free).mpr (others b hb)
    obtain ⟨p', written, files⟩ := ih writable
    refine ⟨p', ?_, files⟩
    unfold noted deposit at written
    unfold writeEach
    dsimp only
    rw [writeText_of_locate first.leads first.free]
    dsimp only
    rw [written]
    rfl

theorem writeArtifacts_of_writable {made : Files}
    (ensured : p.files.ensureDirectories directory = (made, .ok ()))
    (writable : ∀ a ∈ artifacts, made.Writable directory place a) :
    ∃ p', p.writeArtifacts directory artifacts =
        (p', .ok (artifacts.map fun a => directory.join (.ofText a.fileName))) ∧
      p'.files = artifacts.foldl (deposit place) made := by
  unfold writeArtifacts
  rw [ensured]
  exact writeEach_of_writable (p := { p with files := made }) writable

/-- A successful write makes the directory, and then all files in it. -/
theorem writeArtifacts_ok (parts : ∀ a ∈ artifacts, Files.Path.IsPart a.fileName)
    (h : p.writeArtifacts directory artifacts = (p', .ok paths)) :
    ∃ made place, p.files.Extends made ∧ made.locate directory = .ok place ∧
      made.at? place = some .directory ∧ (∀ a ∈ artifacts, made.Writable directory place a) ∧
      p'.files = artifacts.foldl (deposit place) made ∧
      paths = artifacts.map fun a => directory.join (.ofText a.fileName) := by
  cases ensured : p.files.ensureDirectories directory with
  | mk made result =>
    cases result with
    | error failure =>
      rw [writeArtifacts, ensured] at h
      cases h
    | ok _ =>
      obtain ⟨extended, there⟩ := ensureDirectories_ok ensured
      obtain ⟨place, leads, here⟩ := isDirectory_iff.mp there
      have each : writeEach directory artifacts { p with files := made } = (p', .ok paths) := by
        rwa [writeArtifacts, ensured] at h
      have writable := writable_of_writeEach leads parts each
      obtain ⟨last, written, files⟩ := writeArtifacts_of_writable ensured writable
      rw [written] at h
      cases h
      exact ⟨made, place, extended, leads, here, writable, files, rfl⟩

theorem writeArtifacts_delivers (parts : ∀ a ∈ artifacts, Files.Path.IsPart a.fileName)
    (h : p.writeArtifacts directory artifacts = (p', .ok paths)) :
    ∃ place, p'.files.locate directory = .ok place ∧ p'.files.at? place = some .directory ∧
      Delivered artifacts place p.files p'.files ∧
      ∃ again, p'.writeArtifacts directory artifacts = (again, .ok paths) ∧
        again.files = p'.files := by
  obtain ⟨made, place, extended, leads, here, writable, files, rfl⟩ := writeArtifacts_ok parts h
  obtain ⟨kept, still⟩ := deposits_writable writable
  rw [← files] at kept still
  have latest : ∀ name a, Artifact.IsLatest Artifact.fileName name artifacts a →
      p'.files.at? (place ++ [name]) = some (.file (Text.Utf8.encode a.source)) := by
    intro name a last
    rw [files]
    exact at?_deposits_latest last
  have base := locate_of_keeps kept leads
  have there := kept.directories place here
  refine ⟨place, base, there, ⟨latest, fun other bytes apart => ?_⟩, ?_⟩
  · rw [files, at?_deposits_other apart]
    exact extended.files other bytes
  · have ensured := ensureDirectories_of_isDirectory (isDirectory_iff.mpr ⟨place, base, there⟩)
    obtain ⟨again, written, same⟩ :=
      writeArtifacts_of_writable ensured fun a ha => still a (writable a ha)
    refine ⟨again, written, ?_⟩
    rw [same]
    exact deposits_self latest

end Command.Progress

/-- The file of a class is one part of a path if the start of its name has no slash. -/
theorem assemble_isPart {config : Config} (plain : '/' ∉ config.classPrefix.toList) {entity : Entity}
    {a : Artifact} (h : (assemble config entity).result = .ok (some a)) :
    Files.Path.IsPart a.fileName := by
  obtain ⟨-, -, className, fileName⟩ := assemble_names h
  obtain ⟨name, letters, own⟩ := CSharp.className_chars config.classPrefix entity.id
  rw [className, own] at fileName
  have none : '/' ∉ name.toList := by
    intro hm
    have letter := letters '/' hm
    revert letter
    decide
  rw [fileName]
  refine Files.Path.isPart_of_not_mem ?_ ?_
  · simp [plain, none]
  · have ending : ".cs".length = 3 := rfl
    rw [String.length_append, ending]
    omega

/-- Compiling a project gives its artifacts if every integer fits a binary number, and it accounts for
all of them: there is one for each wanted entity with logic, in order; each has its record, which follows
that of its collision if there is one; the files are those of the latest artifacts; and the manifest
names the latest artifact of each entity. -/
theorem compileProject_accounts (config : Config) (wanted : Option (List String)) (project : Project)
    (settings : Log.Settings) :
    ((∀ n ∈ project.integers, (Binary64.ofInt? n).isSome) →
      ∃ artifacts, ((compileProject config wanted project).shown settings).result = .ok artifacts) ∧
    ∀ artifacts, ((compileProject config wanted project).shown settings).result = .ok artifacts →
      List.Forall₂ (fun entity a => (assemble config entity).result = .ok (some a) ∧
          a.entityId = entity.id)
        (project.entities.filter fun entity =>
          (wanted.all fun ids => ids.contains entity.id) && entity.hasLogic) artifacts ∧
      Artifact.Recorded [] artifacts ((compileProject config wanted project).shown settings).records ∧
      ((compileProject config wanted project).shown settings).records.filter
        (recordType? · == some "artifact") = artifacts.map Artifact.record ∧
      (((compileProject config wanted project).shown settings).records.filter
          (recordType? · == some "collision")).length +
        (artifacts.map Artifact.className).eraseDups.length = artifacts.length ∧
      ('/' ∉ config.classPrefix.toList →
        ∀ (directory : Files.Path) (p p' : Command.Progress) (paths : List Files.Path),
          p.writeArtifacts directory artifacts = (p', .ok paths) →
            ∃ place, p'.files.locate directory = .ok place ∧
              p'.files.at? place = some .directory ∧
              Files.Delivered artifacts place p.files p'.files ∧
              ∃ again, p'.writeArtifacts directory artifacts = (again, .ok paths) ∧
                again.files = p'.files) ∧
      ∃ entries, manifest artifacts =
          .record [("version", .int 1), ("entities", .map entries)] ∧
        entries.map Prod.fst = (artifacts.map Artifact.entityId).eraseDups.map .text ∧
        ∀ id a, Artifact.IsLatest Artifact.entityId id artifacts a →
          Value.find? id entries = some (.record [("class_name", .text a.className),
            ("file_name", .text a.fileName), ("animations", .list (a.animations.map .text))]) := by
  refine ⟨fun fits => ?_, fun artifacts h => ?_⟩
  · have succeeds := compileProject_succeeds_of_fits config wanted fits
    rw [succeeds.shown_eq]
    exact succeeds.ends
  have shown := Lowered.shown_eq_of_ok h
  rw [shown] at h ⊢
  obtain ⟨compiled, records⟩ := compileProject_result h
  obtain ⟨made, rfl, each, recorded⟩ := compileEntities_recorded compiled
  rw [← records] at recorded
  have wish (entity : Entity) :
      isWanted wanted entity = wanted.all fun ids => ids.contains entity.id := by
    cases wanted <;> rfl
  refine ⟨?_, recorded, recorded.filter_artifact, recorded.collisions,
    fun plain directory p p' paths hw => ?_, Artifact.attachments _, manifest_eq _,
    Artifact.keys_attachments _, fun id a latest => ?_⟩
  · have named := each.imp fun _ _ ha => And.intro ha (assemble_names ha).2.1
    rw [List.filter_filter] at named
    simpa only [wish, Bool.and_comm] using named
  · refine Command.Progress.writeArtifacts_delivers (fun a ha => ?_) hw
    obtain ⟨entity, -, own⟩ := exists_of_forall₂ each a ha
    exact assemble_isPart plain own
  · rw [Artifact.find?_attachments, Artifact.find?_reverse_iff.mpr latest]
    rfl

/-- An entity with a field of the given width, which says once that it is open. -/
def doorEntity (id : String) (width : Int) : Entity where
  id := id
  name := id
  type := none
  texture := none
  role := none
  tags := []
  x := .null
  y := .null
  rotation := .null
  scaleX := .null
  scaleY := .null
  vars := [⟨none, "width", "float", .int width⟩]
  events := [⟨none, "OnStart", [], none, [], some "Log", [("message", .text "open")]⟩]
  modules := []

/-- Doors of which the first and the last have classes of the same name. -/
def doorProject : Project :=
  .ofScene (.ofEntities [doorEntity "front door" 2, doorEntity "gate" 3, doorEntity "front-door" 4])

theorem compileProject_accounts_doors :
    ∃ config artifacts p' paths place, Config.Draft.default.check = .ok config ∧
      (∀ n ∈ doorProject.integers, (Binary64.ofInt? n).isSome) ∧
      ((compileProject config none doorProject).shown .initial).result = .ok artifacts ∧
      artifacts.map Artifact.fileName = ["Gen_front_door.cs", "Gen_gate.cs", "Gen_front_door.cs"] ∧
      (((compileProject config none doorProject).shown .initial).records.filter
        (recordType? · == some "collision")).length = 1 ∧
      Command.Progress.writeArtifacts (.ofText "out") artifacts ⟨"", [], [], .empty⟩ =
        (p', .ok paths) ∧
      Files.Delivered artifacts place .empty p'.files := by
  have small : ∀ n ∈ doorProject.integers, n.natAbs ≤ 2 ^ 10 := by decide
  have fits := Value.allBounded_of_small small
  obtain ⟨config, valid, start⟩ : ∃ config, Config.Draft.default.check = .ok config ∧
      config.classPrefix = "Gen_" := ⟨_, rfl, rfl⟩
  have ⟨returns, accounts⟩ := compileProject_accounts config none doorProject .initial
  obtain ⟨artifacts, compiled⟩ := returns fits
  obtain ⟨each, -, -, collisions, delivers, -⟩ := accounts artifacts compiled
  have names (name : String) {id : String} {width : Int} {a : Artifact}
      (own : CSharp.className "Gen_" id = name)
      (h : (assemble config (doorEntity id width)).result = .ok (some a)) :
      a.className = name ∧ a.fileName = name ++ ".cs" := by
    obtain ⟨-, -, className, fileName⟩ := assemble_names h
    rw [start] at className
    have same := className.trans own
    exact ⟨same, by rw [fileName, same]⟩
  obtain _ | @⟨_, a, _, _, ⟨first, -⟩, rest⟩ := each
  obtain _ | @⟨_, b, _, _, ⟨second, -⟩, rest⟩ := rest
  obtain _ | @⟨_, c, _, _, ⟨third, -⟩, rest⟩ := rest
  cases rest
  obtain ⟨classA, fileA⟩ := names "Gen_front_door" (by decide) first
  obtain ⟨classB, fileB⟩ := names "Gen_gate" (by decide) second
  obtain ⟨classC, fileC⟩ := names "Gen_front_door" (by decide) third
  have fileNames : [a, b, c].map Artifact.fileName =
      ["Gen_front_door.cs", "Gen_gate.cs", "Gen_front_door.cs"] := by
    simp [fileA, fileB, fileC]
  let made : Files := ⟨["work"], [(["work"], .directory), (["work", "out"], .directory)]⟩
  have ensured : Files.empty.ensureDirectories (.ofText "out") = (made, .ok ()) := by decide
  have free : ∀ name ∈ ["Gen_front_door.cs", "Gen_gate.cs", "Gen_front_door.cs"],
      made.locate (Files.Path.join (.ofText "out") (.ofText name)) = .ok (["work", "out"] ++ [name]) ∧
        made.at? (["work", "out"] ++ [name]) ≠ some .directory := by
    decide
  have writable : ∀ d ∈ [a, b, c], made.Writable (.ofText "out") ["work", "out"] d := by
    intro d hd
    have known : d.fileName ∈ ["Gen_front_door.cs", "Gen_gate.cs", "Gen_front_door.cs"] :=
      fileNames ▸ List.mem_map_of_mem hd
    exact ⟨(free _ known).1, (free _ known).2⟩
  obtain ⟨p', delivered, -⟩ :=
    Command.Progress.writeArtifacts_of_writable (p := ⟨"", [], [], .empty⟩) ensured writable
  obtain ⟨place, -, -, latest, -⟩ := delivers (by rw [start]; decide) _ _ _ _ delivered
  refine ⟨config, [a, b, c], p', _, place, valid, fits, compiled, fileNames, ?_, delivered, latest⟩
  have distinct : ([a, b, c].map Artifact.className).eraseDups.length = 2 := by
    have classes : [a, b, c].map Artifact.className =
        ["Gen_front_door", "Gen_gate", "Gen_front_door"] := by
      simp [classA, classB, classC]
    rw [classes]
    decide
  rw [distinct] at collisions
  exact Nat.add_right_cancel collisions

/-- An integer beyond the range of binary numbers stops the run, though only one field has it. -/
theorem compileProject_stops_at_huge_integer :
    ∃ config, Config.Draft.default.check = .ok config ∧
      ((compileProject config none (.ofScene (.ofEntities [doorEntity "door" (10 ^ 400)]))).shown
        .initial).result = .error .integerTooLarge := by
  refine ⟨_, rfl, ?_⟩
  decide +kernel

/-- The settings of the console decide nothing but what the console shows: under any two of them the
same artifacts are made and the same records sent, and a run leaves the same state behind. -/
theorem compileProject_under_any_console (config : Config) (wanted : Option (List String))
    {project : Project} (fits : ∀ n ∈ project.integers, (Binary64.ofInt? n).isSome)
    (first second : Log.Settings) :
    ∃ artifacts,
      ((compileProject config wanted project).shown first).result = .ok artifacts ∧
      ((compileProject config wanted project).shown second).result = .ok artifacts ∧
      ((compileProject config wanted project).shown first).records =
        ((compileProject config wanted project).shown second).records ∧
      ∀ (world : Command.World) (options : Command.Options) (p : Command.Progress),
        options.wanted = .ok wanted →
        Command.compileWith world options first config project p =
          Command.compileWith world options second config project p := by
  have succeeds := compileProject_succeeds_of_fits config wanted fits
  have same : (compileProject config wanted project).shown first =
      (compileProject config wanted project).shown second := by
    rw [succeeds.shown_eq first, succeeds.shown_eq second]
  obtain ⟨artifacts, made⟩ := succeeds.ends
  have shown : ((compileProject config wanted project).shown first).result = .ok artifacts := by
    rw [succeeds.shown_eq first]
    exact made
  refine ⟨artifacts, shown, same ▸ shown, by rw [same], ?_⟩
  intro world options p asked
  unfold Command.compileWith
  rw [asked]
  dsimp only
  rw [same]

/-- A door with an action that nobody knows. -/
def strangeProject : Project :=
  .ofScene (.ofEntities
    [{ doorEntity "door" 2 with events := [⟨none, "OnUpdate", [], none, [], some "Teleport", []⟩] }])

theorem compileProject_under_any_console_door :
    ∃ config artifacts, Config.Draft.default.check = .ok config ∧
      (∀ n ∈ strangeProject.integers, (Binary64.ofInt? n).isSome) ∧
      ((compileProject config none strangeProject).shown .silent).result = .ok artifacts ∧
      ((compileProject config none strangeProject).shown
        ⟨.debug, [("assembler", .error)], true, none, []⟩).result = .ok artifacts ∧
      ((compileProject config none strangeProject).shown .silent).records =
        ((compileProject config none strangeProject).shown
          ⟨.debug, [("assembler", .error)], true, none, []⟩).records ∧
      ((compileProject config none strangeProject).shown .silent).records.length = 2 := by
  have small : ∀ n ∈ strangeProject.integers, n.natAbs ≤ 2 ^ 10 := by decide
  have fits := Value.allBounded_of_small small
  obtain ⟨config, valid, two⟩ : ∃ config, Config.Draft.default.check = .ok config ∧
      ((compileProject config none strangeProject).shown .silent).records.length = 2 :=
    ⟨_, rfl, by decide +kernel⟩
  obtain ⟨artifacts, quiet, loud, records, -⟩ := compileProject_under_any_console config none fits
    .silent ⟨.debug, [("assembler", .error)], true, none, []⟩
  exact ⟨config, artifacts, valid, fits, quiet, loud, records, two⟩

end GraphScript
