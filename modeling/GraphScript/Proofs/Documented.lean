import GraphScript.Config.Load
import GraphScript.Payload.Parse
import GraphScript.Proofs.Encoding
import GraphScript.Proofs.Faultless

namespace GraphScript

namespace Files

namespace Path

/-- The pieces between slashes keep all other characters. -/
theorem mem_piecesFrom {c : Char} (other : c ≠ '/') (piece cs : List Char) :
    (∃ part ∈ piecesFrom piece cs, c ∈ part.toList) ↔ c ∈ piece ∨ c ∈ cs := by
  induction cs generalizing piece with
  | nil => simp [piecesFrom]
  | cons first rest ih =>
    rw [piecesFrom]
    split
    next slash =>
      subst slash
      simp only [List.mem_cons, exists_eq_or_imp, String.toList_ofList, List.mem_reverse, ih []]
      simp [other]
    next =>
      rw [ih]
      simp [or_assoc, or_comm, or_left_comm]

theorem null_mem_parts {text : String} :
    ((ofText text).parts.any fun part => part.toList.contains (Char.ofNat 0)) = true ↔
      Char.ofNat 0 ∈ text.toList := by
  have pieces := mem_piecesFrom (c := Char.ofNat 0) (by decide) [] text.toList
  rw [ofText, List.any_eq_true]
  simp only [List.contains_iff_mem]
  constructor
  · rintro ⟨part, kept, null⟩
    exact (pieces.mp ⟨part, (List.mem_filter.mp kept).1, null⟩).resolve_left List.not_mem_nil
  · intro null
    obtain ⟨part, hp, null⟩ := pieces.mpr (.inr null)
    -- a part with a null character is neither empty nor a dot
    refine ⟨part, List.mem_filter.mpr ⟨hp, ?_⟩, null⟩
    rw [Bool.and_eq_true, bne_iff_ne, bne_iff_ne]
    constructor
    all_goals
      rintro rfl
      revert null
      decide

end Path

variable {files : Files} {place : Path}

theorem follow_ne_nullCharacter {start parts : List String} {cause : Cause}
    (h : files.follow start parts = .error cause) : cause ≠ .nullCharacter := by
  induction parts generalizing start with
  | nil => cases h
  | cons part rest ih =>
    rw [follow] at h
    split at h
    next => cases h; exact Cause.noConfusion
    next => cases h; exact Cause.noConfusion
    next =>
      split at h
      next => cases h; exact Cause.noConfusion
      next => exact ih h

/-- Only a path with a null character is none. -/
theorem read_nullCharacter_iff (files : Files) (path : String) :
    (∃ failure, files.read (.ofText path) = .error failure ∧ failure.cause = .nullCharacter) ↔
      Char.ofNat 0 ∈ path.toList := by
  rw [← Path.null_mem_parts]
  constructor
  · rintro ⟨failure, failed, null⟩
    by_contra none
    unfold read at failed
    split at failed
    next cause lost =>
      cases failed
      rw [locate, if_neg none] at lost
      split at lost
      next => cases lost; cases null
      next => exact follow_ne_nullCharacter lost null
    next =>
      split at failed
      all_goals cases failed
      all_goals cases null
  · intro null
    refine ⟨⟨.nullCharacter, (Path.ofText path).text⟩, ?_, rfl⟩
    rw [read, locate, if_pos null]

/-- If the file can be read, its bytes are those of a text. -/
def Legible (files : Files) (place : Path) : Prop :=
  ∀ bytes, files.read place = .ok bytes → ∃ text, Text.Utf8.encode text = bytes

theorem readText_cases (files : Files) (place : Path) :
    (∃ failure, files.read place = .error failure ∧ files.readText place = .error (.file failure)) ∨
    (¬files.Legible place ∧ ∃ issue, files.readText place = .error (.encoding issue)) ∨
    (files.Legible place ∧ (∃ bytes, files.read place = .ok bytes) ∧
      ∃ text, files.readText place = .ok text) := by
  cases read : files.read place with
  | error failure => exact .inl ⟨failure, rfl, by rw [readText, read]⟩
  | ok bytes =>
    right
    cases decoded : Text.Utf8.decode bytes with
    | error issue =>
      left
      refine ⟨fun legible => ?_, issue, by rw [readText, read]; dsimp only; rw [decoded]⟩
      obtain ⟨chars, decoded'⟩ := Text.Utf8.exists_decode_iff.mpr (legible bytes read)
      rw [decoded] at decoded'
      cases decoded'
    | ok chars =>
      right
      refine ⟨fun other same => ?_, ⟨bytes, rfl⟩, _, by rw [readText, read]; dsimp only; rw [decoded]⟩
      cases read.symm.trans same
      exact Text.Utf8.exists_decode_iff.mp ⟨chars, decoded⟩

/-- If the file holds a text, it is read as a document or refused for its form. -/
def Calm (files : Files) (yaml : Yaml.Library) (given : Option Format) (place : Path) : Prop :=
  ∀ text f, files.readText place = .ok text → loadDocumentBy yaml given text ≠ .error (.fault f)

/-- Every document that the file gives has a property. -/
def Gives (files : Files) (yaml : Yaml.Library) (given : Option Format) (place : Path)
    (good : Value → Prop) : Prop :=
  ∀ text document, files.readText place = .ok text → loadDocumentBy yaml given text = .ok document →
    good document

end Files

/-- The result is there, or its failure is one of the documented ones. -/
def EndsIn {ε α : Type} (documented : ε → Prop) : Except ε α → Prop
  | .ok _ => True
  | .error e => documented e

/-- The failures that a caller of the loader of projects can tell apart. -/
def PayloadFailure.IsDocumented : PayloadFailure → Prop
  | payload (.fault _) => False
  | payload _ => True
  | _ => False

/-- The failures that a caller of the loader of settings can tell apart. -/
def Config.LoadFailure.IsDocumented : Config.LoadFailure → Prop
  | settings (.issue _) => True
  | _ => False

open Files

variable {yaml : Yaml.Library} {files : Files} {path : String}

theorem loadPayload_documented_iff {checkShape : Bool} {source : Option String} {text : String}
    (writable : ∀ document, loadDocumentBy yaml none text = .ok document → document.isWritable = true) :
    EndsIn PayloadFailure.IsDocumented ((loadPayloadBy yaml checkShape source text).mapError .payload) ↔
      ∀ f, loadDocumentBy yaml none text ≠ .error (.fault f) := by
  unfold loadPayloadBy
  cases read : loadDocumentBy yaml none text with
  | ok document =>
    refine iff_of_true ?_ (fun f same => by cases same)
    dsimp only
    cases parsed : parsePayload checkShape source document with
    | ok project => exact trivial
    | error issue =>
      cases issue with
      | fault f => exact absurd parsed (parsePayload_calm (writable document read))
      | _ => exact trivial
  | error issue =>
    cases issue with
    | fault f => exact iff_of_false id (fun calm => calm f rfl)
    | _ => exact iff_of_true trivial (fun f same => by cases same)

theorem loadPayloadFile_documented_iff {checkShape : Bool}
    (writable : files.Gives yaml none (.ofText path) fun document => document.isWritable = true) :
    EndsIn PayloadFailure.IsDocumented (loadPayloadFileBy yaml checkShape files path) ↔
      Char.ofNat 0 ∉ path.toList ∧ files.Legible (.ofText path) ∧ files.Calm yaml none (.ofText path) := by
  have null := read_nullCharacter_iff files path
  unfold loadPayloadFileBy
  dsimp only
  rcases readText_cases files (.ofText path) with ⟨failure, read, text⟩ | ⟨wrong, issue, text⟩ |
    ⟨legible, ⟨bytes, read⟩, text, given⟩
  · have legible : files.Legible (.ofText path) := by
      intro bytes same
      rw [read] at same
      cases same
    have calm : files.Calm yaml none (.ofText path) := by
      intro other f same
      rw [text] at same
      cases same
    rw [text]
    dsimp only
    by_cases none : failure.cause = .nullCharacter
    · rw [if_pos none]
      exact iff_of_false id fun h => h.1 (null.mp ⟨failure, read, none⟩)
    · rw [if_neg none]
      refine iff_of_true trivial ⟨fun there => ?_, legible, calm⟩
      obtain ⟨other, read', cause⟩ := null.mpr there
      cases read.symm.trans read'
      exact none cause
  · rw [text]
    exact iff_of_false id fun h => wrong h.2.1
  · have whole : Char.ofNat 0 ∉ path.toList := by
      intro there
      obtain ⟨failure, read', -⟩ := null.mpr there
      cases read.symm.trans read'
    rw [given]
    dsimp only
    rw [loadPayload_documented_iff fun document => writable text document given]
    constructor
    · intro calm
      refine ⟨whole, legible, fun other f same => ?_⟩
      cases given.symm.trans same
      exact calm f
    · intro h f
      exact h.2.2 text f given

namespace Config

/-- The format that the name of a settings file gives. -/
def givenFormat (place : Files.Path) : Option Format :=
  if place.isJson then some .json else none

variable {environment : Log.Environment}

theorem layered_documented_iff {entries : List (Value × Value)}
    (bounded : ∀ entry ∈ entries, entry.2.Bounded) :
    EndsIn LoadFailure.IsDocumented ((layered entries environment).2.mapError .settings) ↔
      (Value.map entries).HasTextKeys := by
  rw [← layered_calm_iff environment bounded]
  cases (layered entries environment).2 with
  | ok config => exact iff_of_true trivial (fun _ same => by cases same)
  | error failure =>
    cases failure with
    | issue issue =>
      refine iff_of_true trivial fun _ same => ?_
      cases same
      exact ⟨issue, rfl⟩
    | _ =>
      refine iff_of_false id fun calm => ?_
      obtain ⟨issue, same⟩ := calm _ rfl
      cases same

/-- The entries of a settings file, from what its text was read as. -/
def entriesOf (path : String) : Except LoadIssue Value → Except LoadFailure (List (Value × Value))
  | .error (.fault f) => .error (.settings (.fault f))
  | .error issue => .error (.settings (.issue (.unreadable path issue.message)))
  | .ok .null => .ok []
  | .ok (.map entries) => .ok entries
  | .ok other => .error (.settings (.issue (.notMapping path other.kind)))

theorem fileEntries_of_text (yaml : Yaml.Library) {text : String}
    (h : files.readText (.ofText path) = .ok text) : fileEntriesBy yaml files path =
      entriesOf path (loadDocumentBy yaml (givenFormat (.ofText path)) text) := by
  unfold fileEntriesBy givenFormat
  dsimp only
  rw [h]
  dsimp only
  generalize loadDocumentBy yaml _ text = read
  cases read with
  | error issue => cases issue <;> rfl
  | ok document => cases document <;> rfl

theorem load_of_entries {entries : List (Value × Value)} (h : fileEntriesBy yaml files path = .ok entries) :
    (loadBy yaml files (some path) environment).2 = (layered entries environment).2.mapError .settings := by
  rw [loadBy, h]

theorem load_of_failure {failure : LoadFailure} (h : fileEntriesBy yaml files path = .error failure) :
    (loadBy yaml files (some path) environment).2 = .error failure := by
  rw [loadBy, h]

theorem load_text_documented_iff {text : String} (h : files.readText (.ofText path) = .ok text)
    (bounded : ∀ document, loadDocumentBy yaml (givenFormat (.ofText path)) text = .ok document →
      document.Bounded) :
    EndsIn LoadFailure.IsDocumented (loadBy yaml files (some path) environment).2 ↔
      (∀ f, loadDocumentBy yaml (givenFormat (.ofText path)) text ≠ .error (.fault f)) ∧
        ∀ document, loadDocumentBy yaml (givenFormat (.ofText path)) text = .ok document →
          document.HasTextKeys := by
  have entries := fileEntries_of_text yaml h
  cases read : loadDocumentBy yaml (givenFormat (.ofText path)) text with
  | error issue =>
    rw [read] at entries
    cases issue with
    | fault f =>
      rw [load_of_failure entries]
      exact iff_of_false id fun calm => calm.1 f rfl
    | _ =>
      rw [load_of_failure entries]
      exact iff_of_true trivial ⟨fun _ same => (by cases same), fun _ same => (by cases same)⟩
  | ok document =>
    have calm : ∀ f, (Except.ok document : Except LoadIssue Value) ≠ .error (.fault f) :=
      fun _ same => by cases same
    have only {good : Value → Prop} :
        (∀ other, (Except.ok document : Except LoadIssue Value) = .ok other → good other) ↔
          good document :=
      ⟨fun all => all _ rfl, fun own _ same => by cases same; exact own⟩
    rw [only, and_iff_right calm]
    rw [read] at entries
    cases document with
    | null =>
      rw [load_of_entries entries, layered_documented_iff (by simp)]
      exact iff_of_true (fun _ he => by cases he) trivial
    | map list =>
      rw [load_of_entries entries, layered_documented_iff (Value.entry_bounded (bounded _ read))]
    | _ =>
      rw [load_of_failure entries]
      exact iff_of_true trivial trivial

theorem load_documented_iff
    (bounded : files.Gives yaml (givenFormat (.ofText path)) (.ofText path) Value.Bounded) :
    EndsIn LoadFailure.IsDocumented (loadBy yaml files (some path) environment).2 ↔
      (∀ failure, files.read (.ofText path) = .error failure → failure.cause = .missing) ∧
        files.Legible (.ofText path) ∧
        files.Calm yaml (givenFormat (.ofText path)) (.ofText path) ∧
        files.Gives yaml (givenFormat (.ofText path)) (.ofText path) Value.HasTextKeys := by
  rcases readText_cases files (.ofText path) with ⟨failure, read, text⟩ | ⟨wrong, issue, text⟩ |
    ⟨legible, ⟨bytes, read⟩, text, given⟩
  · have entries : fileEntriesBy yaml files path =
        if failure.cause = .missing then .error (.settings (.issue (.missingFile path)))
        else .error (.file failure) := by
      unfold fileEntriesBy
      dsimp only
      rw [text]
    by_cases missing : failure.cause = .missing
    · rw [if_pos missing] at entries
      rw [load_of_failure entries]
      refine iff_of_true trivial ⟨fun other same => ?_, fun bytes same => ?_, fun _ _ same => ?_,
        fun _ _ same => ?_⟩
      · cases read.symm.trans same
        exact missing
      · cases read.symm.trans same
      · cases text.symm.trans same
      · cases text.symm.trans same
    · rw [if_neg missing] at entries
      rw [load_of_failure entries]
      exact iff_of_false id fun h => missing (h.1 failure read)
  · have entries : fileEntriesBy yaml files path = .error (.encoding issue) := by
      unfold fileEntriesBy
      dsimp only
      rw [text]
    rw [load_of_failure entries]
    exact iff_of_false id fun h => wrong h.2.1
  · rw [load_text_documented_iff given fun document => bounded text document given]
    constructor
    · intro h
      refine ⟨fun failure same => ?_, legible, fun other f same => ?_, fun other document same => ?_⟩
      · cases read.symm.trans same
      · cases given.symm.trans same
        exact h.1 f
      · cases given.symm.trans same
        exact h.2 document
    · intro h
      exact ⟨fun f => h.2.2.1 text f given, fun document => h.2.2.2 text document given⟩

end Config

theorem Json.Plain.isWritable {document : Value} (plain : Json.Plain Numeral.digitLimit document) :
    document.isWritable = true :=
  (Value.isWritable_iff_within document).mpr
    fun n hn => Value.lt_writableBound _ (plain.within n hn) (Nat.le_refl _)

/-- So many digits are those of an integer that is not too large. -/
def safeDigits : Nat := 300

theorem Json.Plain.bounded {document : Value} (plain : Json.Plain safeDigits document) :
    document.Bounded := by
  have power {k m limit : Nat} (hm : m = 3 * k) (hk : 10 * k ≤ limit) : 10 ^ m ≤ 2 ^ limit :=
    calc 10 ^ m = (10 ^ 3) ^ k := by rw [hm, Nat.pow_mul]
      _ ≤ (2 ^ 10) ^ k := Nat.pow_le_pow_left (by decide) k
      _ = 2 ^ (10 * k) := (Nat.pow_mul ..).symm
      _ ≤ 2 ^ limit := Nat.pow_le_pow_right (by decide) hk
  have digits : safeDigits = 3 * 100 := rfl
  have room : 10 * 100 ≤ 1023 := by decide
  exact Value.allBounded_of_le fun n hn => (plain.within n hn).le.trans (power digits room)

theorem gives_plain (yaml : Yaml.Library) (given : Option Format) {text : String} {limit : Nat}
    (room : limit ≤ Numeral.digitLimit) (h : files.readText (.ofText path) = .ok text)
    (json : given.getD (.detect text) = .json) (short : Json.ShortRuns limit text.toList) :
    files.Calm yaml given (.ofText path) ∧ files.Gives yaml given (.ofText path) (Json.Plain limit) := by
  constructor
  · intro other f same stopped
    cases h.symm.trans same
    rcases loadDocumentBy_json room short json with ⟨document, read, -⟩ | ⟨e, read⟩
    · cases read.symm.trans stopped
    · cases read.symm.trans stopped
  · intro other document same read
    cases h.symm.trans same
    rcases loadDocumentBy_json room short json with ⟨found, read', plain⟩ | ⟨e, read'⟩
    · cases read.symm.trans read'
      exact plain
    · cases read.symm.trans read'

theorem legible_of_text {place : Files.Path} {text : String} (h : files.readText place = .ok text) :
    files.Legible place ∧ ∃ bytes, files.read place = .ok bytes := by
  rcases readText_cases files place with ⟨failure, -, none⟩ | ⟨-, issue, none⟩ | ⟨legible, read, -⟩
  · cases h.symm.trans none
  · cases h.symm.trans none
  · exact ⟨legible, read⟩

/-- Whatever library reads the second format: loading a project ends by a documented failure, if it
fails, exactly where the path is one, the bytes are those of a text, and reading the text meets no fault.
For settings a file that cannot be read has to be missing, too, and the keys have to be texts. Object
notation without long integers meets no fault, and settings of the environment alone never do. -/
theorem loading_documented_iff (yaml : Yaml.Library) (files : Files) (path : String) :
    (∀ checkShape, files.Gives yaml none (.ofText path) (fun document => document.isWritable = true) →
      (EndsIn PayloadFailure.IsDocumented (loadPayloadFileBy yaml checkShape files path) ↔
        Char.ofNat 0 ∉ path.toList ∧ files.Legible (.ofText path) ∧ files.Calm yaml none (.ofText path))) ∧
    (∀ checkShape text, files.readText (.ofText path) = .ok text → Format.detect text = .json →
      Json.ShortRuns Numeral.digitLimit text.toList →
      EndsIn PayloadFailure.IsDocumented (loadPayloadFileBy yaml checkShape files path)) ∧
    (∀ environment, files.Gives yaml (Config.givenFormat (.ofText path)) (.ofText path) Value.Bounded →
      (EndsIn Config.LoadFailure.IsDocumented (Config.loadBy yaml files (some path) environment).2 ↔
        (∀ failure, files.read (.ofText path) = .error failure → failure.cause = .missing) ∧
          files.Legible (.ofText path) ∧
          files.Calm yaml (Config.givenFormat (.ofText path)) (.ofText path) ∧
          files.Gives yaml (Config.givenFormat (.ofText path)) (.ofText path) Value.HasTextKeys)) ∧
    (∀ environment text, files.readText (.ofText path) = .ok text →
      (Config.givenFormat (.ofText path)).getD (.detect text) = .json →
      Json.ShortRuns safeDigits text.toList →
      EndsIn Config.LoadFailure.IsDocumented (Config.loadBy yaml files (some path) environment).2) ∧
    ∀ environment, EndsIn Config.LoadFailure.IsDocumented (Config.loadBy yaml files none environment).2 := by
  refine ⟨fun checkShape writable => loadPayloadFile_documented_iff writable, ?_,
    fun environment bounded => Config.load_documented_iff bounded, ?_, fun environment => ?_⟩
  · intro checkShape text h json short
    obtain ⟨calm, plain⟩ := gives_plain yaml none (Nat.le_refl _) h json short
    obtain ⟨legible, bytes, read⟩ := legible_of_text h
    refine (loadPayloadFile_documented_iff fun text document given read =>
      (plain text document given read).isWritable).mpr ⟨fun null => ?_, legible, calm⟩
    obtain ⟨failure, failed, -⟩ := (read_nullCharacter_iff files path).mpr null
    cases read.symm.trans failed
  · intro environment text h json short
    obtain ⟨calm, plain⟩ := gives_plain yaml _ (by decide) h json short
    obtain ⟨legible, bytes, read⟩ := legible_of_text h
    refine (Config.load_documented_iff fun text document given read =>
      (plain text document given read).bounded).mpr ⟨fun failure failed => ?_, legible, calm,
        fun text document given read => (plain text document given read).keys⟩
    cases read.symm.trans failed
  · have none : ∀ entry ∈ ([] : List (Value × Value)), entry.2.Bounded := fun _ he => by cases he
    exact (Config.layered_documented_iff none).mpr fun _ he => by cases he

/-- A working directory with one file. -/
def Files.single (name : String) (bytes : List UInt8) : Files :=
  ⟨["work"], [(["work"], .directory), (["work", name], .file bytes)]⟩

/-- A project of two doors, one of which tells that it opens. -/
def doorsText : String :=
  "\x7b\"entities\":[\x7b\"id\":\"a\",\"name\":\"a\",\"events\":[\x7b\"trigger\":\"OnStart\",\"action\":\"Log\"\x7d]\x7d,\x7b\"id\":\"b\",\"name\":\"b\"\x7d]\x7d"

/-- Settings in the second format. -/
def depthText : String :=
  "max_traversal_depth: 7\npixels_per_unit: 64"

/-- A working directory with a project and settings. -/
def Files.doors : Files :=
  ⟨["work"], [(["work"], .directory), (["work", "doors.json"], .file doorsText.toUTF8.toList),
    (["work", "depth.yaml"], .file depthText.toUTF8.toList)]⟩

theorem depthText_read : ∃ document, loadDocument none depthText = .ok document ∧ document.Bounded := by
  have seen : (loadDocument none depthText).toOption.map Value.integers = some [7, 64] := by
    decide +kernel
  cases read : loadDocument none depthText with
  | error issue =>
    rw [read] at seen
    cases seen
  | ok document =>
    rw [read] at seen
    refine ⟨document, rfl, Value.allBounded_of_small ?_⟩
    rw [Option.some.inj seen]
    decide

theorem loading_documented_iff_doors :
    (∃ project, loadPayloadFileBy Yaml.read true .doors "doors.json" = .ok project ∧
      project.entities.map Entity.name = ["a", "b"]) ∧
    Files.doors.Calm Yaml.read none (.ofText "doors.json") ∧
    (∃ config, (Config.loadBy Yaml.read .doors (some "depth.yaml") []).2 = .ok config ∧
      config.maxTraversalDepth = 7) ∧
    Files.doors.Gives Yaml.read (Config.givenFormat (.ofText "depth.yaml")) (.ofText "depth.yaml")
      Value.HasTextKeys := by
  have text : Files.doors.readText (.ofText "doors.json") = .ok doorsText := by decide +kernel
  have other : Files.doors.readText (.ofText "depth.yaml") = .ok depthText := by decide +kernel
  have json : Format.detect doorsText = .json := by decide +kernel
  have given : Config.givenFormat (.ofText "depth.yaml") = none := by decide +kernel
  have length : doorsText.toList.length ≤ 200 := by decide +kernel
  have short : Json.ShortRuns Numeral.digitLimit doorsText.toList :=
    Json.shortRuns_of_length (length.trans (by decide))
  have seen : (loadPayloadFileBy Yaml.read true .doors "doors.json").toOption.map
      (fun project => project.entities.map Entity.name) = some ["a", "b"] := by decide +kernel
  have deep : (Config.loadBy Yaml.read .doors (some "depth.yaml") []).2.toOption.map
      Config.maxTraversalDepth = some 7 := by decide +kernel
  obtain ⟨payloadIff, -, -, -, -⟩ := loading_documented_iff Yaml.read .doors "doors.json"
  obtain ⟨-, -, settingsIff, -, -⟩ := loading_documented_iff Yaml.read .doors "depth.yaml"
  have writable := (gives_plain Yaml.read none (Nat.le_refl _) text json short).2
  have bounded : Files.doors.Gives Yaml.read (Config.givenFormat (.ofText "depth.yaml"))
      (.ofText "depth.yaml") Value.Bounded := by
    intro found document same read
    cases other.symm.trans same
    rw [given] at read
    obtain ⟨own, read', small⟩ := depthText_read
    cases read'.symm.trans read
    exact small
  cases project : loadPayloadFileBy Yaml.read true .doors "doors.json" with
  | error failure =>
    rw [project] at seen
    cases seen
  | ok found =>
    cases config : (Config.loadBy Yaml.read .doors (some "depth.yaml") []).2 with
    | error failure =>
      rw [config] at deep
      cases deep
    | ok settings =>
      rw [project] at seen
      rw [config] at deep
      refine ⟨⟨found, rfl, Option.some.inj seen⟩, ?_, ⟨settings, rfl, Option.some.inj deep⟩, ?_⟩
      · refine ((payloadIff true fun t d h read => (writable t d h read).isWritable).mp ?_).2.2
        rw [project]
        trivial
      · refine ((settingsIff [] bounded).mp ?_).2.2.2
        rw [config]
        trivial

/-- A byte that no text has stops both loaders, and so does a directory in place of settings. -/
theorem loading_undocumented_byte :
    ¬EndsIn PayloadFailure.IsDocumented
        (loadPayloadFile true (Files.single "door.json" [0xff]) "door.json") ∧
      ¬EndsIn Config.LoadFailure.IsDocumented
        (Config.load (Files.single "door.yaml" [0xff]) (some "door.yaml") []).2 ∧
      ¬EndsIn Config.LoadFailure.IsDocumented (Config.load Files.empty (some ".") []).2 := by
  have payload : (Files.single "door.json" [0xff]).readText (.ofText "door.json") =
      .error (.encoding ⟨0, 1, 0xff, .start⟩) := by decide +kernel
  have settings : (Files.single "door.yaml" [0xff]).readText (.ofText "door.yaml") =
      .error (.encoding ⟨0, 1, 0xff, .start⟩) := by decide +kernel
  have directory : Files.empty.readText (.ofText ".") = .error (.file ⟨.isDirectory, "."⟩) := by
    decide +kernel
  refine ⟨?_, ?_, ?_⟩
  · rw [loadPayloadFile, loadPayloadFileBy, payload]
    exact id
  · rw [Config.load, Config.loadBy, Config.fileEntriesBy, settings]
    exact id
  · rw [Config.load, Config.loadBy, Config.fileEntriesBy, directory]
    exact id

end GraphScript
