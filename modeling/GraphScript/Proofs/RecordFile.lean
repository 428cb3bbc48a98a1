import GraphScript.Proofs.Sink
import GraphScript.Proofs.Unbroken

namespace GraphScript

namespace Log

namespace FileSink

theorem count_tally (types : List String) (type : String) :
    count type (tally types) = tally (types ++ [type]) := by
  have counted (entries : List (String × Nat)) :
      count type entries = Bodies.countUnhandled type entries := by
    unfold count
    induction entries with
    | nil => rfl
    | cons entry entries ih =>
      obtain ⟨name, n⟩ := entry
      rw [assign, Bodies.countUnhandled, lookup_entry]
      by_cases same : name = type
      · simp [same]
      · rw [if_neg same, if_neg same, if_neg (Ne.symm same), ih]
  rw [counted, countUnhandled_tally]

end FileSink

inductive Act where
  | emit (clock : Clock) (stream : String) (record : Params)
  | close (clock : Clock)

namespace Act

/-- Whether the name of the stream is no path. -/
def IsPlain : Act → Prop
  | emit _ stream _ => '/' ∉ stream.toList
  | close _ => True

def record? (stream : String) : Act → Option (Clock × Params)
  | emit clock name record => if name = stream then some (clock, record) else none
  | close _ => none

/-- The sink and the files after an act, whether it succeeds or not. -/
def perform (state : FileSink × Files) : Act → FileSink × Files
  | emit clock stream record => (state.1.emit clock stream record state.2).1
  | close clock => state.1.close clock state.2

end Act

def performAll (state : FileSink × Files) (acts : List Act) : FileSink × Files :=
  acts.foldl Act.perform state

/-- The acts up to each closing, with its clock; `part` holds those since the last one. What is not
closed any more is left out. -/
def segmentsFrom (part : List Act) : List Act → List (List Act × Clock)
  | [] => []
  | .close clock :: acts => (part, clock) :: segmentsFrom [] acts
  | .emit clock stream record :: acts => segmentsFrom (part ++ [.emit clock stream record]) acts

/-- What a stream gets up to a closing. -/
structure Session where
  first : Clock × Params
  others : List (Clock × Params)
  stop : Clock

namespace Session

/-- There is no session without a record. -/
def of? (records : List (Clock × Params)) (stop : Clock) : Option Session :=
  match records with
  | [] => none
  | first :: others => some ⟨first, others, stop⟩

def records (session : Session) : List (Clock × Params) :=
  session.first :: session.others

end Session

def typesOf (records : List (Clock × Params)) : List String :=
  records.map fun entry => FileSink.typeOf entry.2

def recordLine (entry : Clock × Params) : String :=
  Json.line (.record (FileSink.timed entry.1 entry.2))

def Session.lines (sink : FileSink) (stream : String) (session : Session) : List String :=
  [Json.line (.record (sink.header session.first.1 stream))] ++ session.records.map recordLine ++
    [Json.line (.record (FileSink.footer session.stop stream (tally (typesOf session.records))))]

def openLines (sink : FileSink) (stream : String) (records : List (Clock × Params)) : List String :=
  (records.head?.map fun first => Json.line (.record (sink.header first.1 stream))).toList ++
    records.map recordLine

/-- The sessions of a stream, if `part` holds the acts since the last closing. -/
def sessionsFrom (stream : String) (part acts : List Act) : List Session :=
  (segmentsFrom part acts).filterMap fun segment =>
    Session.of? (segment.1.filterMap (Act.record? stream)) segment.2

/-- The sessions of a stream: of each segment that has records for it. -/
def sessions (stream : String) (acts : List Act) : List Session :=
  sessionsFrom stream [] acts

/-- Lines one after another, each with its end. -/
def ended (lines : List String) : String :=
  String.join (lines.map (· ++ "\n"))

theorem ended_append (first second : List String) :
    ended (first ++ second) = ended first ++ ended second := by
  rw [ended, List.map_append, String.join_append]
  rfl

/-- The file with the given lines; without lines there is no file. -/
def recordFile (lines : List String) : Option Files.Entry :=
  if lines.isEmpty then none else some (.file (Text.Utf8.encode (ended lines)))

/-- What is known of a stream and its file, if its earlier sessions have left lines and it has got
records since. -/
inductive Content (sink : FileSink) (stream : String) (done : List String) :
    List (Clock × Params) → Option Stream → Option Files.Entry → Prop
  | idle : Content sink stream done [] none (recordFile done)
  | busy {records : List (Clock × Params)} {s : Stream} {bytes : List UInt8} : records ≠ [] →
      s.counts = tally (typesOf records) →
      bytes ++ Text.Utf8.encode s.waiting =
        Text.Utf8.encode (ended (done ++ openLines sink stream records)) →
      Content sink stream done records (some s) (some (.file bytes))

theorem line_eq_ended (record : Params) :
    FileSink.line record = ended [Json.line (.record record)] := by
  simp [FileSink.line, ended, String.join_cons]

theorem openLines_append (sink : FileSink) (stream : String) {records : List (Clock × Params)}
    (h : records ≠ []) (clock : Clock) (record : Params) :
    openLines sink stream (records ++ [(clock, record)]) =
      openLines sink stream records ++ [recordLine (clock, record)] := by
  obtain ⟨first, others, rfl⟩ := List.exists_cons_of_ne_nil h
  simp [openLines]

theorem bytesAt_recordFile {files : Files} {place : List String} {lines : List String}
    (h : files.at? place = recordFile lines) : files.bytesAt place = Text.Utf8.encode (ended lines) := by
  unfold recordFile at h
  split at h
  next empty =>
    rw [Files.bytesAt, h, List.isEmpty_iff.mp empty]
    exact Text.Utf8.encode_empty.symm
  next => exact Files.bytesAt_of_file h

namespace Content

variable {sink : FileSink} {stream : String} {done : List String} {records : List (Clock × Params)}
  {begun : Option Stream} {clock : Clock}

theorem emit {files : Files} {place : List String}
    (h : Content sink stream done records begun (files.at? place)) {record : Params} {s : Stream}
    {bytes : List UInt8}
    (counts : s.counts = FileSink.count (FileSink.typeOf record) (sink.known clock stream begun).counts)
    (grown : bytes ++ Text.Utf8.encode s.waiting = files.bytesAt place ++ Text.Utf8.encode
      ((sink.known clock stream begun).waiting ++ FileSink.line (FileSink.timed clock record))) :
    Content sink stream done (records ++ [(clock, record)]) (some s) (some (.file bytes)) := by
  generalize hf : files.at? place = found at h
  refine .busy (by simp) ?_ ?_
  · cases h with
    | idle => exact counts.trans (FileSink.count_tally [] _)
    | busy _ tallied _ =>
      rw [counts, FileSink.known, Option.getD_some, tallied, FileSink.count_tally, typesOf, typesOf,
        List.map_append]
      rfl
  · cases h with
    | idle =>
      rw [grown, bytesAt_recordFile hf, FileSink.known, Option.getD_none, line_eq_ended, line_eq_ended,
        ← ended_append, ← Text.Utf8.encode_append, ← ended_append]
      rfl
    | busy nonempty _ whole =>
      rw [grown, Files.bytesAt_of_file hf, FileSink.known, Option.getD_some, line_eq_ended,
        Text.Utf8.encode_append, ← List.append_assoc, whole, ← Text.Utf8.encode_append, ← ended_append,
        List.append_assoc, openLines_append sink stream nonempty]
      rfl

theorem file_eq {entry : Option Files.Entry} (h : Content sink stream done [] begun entry) :
    entry = recordFile done := by
  cases h with
  | idle => rfl
  | busy nonempty _ _ => exact absurd rfl nonempty

/-- A closing turns the records since the last one into a session, if there are any. -/
theorem close {entry after : Option Files.Entry} (h : Content sink stream done records begun entry)
    (unused : begun = none → after = entry)
    (used : ∀ s bytes, begun = some s → entry = some (.file bytes) → after = some (.file (bytes ++
      Text.Utf8.encode (s.waiting ++ FileSink.line (FileSink.footer clock stream s.counts))))) :
    after = recordFile
      (done ++ (Session.of? records clock).toList.flatMap (Session.lines sink stream)) := by
  cases h with
  | idle =>
    rw [unused rfl]
    exact congrArg recordFile (List.append_nil done).symm
  | @busy _ s bytes nonempty tallied whole =>
    obtain ⟨first, others, rfl⟩ := List.exists_cons_of_ne_nil nonempty
    have lines : (Session.of? (first :: others) clock).toList.flatMap (Session.lines sink stream) =
        openLines sink stream (first :: others) ++
          [Json.line (.record (FileSink.footer clock stream s.counts))] := by
      rw [tallied]
      exact List.append_nil _
    rw [used s bytes rfl rfl, lines, recordFile, if_neg (by simp), Text.Utf8.encode_append,
      ← List.append_assoc, whole, line_eq_ended, ← Text.Utf8.encode_append, ← ended_append,
      List.append_assoc]

end Content

theorem sessionsFrom_close (stream : String) (part : List Act) (clock : Clock) (acts : List Act) :
    sessionsFrom stream part (.close clock :: acts) =
      (Session.of? (part.filterMap (Act.record? stream)) clock).toList ++
        sessionsFrom stream [] acts := by
  cases hs : Session.of? (part.filterMap (Act.record? stream)) clock <;>
    simp [sessionsFrom, segmentsFrom, hs]

theorem close_content {origin : FileSink} {base : Files} {state : FileSink × Files}
    (keeps : origin.Keeps base state) {stream : String} (plain : '/' ∉ stream.toList)
    {place : List String} (leads : base.locate (origin.pathFor stream) = .ok place)
    {done : List String} {records : List (Clock × Params)}
    (content : Content origin stream done records (state.1.begun.lookup stream) (state.2.at? place))
    (clock : Clock) :
    Content origin stream
      (done ++ (Session.of? records clock).toList.flatMap (Session.lines origin stream)) []
      (((Act.close clock).perform state).1.begun.lookup stream)
      (((Act.close clock).perform state).2.at? place) := by
  obtain ⟨-, none, files⟩ := FileSink.close_ok keeps clock
  obtain ⟨unused, used⟩ := files stream place plain leads
  unfold Act.perform
  dsimp only
  rw [none, content.close unused used]
  exact .idle

section

variable {origin : FileSink} {base : Files} (unused : origin.IsUnused base)
include unused

theorem perform_keeps {state : FileSink × Files} (keeps : origin.Keeps base state) {act : Act}
    (plain : act.IsPlain) : origin.Keeps base (act.perform state) := by
  cases act with
  | emit clock stream record =>
    by_cases leads : ∃ place, base.locate (origin.pathFor stream) = .ok place
    · obtain ⟨place, leads⟩ := leads
      obtain ⟨after, _, _, emits, kept, -⟩ := FileSink.emit_ok unused keeps plain leads clock record
      rw [Act.perform, emits]
      exact kept
    · obtain ⟨_, fails⟩ := FileSink.emit_error unused keeps (not_exists.mp leads) clock record
      rw [Act.perform, fails]
      exact keeps
  | close clock => exact (FileSink.close_ok keeps clock).1

theorem performAll_keeps {acts : List Act} (plain : ∀ act ∈ acts, act.IsPlain)
    {state : FileSink × Files} (keeps : origin.Keeps base state) :
    origin.Keeps base (performAll state acts) := by
  induction acts generalizing state with
  | nil => exact keeps
  | cons act acts ih =>
    obtain ⟨first, others⟩ := List.forall_mem_cons.mp plain
    exact ih others (perform_keeps unused keeps first)

variable {stream : String} {place : List String} (plain : '/' ∉ stream.toList)
  (leads : base.locate (origin.pathFor stream) = .ok place)
include plain leads

theorem emit_content {state : FileSink × Files} (keeps : origin.Keeps base state) {done : List String}
    {records : List (Clock × Params)}
    (content : Content origin stream done records (state.1.begun.lookup stream) (state.2.at? place))
    (clock : Clock) {name : String} (plainName : '/' ∉ name.toList) (record : Params) :
    Content origin stream done
      (records ++ ((Act.emit clock name record).record? stream).toList)
      (((Act.emit clock name record).perform state).1.begun.lookup stream)
      (((Act.emit clock name record).perform state).2.at? place) := by
  unfold Act.record? Act.perform
  dsimp only
  by_cases same : name = stream
  · subst same
    obtain ⟨after, s, bytes, emits, -, -, opened, here, counts, grown⟩ :=
      FileSink.emit_ok unused keeps plain leads clock record
    rw [emits, if_pos rfl, opened, here]
    exact content.emit counts grown
  · rw [if_neg same, Option.toList_none, List.append_nil]
    by_cases other : ∃ place', base.locate (origin.pathFor name) = .ok place'
    · obtain ⟨place', leads'⟩ := other
      obtain ⟨after, _, _, emits, -, touches, -⟩ :=
        FileSink.emit_ok unused keeps plainName leads' clock record
      have away : place ≠ place' := by
        rintro rfl
        exact same (FileSink.place_inj plainName plain leads' leads)
      rw [emits, touches.begun stream (Ne.symm same), touches.files place away]
      exact content
    · obtain ⟨_, fails⟩ := FileSink.emit_error unused keeps (not_exists.mp other) clock record
      rw [fails]
      exact content

/-- A run that ends with a closing leaves the lines of all sessions behind those that were there. -/
theorem performAll_content {acts : List Act} (plainActs : ∀ act ∈ acts, act.IsPlain) (stop : Clock)
    {state : FileSink × Files} (keeps : origin.Keeps base state) {done : List String} (part : List Act)
    (content : Content origin stream done (part.filterMap (Act.record? stream))
      (state.1.begun.lookup stream) (state.2.at? place)) :
    Content origin stream
      (done ++
        (sessionsFrom stream part (acts ++ [Act.close stop])).flatMap (Session.lines origin stream)) []
      ((performAll state (acts ++ [Act.close stop])).1.begun.lookup stream)
      ((performAll state (acts ++ [Act.close stop])).2.at? place) := by
  induction acts generalizing state done part with
  | nil =>
    rw [List.nil_append, sessionsFrom_close, List.flatMap_append]
    change Content origin stream (done ++ (_ ++ [])) [] _ _
    rw [List.append_nil]
    exact close_content keeps plain leads content stop
  | cons act acts ih =>
    obtain ⟨first, others⟩ := List.forall_mem_cons.mp plainActs
    have kept := perform_keeps unused keeps first
    cases act with
    | emit clock name record =>
      have grown := emit_content unused plain leads keeps content clock first record
      have parts : part.filterMap (Act.record? stream) ++
          ((Act.emit clock name record).record? stream).toList =
            (part ++ [Act.emit clock name record]).filterMap (Act.record? stream) := by
        rw [List.filterMap_append]
        cases hr : (Act.emit clock name record).record? stream <;> simp [hr]
      rw [parts] at grown
      exact ih others kept _ grown
    | close clock =>
      rw [List.cons_append, sessionsFrom_close, List.flatMap_append, ← List.append_assoc]
      exact ih others kept [] (close_content keeps plain leads content clock)

end

theorem flatMap_records (stream : String) (part acts : List Act) (stop : Clock) :
    (sessionsFrom stream part (acts ++ [Act.close stop])).flatMap Session.records =
      (part ++ acts).filterMap (Act.record? stream) := by
  have whole (records : List (Clock × Params)) (clock : Clock) :
      (Session.of? records clock).toList.flatMap Session.records = records := by
    cases records <;> simp [Session.of?, Session.records]
  induction acts generalizing part with
  | nil =>
    rw [List.nil_append, sessionsFrom_close, List.flatMap_append, whole]
    simp [sessionsFrom, segmentsFrom]
  | cons act acts ih =>
    cases act with
    | emit clock name record =>
      refine (ih (part ++ [Act.emit clock name record])).trans ?_
      rw [List.append_assoc]
      rfl
    | close clock =>
      rw [List.cons_append, sessionsFrom_close, List.flatMap_append, whole, ih [], List.nil_append,
        List.filterMap_append]
      rfl

theorem recordFile_lines (sink : FileSink) (stream : String) (sessions : List Session) :
    recordFile (sessions.flatMap (Session.lines sink stream)) =
      if sessions.isEmpty then none
      else some (.file (Text.Utf8.encode (ended (sessions.flatMap (Session.lines sink stream))))) := by
  cases sessions with
  | nil => rfl
  | cons session sessions =>
    have filled : (List.flatMap (Session.lines sink stream) (session :: sessions)).isEmpty = false := by
      simp [Session.lines]
    rw [recordFile, filled]
    rfl

/-- The time is added where it is not given, and all other fields stay. -/
theorem lookup_timed (clock : Clock) (record : Params) (key : String) :
    (FileSink.timed clock record).lookup key =
      (record.lookup key).or (if key = "wall_time" then some (.float clock.now) else none) := by
  unfold FileSink.timed
  split
  next given =>
    obtain ⟨time, given⟩ := Option.isSome_iff_exists.mp given
    by_cases same : key = "wall_time"
    · rw [same, given]
      rfl
    · rw [if_neg same, Option.or_none]
  next missing =>
    rw [lookup_entry]
    by_cases same : key = "wall_time"
    · rw [if_pos same, if_pos same, same, Option.not_isSome_iff_eq_none.mp missing]
      rfl
    · rw [if_neg same, if_neg same, Option.or_none]

theorem unbroken_lines {sink : FileSink} {stream : String} {session : Session} :
    ∀ text ∈ session.lines sink stream, Unbroken text := by
  unfold Session.lines
  simp only [List.forall_mem_append, List.forall_mem_singleton]
  refine ⟨⟨Json.unbroken_line _, fun text ht => ?_⟩, Json.unbroken_line _⟩
  obtain ⟨entry, -, rfl⟩ := List.mem_map.mp ht
  exact Json.unbroken_line _

/-- The files of a sink that was not used before, after any acts up to a last closing. The file of a
stream holds the lines of its sessions, one for each segment that has records for it: a header, one
line for each record in order, and a footer with the counts of their types. A stream without records
has no file, no other file changes, and records are refused only where a file has no place. -/
theorem performAll_record_files {sink : FileSink} {files : Files} (unused : sink.IsUnused files)
    {acts : List Act} (plain : ∀ act ∈ acts, act.IsPlain) (stop : Clock) :
    (∀ stream : String, '/' ∉ stream.toList → ∀ place, files.locate (sink.pathFor stream) = .ok place →
      (performAll (sink, files) (acts ++ [.close stop])).2.at? place =
        if (sessions stream (acts ++ [.close stop])).isEmpty then none
        else some (.file (Text.Utf8.encode (ended
          ((sessions stream (acts ++ [.close stop])).flatMap (Session.lines sink stream)))))) ∧
    (∀ place, (∀ stream : String, '/' ∉ stream.toList →
        files.locate (sink.pathFor stream) ≠ .ok place) →
      (performAll (sink, files) (acts ++ [.close stop])).2.at? place = files.at? place) ∧
    (∀ before clock stream record after, acts = before ++ .emit clock stream record :: after →
      (((performAll (sink, files) before).1.emit clock stream record
          (performAll (sink, files) before).2).2 = .ok () ↔
        ∃ place, files.locate (sink.pathFor stream) = .ok place)) ∧
    ∀ stream : String,
      (sessions stream (acts ++ [.close stop])).flatMap Session.records =
        acts.filterMap (Act.record? stream) ∧
      ∀ session ∈ sessions stream (acts ++ [.close stop]),
        ((tally (typesOf session.records)).map Prod.snd).sum = session.records.length ∧
        (∀ text ∈ session.lines sink stream, '\n' ∉ text.toList) ∧
        ∀ entry ∈ session.records, ∀ key, (FileSink.timed entry.1 entry.2).lookup key =
          (entry.2.lookup key).or (if key = "wall_time" then some (.float entry.1.now) else none) := by
  refine ⟨fun stream plainStream place leads => ?_, ?_, ?_, fun stream => ⟨?_, fun session _ => ?_⟩⟩
  · have start : Content sink stream [] (([] : List Act).filterMap (Act.record? stream))
        (sink.begun.lookup stream) (files.at? place) := by
      rw [unused.begun, unused.free stream plainStream place leads]
      exact .idle
    have content := performAll_content unused plainStream leads plain stop unused.keeps [] start
    exact content.file_eq.trans (recordFile_lines sink stream _)
  · have closed : ∀ act ∈ acts ++ [Act.close stop], act.IsPlain :=
      List.forall_mem_append.mpr ⟨plain, List.forall_mem_singleton.mpr trivial⟩
    exact (performAll_keeps unused closed unused.keeps).others
  · rintro before clock stream record after rfl
    obtain ⟨plainBefore, plainAfter⟩ := List.forall_mem_append.mp plain
    have keeps := performAll_keeps unused plainBefore unused.keeps
    have plainStream : '/' ∉ stream.toList := (List.forall_mem_cons.mp plainAfter).1
    constructor
    · intro taken
      by_contra nowhere
      obtain ⟨failure, fails⟩ := FileSink.emit_error unused keeps (not_exists.mp nowhere) clock record
      rw [fails] at taken
      cases taken
    · rintro ⟨place, leads⟩
      obtain ⟨_, _, _, emits, -⟩ := FileSink.emit_ok unused keeps plainStream leads clock record
      rw [emits]
  · exact flatMap_records stream [] acts stop
  · exact ⟨(sum_tally _).trans (List.length_map _), unbroken_lines, fun entry _ => lookup_timed _ _⟩

def tick (n : Nat) : Clock := ⟨.ofNat n, "run"⟩

/-- Two streams and three closings; the second stream gets nothing after the first of them. -/
def tickingActs : List Act :=
  [.emit (tick 1) "compiler" [("type", .text "entity"), ("id", .text "door")],
   .emit (tick 2) "importer" [("count", .int 1)],
   .emit (tick 2) "compiler" [("wall_time", .int 0)],
   .close (tick 3), .close (tick 3),
   .emit (tick 4) "compiler" [("type", .text "entity")]]

theorem performAll_record_files_ticking :
    FileSink.IsUnused ⟨.ofText "", "run", []⟩ .empty ∧ (∀ act ∈ tickingActs, act.IsPlain) ∧
    (performAll (⟨.ofText "", "run", []⟩, .empty) (tickingActs ++ [.close (tick 5)])).2.at?
        ["work", "run_compiler.jsonl"] = some (.file (Text.Utf8.encode (ended
          ["\x7b\"type\": \"header\", \"stream\": \"compiler\", " ++
            "\"session_name\": \"run\", \"start_time\": 1.0\x7d",
           "\x7b\"wall_time\": 1.0, \"type\": \"entity\", \"id\": \"door\"\x7d",
           "\x7b\"wall_time\": 0\x7d",
           "\x7b\"type\": \"footer\", \"stream\": \"compiler\", " ++
            "\"end_time\": 3.0, \"counts\": \x7b\"entity\": 1, \"record\": 1\x7d\x7d",
           "\x7b\"type\": \"header\", \"stream\": \"compiler\", " ++
            "\"session_name\": \"run\", \"start_time\": 4.0\x7d",
           "\x7b\"wall_time\": 4.0, \"type\": \"entity\"\x7d",
           "\x7b\"type\": \"footer\", \"stream\": \"compiler\", " ++
            "\"end_time\": 5.0, \"counts\": \x7b\"entity\": 1\x7d\x7d"]))) ∧
    (performAll (⟨.ofText "", "run", []⟩, .empty) (tickingActs ++ [.close (tick 5)])).2.at?
        ["work", "run_export.jsonl"] = none := by
  have unused : FileSink.IsUnused ⟨.ofText "", "run", []⟩ .empty := by
    have leads : Files.empty.locate (.ofText "") = .ok ["work"] := rfl
    refine FileSink.isUnused_of_empty rfl (by decide) leads rfl fun name => ?_
    simp [Files.at?, Files.empty, List.lookup_cons]
  have plain : ∀ act ∈ tickingActs, act.IsPlain := by
    simp [tickingActs, Act.IsPlain]
  obtain ⟨held, -⟩ := performAll_record_files unused plain (tick 5)
  refine ⟨unused, plain, ?_, held "export" (by decide) _ rfl⟩
  refine (held "compiler" (by decide) _ rfl).trans ?_
  refine congrArg (fun lines => some (Files.Entry.file (Text.Utf8.encode (ended lines)))) ?_
  decide +kernel

end Log

end GraphScript
