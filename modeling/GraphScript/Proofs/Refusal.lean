import GraphScript.Command.Run

namespace GraphScript

namespace Log

theorem FileSink.create_begun {settings : Settings} {environment : Environment} {clock : Clock}
    {directory session : Option String} {sink : FileSink}
    (h : create settings environment clock directory session = .ok sink) : sink.begun = [] := by
  unfold create at h
  dsimp only at h
  split at h
  next =>
    cases h
    rfl
  next =>
    cases hd : recordDirectory settings environment with
    | error issue =>
      rw [hd] at h
      cases h
    | ok path =>
      rw [hd] at h
      cases h
      rfl

/-- Nothing was sent to a sink that would have to be written. -/
def Sink.IsFresh : Sink → Prop
  | file sink => sink.begun = []
  | _ => True

theorem Sink.IsFresh.close {sink : Sink} (h : sink.IsFresh) (clock : Clock) (files : Files) :
    sink.close clock files = files := by
  cases sink with
  | file sink =>
    have unused : sink.begun = [] := h
    simp only [Sink.close, FileSink.close, unused, FileSink.writeStreams]
  | discard => rfl
  | memory records => rfl

theorem Sink.forStream_isFresh {settings : Settings} {environment : Environment} {clock : Clock}
    {stream : String} {session : Option String} {sink : Sink}
    (h : forStream settings environment clock stream session = .ok sink) : sink.IsFresh := by
  have made {directory : Option String}
      (h : (do return file (← FileSink.create settings environment clock directory session)) =
        Except.ok sink) : sink.IsFresh := by
    cases hc : FileSink.create settings environment clock directory session with
    | error issue =>
      rw [hc] at h
      cases h
    | ok created =>
      rw [hc] at h
      cases h
      exact FileSink.create_begun hc
  unfold forStream at h
  dsimp only at h
  split at h
  next =>
    split at h
    next => exact made h
    next => exact made h
    next => cases h
  next =>
    cases h
    trivial

end Log

namespace Command

namespace Progress

/-- What lies between two points of a run are notes only: nothing was printed, sent or written. -/
structure OnlyNotes (p q : Progress) : Prop where
  output : q.output = p.output
  sinks : q.sinks = p.sinks
  files : q.files = p.files

theorem deliver_ne_refused (options : Options) (config : Config) (artifacts : List Artifact)
    (p : Progress) : (p.deliver options config artifacts).2 ≠ .ok refused := by
  have zero : (Except.ok 0 : Except Failure Nat) ≠ .ok refused := by
    intro h
    cases h
  unfold deliver
  dsimp only
  split
  next => exact zero
  next =>
    split
    next =>
      intro h
      cases h
    next =>
      split
      next => exact zero
      next =>
        split
        next =>
          intro h
          cases h
        next => exact zero

end Progress

variable {world : World} {options : Options} {log : Log.Settings}

theorem compileWith_ne_refused (config : Config) (project : Project) (p : Progress) :
    (compileWith world options log config project p).2 ≠ .ok refused := by
  unfold compileWith
  dsimp only
  split
  next =>
    intro h
    cases h
  next =>
    split
    next =>
      intro h
      cases h
    next =>
      split
      next =>
        intro h
        cases h
      next => exact Progress.deliver_ne_refused _ _ _ _

/-- The settings are refused, or they are fine and the payload is refused. -/
inductive Refuses (world : World) (options : Options) (path : Option String) : Prop
  | settings {issue : Config.Issue}
      (given : (Config.load world.files path world.environment).2 =
        .error (.settings (.issue issue))) : Refuses world options path
  | payload {config : Config} {issue : PayloadIssue}
      (fine : (Config.load world.files path world.environment).2 = .ok config)
      (given : loadProject world options = .error (.payload issue))
      (told : ∀ fault, issue ≠ .fault fault) : Refuses world options path

variable {path : Option String} {p : Progress}

theorem refuses_of_exit (h : (compileFrom world options log path p).2 = .ok refused) :
    Refuses world options path := by
  unfold compileFrom at h
  dsimp only at h
  split at h
  next issue given => exact .settings given
  next => cases h
  next => cases h
  next => cases h
  next => cases h
  next config fine =>
    split at h
    next => cases h
    next => cases h
    next => cases h
    next issue told given => exact .payload fine given told
    next => exact absurd h (compileWith_ne_refused _ _ _)

/-- Whatever the sinks are, a run that is refused has only made notes. -/
theorem Refuses.onlyNotes (h : Refuses world options path) (log : Log.Settings) (p : Progress) :
    p.OnlyNotes (compileFrom world options log path p).1 := by
  unfold compileFrom
  dsimp only
  cases h with
  | settings given =>
    rw [given]
    exact ⟨rfl, rfl, rfl⟩
  | @payload config issue fine given told =>
    rw [fine, given]
    cases issue with
    | fault fault => exact absurd rfl (told fault)
    | _ => exact ⟨rfl, rfl, rfl⟩

theorem compile_refused (h : (compile world options log p).2 = .ok refused) (q : Progress) :
    q.OnlyNotes (compile world options log q).1 := by
  unfold compile at h ⊢
  split at h
  next => cases h
  next path named => exact (refuses_of_exit h).onlyNotes log q

theorem recordSink_isFresh {sink : Log.Sink} (h : recordSink world options log = .ok sink) :
    sink.IsFresh := by
  unfold recordSink at h
  split at h
  next directory given =>
    cases hc : Log.FileSink.create log world.environment world.clock (some directory)
        (some "compile") with
    | error issue =>
      rw [hc] at h
      cases h
    | ok created =>
      rw [hc] at h
      cases h
      exact Log.FileSink.create_begun hc
  next => exact Log.Sink.forStream_isFresh h

/-- The records that a run sends: those that a sink which keeps them holds at the end, in the place of
the sink that the run would make. -/
def sentRecords (world : World) : List Params :=
  match Request.ofTexts world.arguments with
  | .ok (.run options) =>
    let start : Progress := ⟨"", [], [(Progress.stream, .memory [])], world.files⟩
    match (compile world options (logSettings world options) start).1.sinks with
    | [(_, .memory records)] => records
    | _ => []
  | _ => []

/-- A run that is refused leaves the files as they were, prints nothing and sends no records. -/
theorem run_refused_changes_nothing (world : World) (h : (run world).exit = .ok refused) :
    (run world).files = world.files ∧ (run world).output = "" ∧ sentRecords world = [] := by
  unfold run at h ⊢
  dsimp only at h ⊢
  split at h
  next issue usage =>
    refine ⟨rfl, rfl, ?_⟩
    rw [sentRecords, usage]
  next => cases h
  next options asked =>
    unfold runWith at h ⊢
    dsimp only at h ⊢
    split at h
    next => cases h
    next sink made =>
      have own := compile_refused h ⟨"", [], [(Progress.stream, sink)], world.files⟩
      have kept := compile_refused h ⟨"", [], [(Progress.stream, .memory [])], world.files⟩
      refine ⟨?_, own.output, ?_⟩
      · rw [own.sinks, own.files]
        exact (recordSink_isFresh made).close world.clock world.files
      · rw [sentRecords, asked]
        dsimp only
        rw [kept.sinks]

/-- A run that is to write artifacts, a manifest and records, with half a payload. -/
def halfWorld : World where
  arguments := ["door.json", "--out", "made", "--manifest", "list.json", "--log-records", "records"]
  environment := [("HOME", "/home/user"), ("UNIFORGE_LOGGING_COMPILER_ENABLED", "true")]
  files := ⟨["work"], [(["work"], .directory),
    (["work", "door.json"], .file (Text.Utf8.encode "\x7b\"scenes\": "))]⟩
  input := ""
  clock := ⟨.zero false, "now"⟩

theorem run_refused_changes_nothing_half :
    (run halfWorld).exit = .ok refused ∧ (run halfWorld).files = halfWorld.files ∧
      (run halfWorld).output = "" ∧ sentRecords halfWorld = [] := by
  have code : (run halfWorld).exit.toOption = some refused := by decide +kernel
  have exit : (run halfWorld).exit = .ok refused := by
    cases he : (run halfWorld).exit with
    | error failure =>
      rw [he] at code
      cases code
    | ok found =>
      rw [he] at code
      cases code
      rfl
  exact ⟨exit, run_refused_changes_nothing halfWorld exit⟩

end Command

end GraphScript
