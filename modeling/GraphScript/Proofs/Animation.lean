import GraphScript.Proofs.Health
import GraphScript.Proofs.Import

namespace GraphScript

open Lowered CSharp

variable {ctx : Context} {animations : List String}

theorem Entity.animations_listed {entity : Entity} (h : entity.animations.result = .ok animations) :
    entity.IsListedBy animations ∧ animations.Pairwise (· < ·) := by
  obtain ⟨names, hn, h⟩ := bind_result_ok h
  cases h
  obtain ⟨sorted, members⟩ := Facts.distinct_spec (names.filter (· != ""))
  refine ⟨fun params hp given => (members _).mpr (List.mem_filter.mpr ⟨?_, by simpa using given⟩),
    sorted⟩
  have read (l : List Params) (names : List String)
      (each : List.Forall₂ (fun params name => (do
        let p ← readParams PlayAnimationParams.form params
        return p.animationName : Lowered String).result = .ok name) l names) :
      names = l.map fun params => (PlayAnimationParams.form.coerce params).2.animationName := by
    induction each with
    | nil => rfl
    | cons first _ ih =>
      obtain ⟨p, hp, first⟩ := bind_result_ok first
      cases first
      rw [List.map_cons, ih, readParams_result hp]
  rw [read _ names (mapM_result hn)]
  exact List.mem_map.mpr ⟨params, hp, rfl⟩

/-- A line that, if it calls the animator, plays one of the animations. -/
def Answers (animations : List String) (text : String) : Prop :=
  calls "_animator.Play" text = true → ∃ animation ∈ animations, text = playText animation

theorem answers_of_shows {p : Sign → Bool}
    (hp : ∀ sign, p sign = true → sign.isCallOf "_animator.Play".toList = false) {text : String}
    (h : Shows p text) : Answers animations text := by
  intro called
  obtain ⟨sign, hs, own⟩ := List.any_eq_true.mp called
  cases (hp sign (List.all_eq_true.mp h sign hs)).symm.trans own

theorem not_isCallOf_of_isOf {service : Service} (sign : Sign) (h : sign.isOf service = true) :
    sign.isCallOf "_animator.Play".toList = false := by
  cases sign with
  | call name =>
    rcases Bool.or_eq_true_iff.mp h with plain | own
    · exact Sign.not_isCallOf_of_isPlain plain List.mem_cons_self
    · rw [← eq_of_beq own]
      cases service <;> decide
  | _ => rfl

theorem answers_of_isPlain {text : String} (h : Shows Sign.isPlain text) : Answers animations text :=
  answers_of_shows (fun _ plain => Sign.not_isCallOf_of_isPlain plain List.mem_cons_self) h

theorem Utters.answers {text : String} (h : Utters ctx animations text) :
    Answers animations text := by
  cases h with
  | plain plain => exact answers_of_isPlain plain
  | plays listed => exact fun _ => ⟨_, listed, rfl⟩
  | serves c _ sound =>
    exact answers_of_shows not_isCallOf_of_isOf
      (shows_join (.part _ (ServiceCall.sound_renderStatic sound)) [.given _] rfl)
  | gate c _ sound =>
    exact answers_of_shows not_isCallOf_of_isOf
      (shows_join (.given _) [.part _ (ServiceCall.sound_renderStatic sound), .given _] rfl)

theorem CSharp.Initial.isPlain {text : String} (h : Initial text) : Sound Sign.isPlain text := by
  cases h with
  | literal own => exact own.sound
  | vector v =>
    exact sound_join (.given _) [.part _ (sound_floatLiteral _), .given _,
      .part _ (sound_floatLiteral _), .given _] rfl
  | null => exact sound_given rfl

/-- The declarations of variables call nothing. -/
theorem Declared.isPlain {taken : List String} {vars : List Variable} {pieces : List Piece}
    (h : Declared taken vars pieces) :
    ∀ text ∈ pieces.flatMap Piece.texts, Shows Sign.isPlain text := by
  induction h with
  | nil => simp
  | skip about _ _ ih => exact List.forall_mem_cons.mpr ⟨shows_comment about, ih⟩
  | @field taken v vars text pieces _ ht _ ih =>
    have keyword : Inert v.fieldType.keyword := by cases v.fieldType <;> decide
    obtain ⟨literal, hl, rfl⟩ := declaration_text ht
    refine List.forall_mem_cons.mpr ⟨?_, ih⟩
    exact shows_join (.given _) [.word _ keyword, .given _, .word _ (isName_sanitize v.name).inert,
      .given _, .part _ hl.isPlain, .given _] rfl

namespace Context

namespace Assembly

section Settings

variable (settings : ∀ text ∈ ctx.config.givenTexts, Qualified text)
include settings

theorem header_isPlain (s : ctx.Assembly) :
    ∀ text ∈ s.code.header.texts, Shows Sign.isPlain text := by
  intro text ht
  obtain ⟨about, header⟩ := ctx.header_texts (Facts.none.after ctx.bodies.effects)
  have known : ((baseNamespaces ++ Service.all.flatMap Service.namespaces).all fun name =>
      name.toList.all fun c => !active.contains c) = true := by
    decide
  have runtime : Inert ctx.config.runtimeNamespace :=
    (settings _ (by simp [Config.givenTexts])).inert
  have imported {name : String} (hn : name ∈ baseNamespaces ++
      extraNamespaces ctx.config (Facts.none.after ctx.bodies.effects)) : Inert name := by
    rcases List.mem_append.mp hn with base | extra
    · exact List.all_eq_true.mp known name (List.mem_append_left _ base)
    · rcases (mem_extraNamespaces.mp extra).1 with noted | ⟨-, rfl⟩
      · rcases List.mem_cons.mp (ctx.bodies_imports noted) with rfl | further
        · exact runtime
        · exact List.all_eq_true.mp known name (List.mem_append_right _ further)
      · exact runtime
  change text ∈ (ctx.header (Facts.none.after ctx.bodies.effects)).texts at ht
  simp only [header, List.mem_append, List.mem_cons, List.mem_map, List.not_mem_nil, or_false] at ht
  rcases ht with (((rfl | rfl | rfl) | ⟨name, hn, rfl⟩) | rfl)
  · rfl
  · exact shows_comment about
  · rfl
  · exact shows_join (.given _) [.word _ (imported (List.mem_append.mpr hn)), .given _] rfl
  · rfl

theorem signature_isPlain (s : ctx.Assembly) : Shows Sign.isPlain s.code.signature := by
  obtain ⟨name, hn, own⟩ := className_eq ctx.config.classPrefix ctx.entity.id
  have start : Inert ctx.config.classPrefix := (settings _ (by simp [Config.givenTexts])).inert
  have line : s.code.signature =
      "public class " ++ ctx.config.classPrefix ++ name ++ " : MonoBehaviour" := by
    change "public class " ++ ctx.className ++ " : MonoBehaviour" = _
    rw [className, own]
    simp only [String.append_assoc]
  rw [line]
  exact shows_join (.given _) [.word _ start, .word _ hn.inert, .given _] rfl

theorem fields_isPlain (named : ctx.Named) (s : ctx.Assembly)
    (hd : (declareVariables ctx.entity).result = .ok ()) :
    ∀ text ∈ s.code.fields.texts, Shows Sign.isPlain text := by
  have type : Inert ctx.config.contextType := (settings _ (by simp [Config.givenTexts])).inert
  intro text ht
  change text ∈ (ctx.fields _ s.declared (s.routines.map RoutineCode.flag)).texts at ht
  simp only [fields_texts, List.mem_append] at ht
  rcases ht with own | used | blank | declared | needed | flags
  · have known : ["private Transform _transform;", "private Animator _animator;"].all
        (fun text => (signs text).all Sign.isPlain) = true := rfl
    exact List.all_eq_true.mp known text own
  · split at used
    next =>
      cases List.mem_singleton.mp used
      exact shows_join (.given _) [.word _ type, .given _, .given _, .given _] rfl
    next => cases used
  · split at blank
    next =>
      cases List.mem_singleton.mp blank
      rfl
    next => cases blank
  · rw [Passage.texts_of_flat (s.declared_pieces hd).flat] at declared
    exact (s.declared_pieces hd).isPlain text declared
  · split at needed
    next =>
      cases List.mem_singleton.mp needed
      exact shows_join (.given _) [.word _ named.health.inert, .given _,
        .part _ (sound_floatLiteral _), .given _] rfl
    next => cases needed
  · split at flags
    next => cases flags
    next =>
      rcases List.mem_cons.mp flags with rfl | flag
      · rfl
      · simp only [List.map_map, List.mem_map, Function.comp_apply] at flag
        obtain ⟨r, -, rfl⟩ := flag
        exact shows_join (.given _) [.word _ r.inert_flag, .given _] rfl

theorem methodSignature_isPlain (s : ctx.Assembly) :
    ∀ m ∈ s.code.methods, Shows Sign.isPlain m.signature := by
  have known : (["IEnumerator Start()", "void Start()", Hook.update.signature,
      Hook.collision.signature, "public void OnTakeDamage(float amount)"].all fun text =>
        (signs text).all Sign.isPlain) = true := rfl
  have given {text : String} (h : text ∈ ["IEnumerator Start()", "void Start()", Hook.update.signature,
      Hook.collision.signature, "public void OnTakeDamage(float amount)"]) : Shows Sign.isPlain text :=
    List.all_eq_true.mp known text h
  refine s.forall_methods rfl (fun m hm => ?_) (given ?_) (fun hook => ?_) (fun m hm => ?_)
    fun r _ => r.shows_signature
  · have type : Inert ctx.config.contextType := (settings _ (by simp [Config.givenTexts])).inert
    cases eq_of_mem_initializeMethods hm
    exact shows_join (.given _) [.word _ type, .given _] rfl
  · exact List.mem_append_left _ (startMethod_signature s.startBody)
  · cases hook with
    | update => exact given (by simp)
    | collision => exact given (by simp)
  · obtain ⟨amount, -, rfl⟩ := exists_of_mem_damageMethods hm
    exact given (by simp)

/-- All lines of a class. -/
theorem answers (named : ctx.Named)
    (keys : ∀ key ∈ ctx.entity.inputKeys, Qualified (Key.member key))
    (listed : ctx.entity.IsListedBy animations) (s : ctx.Assembly)
    (hd : (declareVariables ctx.entity).result = .ok ()) :
    ∀ text ∈ s.code.passage.texts, Answers animations text := by
  have blank : Answers animations "" := answers_of_isPlain rfl
  have opened : Answers animations "\x7b" := answers_of_isPlain rfl
  have closed : Answers animations "\x7d" := answers_of_isPlain rfl
  have methods : ∀ text ∈ s.code.methods.flatMap fun m => m.passage.texts,
      Answers animations text := by
    intro text ht
    obtain ⟨m, hm, ht⟩ := List.mem_flatMap.mp ht
    have body := s.bodies_utter named keys listed m hm
    rw [Method.passage_texts] at ht
    simp only [List.mem_cons, List.mem_append, List.not_mem_nil, or_false] at ht
    rcases ht with rfl | rfl | rfl | inside | rfl
    · exact blank
    · exact answers_of_isPlain (s.methodSignature_isPlain settings m hm)
    · exact opened
    · exact (body text inside).answers
    · exact closed
  have remarks : ∀ text ∈ s.code.remarks.texts, Answers animations text := by
    intro text ht
    rcases mem_remarks ht with rfl | ⟨about, rfl⟩
    · exact blank
    · exact answers_of_isPlain (shows_comment about)
  rw [ClassCode.passage_texts]
  simp only [List.forall_mem_append, List.forall_mem_cons]
  exact ⟨fun text ht => answers_of_isPlain (s.header_isPlain settings text ht),
    ⟨answers_of_isPlain (s.signature_isPlain settings), opened, by simp⟩,
    ⟨fun text ht => answers_of_isPlain (s.fields_isPlain settings named hd text ht), methods, remarks⟩,
    closed, by simp⟩

end Settings

end Assembly

end Context

/-- The animations of an artifact are those that are listed for its entity. -/
theorem assemble_animations {config : Config} {entity : Entity} {a : Artifact}
    (h : (assemble config entity).result = .ok (some a)) :
    entity.animations.result = .ok a.animations := by
  unfold assemble at h
  split at h
  next =>
    obtain ⟨made, hm, h⟩ := bind_result_ok h
    cases h
    rw [Context.assemble_eq] at hm
    obtain ⟨_, -, hm⟩ := bind_result_ok hm
    obtain ⟨_, -, hm⟩ := bind_result_ok hm
    obtain ⟨_, -, hm⟩ := bind_result_ok hm
    obtain ⟨_, -, hm⟩ := bind_result_ok hm
    obtain ⟨animations, ha, hm⟩ := bind_result_ok hm
    cases hm
    rwa [(Context.of_fields entity config).1] at ha
  next =>
    obtain ⟨_, -, h⟩ := bind_result_ok h
    cases h

/-- Each line of a class in whose code the animator is called plays an animation that is listed with
the class, wherever the line comes from, if the keys that the entity asks for and the texts of the
settings are names. The animations are listed in increasing order, each once. -/
theorem assemble_lists_animations {draft : Config.Draft} {config : Config}
    (valid : draft.check = .ok config) (settings : ∀ text ∈ config.givenTexts, Qualified text)
    {entity : Entity} (keys : ∀ key ∈ entity.inputKeys, Qualified (Key.member key)) {a : Artifact}
    (h : (assemble config entity).result = .ok (some a)) :
    ∃ w : Writer, (Context.of entity config).classWriter.result = .ok w ∧
      a.source = w.render config.indent ++ "\n" ∧
      (∀ line ∈ w.lines.toList, calls "_animator.Play" line.text = true →
        ∃ animation ∈ a.animations, line.text = playText animation) ∧
      a.animations.Pairwise (· < ·) := by
  have named := Context.of_named valid entity
  obtain ⟨w, s, hw, source, rfl⟩ := assemble_assembly valid h
  obtain ⟨_, -, hd, -⟩ := Context.classWriter_result hw
  have ⟨he, hc⟩ := Context.of_fields entity config
  obtain ⟨listed, sorted⟩ := Entity.animations_listed (assemble_animations h)
  have answers := s.answers (by rwa [hc]) named (by rwa [he]) (by rwa [he]) hd
  refine ⟨_, hw, source, fun line hl => ?_, sorted⟩
  rw [Writer.lines_run] at hl
  exact answers line.text (List.mem_map.mpr ⟨line, hl, rfl⟩)

/-- An entity that plays animations on both sides of a branch, at its start and in a routine. -/
def dancingEntity : Entity :=
  { busyEntity with
    vars := []
    events :=
      [⟨none, "OnUpdate", [], none, [⟨"InputDown", some "KeyW", []⟩], some "RunModule",
        [("moduleId", .text "dance")]⟩]
    modules :=
      [.make "dance" "" none
        [⟨"in", "Entry", none, []⟩, ⟨"tired", "Condition", none, [("variable", .text "hp")]⟩,
         ⟨"rest", "Action", some "Wait", []⟩,
         ⟨"idle", "Action", some "PlayAnimation", [("animationName", .text "idle")]⟩,
         ⟨"bow", "Action", some "PlayAnimation", [("animationName", .text "\"); _animator.Play(\"")]⟩]
        [⟨none, some "in", some "out", some "tired", none⟩,
         ⟨none, some "tired", some "true", some "rest", none⟩,
         ⟨none, some "rest", some "out", some "idle", none⟩,
         ⟨none, some "tired", some "false", some "bow", none⟩]] }

theorem assemble_lists_animations_dancing :
    ∃ config a w, Config.Draft.default.check = .ok config ∧
      (assemble config dancingEntity).result = .ok (some a) ∧
      (Context.of dancingEntity config).classWriter.result = .ok w ∧
      (∀ animation ∈ ["idle", "\"); _animator.Play(\""],
        calls "_animator.Play" (playText animation) = true ∧
          (w.lines.toList.map Line.text).count (playText animation) = 2) ∧
      ∀ line ∈ w.lines.toList, calls "_animator.Play" line.text = true →
        ∃ animation ∈ a.animations, line.text = playText animation := by
  obtain ⟨config, valid⟩ : ∃ config, Config.Draft.default.check = .ok config := ⟨_, rfl⟩
  have settings : ∀ text ∈ config.givenTexts, Qualified text := by
    cases valid
    decide
  have keys : ∀ key ∈ dancingEntity.inputKeys, Qualified (Key.member key) := by decide
  obtain ⟨a, ha⟩ : ∃ a, (assemble config dancingEntity).result = .ok (some a) :=
    assemble_of_fits config rfl (Value.allBounded_of_small (by decide))
  obtain ⟨w, hw, -, played, -⟩ := assemble_lists_animations valid settings keys ha
  have counts : (do
      let config ← Config.Draft.default.check.toOption
      let w ← (Context.of dancingEntity config).classWriter.result.toOption
      return ["idle", "\"); _animator.Play(\""].all fun animation =>
        calls "_animator.Play" (playText animation) &&
          (w.lines.toList.map Line.text).count (playText animation) == 2) = some true := by
    decide +kernel
  rw [valid, Except.toOption, Option.bind_eq_bind, Option.bind_some, hw] at counts
  refine ⟨config, a, w, valid, ha, hw, fun animation hn => ?_, played⟩
  simpa using List.all_eq_true.mp (Option.some.inj counts) animation hn

/-- A key can play an animation that is not listed. -/
def playingKey : String := "A)) _animator.Play(\"ghost\"); if ((true"

theorem playingKey_not_listed :
    ∃ config a w, Config.Draft.default.check = .ok config ∧
      (assemble config (pressedEntity "door" playingKey)).result = .ok (some a) ∧
      (Context.of (pressedEntity "door" playingKey) config).classWriter.result = .ok w ∧
      a.source = w.render config.indent ++ "\n" ∧ a.animations = [] ∧
      ∃ line ∈ w.lines.toList, calls "_animator.Play" line.text = true := by
  have played : (do
      let config ← Config.Draft.default.check.toOption
      let w ← (Context.of (pressedEntity "door" playingKey) config).classWriter.result.toOption
      return w.lines.toList.any fun line => calls "_animator.Play" line.text) = some true := by
    decide +kernel
  have none : (pressedEntity "door" playingKey).animations.result = .ok [] := by decide +kernel
  obtain ⟨config, a, w, valid, ha, hw, source, played⟩ := pressedEntity_source played
  have listed : a.animations = [] := Except.ok.inj ((assemble_animations ha).symm.trans none)
  exact ⟨config, a, w, valid, ha, hw, source, listed, List.any_eq_true.mp played⟩

end GraphScript
