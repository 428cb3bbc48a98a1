import GraphScript.Proofs.Contribution

namespace GraphScript

open Lowered CSharp

theorem Config.Draft.check_healthField {draft : Draft} {config : Config}
    (h : draft.check = .ok config) : Text.isIdentifier config.healthField = true := by
  unfold check at h
  iterate 7
    split at h
    next => cases h
  split at h
  next => cases h
  next identifier =>
    cases h
    simpa using identifier

/-- The parts from which the class of an entity is put together. -/
structure Context.Assembly (ctx : Context) where
  declared : Passage
  start : Passage
  contributions : List Contribution
  declares : (declareVariables ctx.entity).Wrote ctx false declared
  starts : (ctx.lowerStart ctx.config.maxEmittedNodes).Wrote ctx
    ((ctx.lowerStart ctx.config.maxEmittedNodes).visits.any Visit.waits) start
  contributes : List.Forall₂ ctx.Contributes ctx.occasions contributions
  numbered : (contributions.filterMap Contribution.routine?).map RoutineCode.number =
    List.range (contributions.filterMap Contribution.routine?).length

namespace Context

variable {ctx : Context}

theorem of_named {draft : Config.Draft} {config : Config} (valid : draft.check = .ok config)
    (entity : Entity) : (Context.of entity config).Named := by
  refine ⟨of_namesSanitized entity config, ?_⟩
  rw [(of_fields entity config).2]
  exact CSharp.isName_identifier (Config.Draft.check_healthField valid)

namespace Assembly

def code (s : ctx.Assembly) : ClassCode :=
  ctx.classCode (Facts.none.after ctx.bodies.effects) s.declared (.of s.start s.contributions)

def startBody (s : ctx.Assembly) : Passage :=
  .seq s.start (.concat (s.contributions.map (Contribution.passage .start)))

def hookBody (s : ctx.Assembly) (hook : Hook) : Passage :=
  .concat (s.contributions.map (Contribution.passage (.hook hook)))

def routines (s : ctx.Assembly) : List RoutineCode :=
  s.contributions.filterMap Contribution.routine?

/-- The methods of a class, sort by sort. -/
theorem forall_methods (s : ctx.Assembly) {p : Method → Prop} (awake : p awakeMethod)
    (context : ∀ m ∈ initializeMethods ctx.config, p m) (start : p (startMethod s.startBody))
    (hooks : ∀ hook, p ⟨hook.signature, s.hookBody hook⟩)
    (damage : ∀ m ∈ ctx.damageMethods (Facts.none.after ctx.bodies.effects), p m)
    (routines : ∀ r ∈ s.routines, p r.method) : ∀ m ∈ s.code.methods, p m := by
  unfold code classCode
  simp only [List.forall_mem_append, List.forall_mem_cons]
  refine ⟨⟨⟨⟨⟨awake, context⟩, Method.forall_unlessEmpty start⟩, ?_⟩, damage⟩, ?_⟩
  · intro m hm
    obtain ⟨hook, -, hm⟩ := List.mem_flatMap.mp hm
    exact Method.forall_unlessEmpty (hooks hook) m hm
  · intro m hm
    obtain ⟨r, hr, rfl⟩ := List.mem_map.mp hm
    exact routines r hr

theorem start_mem (s : ctx.Assembly) (h : s.startBody.lines ≠ []) :
    startMethod s.startBody ∈ s.code.methods :=
  List.mem_append_left _ (List.mem_append_left _ (List.mem_append_left _
    (List.mem_append_right _ (Method.mem_unlessEmpty h))))

theorem hook_mem (s : ctx.Assembly) {hook : Hook} (h : (s.hookBody hook).lines ≠ []) :
    ⟨hook.signature, s.hookBody hook⟩ ∈ s.code.methods := by
  have known : hook ∈ Hook.all := by cases hook <;> decide
  have kept : (⟨hook.signature, s.hookBody hook⟩ : Method) ∈
      Hook.all.flatMap fun hook => Method.unlessEmpty ⟨hook.signature, s.hookBody hook⟩ :=
    List.mem_flatMap.mpr ⟨hook, known, Method.mem_unlessEmpty h⟩
  exact List.mem_append_left _ (List.mem_append_left _ (List.mem_append_right _ kept))

theorem routine_mem (s : ctx.Assembly) {r : RoutineCode} (h : r ∈ s.routines) :
    r.method ∈ s.code.methods :=
  List.mem_append_right _ (List.mem_map.mpr ⟨r, h, rfl⟩)

end Assembly

theorem bodies_collects (named : ctx.Named) {b : Bodies} (h : ctx.bodies.result = .ok b) :
    ∃ start contributions, (ctx.lowerStart ctx.config.maxEmittedNodes).Wrote ctx
        ((ctx.lowerStart ctx.config.maxEmittedNodes).visits.any Visit.waits) start ∧
      List.Forall₂ ctx.Contributes ctx.occasions contributions ∧ b.Collects start contributions := by
  rw [bodies_eq] at h
  obtain ⟨⟨effects, pieces, _⟩, ho, h⟩ := bind_result_ok h
  obtain ⟨rfl, hc⟩ := observe_result_ok ho
  obtain ⟨rfl, hs⟩ := capture_result_ok hc
  obtain ⟨start, wrote, -⟩ := lowerStart_writes named _ _ hs
  let begun : Bodies :=
    { (Bodies.new ctx.config.maxEmittedNodes).spend
        (ctx.lowerStart ctx.config.maxEmittedNodes).capture.effects with
      start := (Writer.new 0).run (ctx.lowerStart ctx.config.maxEmittedNodes).pieces }
  -- before any event there is the walk of the first module, and nothing else
  have collected : begun.Collects start [] := by
    refine ⟨⟨?_, fun hook => by cases hook <;> rfl, rfl, rfl⟩, rfl⟩
    change (Writer.new 0).run (Lowered.pieces _) = (Writer.new 0).run (start.pieces ++ [])
    rw [wrote.pieces, List.append_nil]
  have left : begun.budget = ctx.config.maxEmittedNodes -
      (ctx.lowerStart ctx.config.maxEmittedNodes).visits.length := by
    rw [← visits_capture]
    rfl
  obtain ⟨contributions, contributes, all⟩ := addEvents_contribute named collected h
  rw [left] at contributes
  exact ⟨start, contributions, wrote, contributes, all⟩

/-- The writer of a class holds the class that is put together from these parts. -/
theorem classWriter_assembly (named : ctx.Named) {w : Writer} (h : ctx.classWriter.result = .ok w) :
    ∃ s : ctx.Assembly, w = (Writer.new 0).run s.code.passage.pieces := by
  obtain ⟨b, hb, hd, rfl⟩ := classWriter_result h
  have fields : (declareVariables ctx.entity).Writes ctx false false := declareFrom_writes _ _ _
  obtain ⟨declared, declares, -⟩ := fields _ hd
  obtain ⟨start, contributions, starts, contributes, collected⟩ := bodies_collects named hb
  have numbered := collected.numbered
  rw [collected.holds.routines, List.length_map] at numbered
  refine ⟨⟨declared, start, contributions, declares, starts, contributes, numbered⟩, ?_⟩
  rw [show (declareVariables ctx.entity).pieces = declared.pieces from declares.pieces,
    writeClass_eq _ declared collected.holds]
  rfl

end Context

namespace Passage

variable {ctx : Context}

theorem isOrdinary_concat {passages : List Passage} :
    (concat passages).IsOrdinary ctx ↔ ∀ p ∈ passages, p.IsOrdinary ctx := by
  induction passages with
  | nil => simp [concat, IsOrdinary]
  | cons first rest ih => simp [concat, IsOrdinary, ih]

theorem isOrdinary_ofLines {texts : List String} :
    (ofLines texts).IsOrdinary ctx ↔ ∀ text ∈ texts, text = "" ∨ ctx.Ordinary text := by
  simp [ofLines, isOrdinary_concat, IsOrdinary]

theorem isOrdinary_ite {c : Prop} [Decidable c] {yes no : Passage} (hy : yes.IsOrdinary ctx)
    (hn : no.IsOrdinary ctx) : (if c then yes else no).IsOrdinary ctx := by
  split
  next => exact hy
  next => exact hn

theorem isOrdinary_guarded {guards : List String} {body : Passage}
    (hg : ∀ guard ∈ guards, ctx.Expression guard) (hb : body.IsOrdinary ctx) :
    (guarded guards body).IsOrdinary ctx := by
  induction guards with
  | nil => exact hb
  | cons guard guards ih =>
    obtain ⟨first, others⟩ := List.forall_mem_cons.mp hg
    refine ⟨fun text ht => ?_, ih others⟩
    cases ht
    exact Context.ordinary_test first

end Passage

/-- The word that the flag of a hook's routines begins with. -/
def Hook.flagStart : Hook → String
  | .update => "_updateRoutine"
  | .collision => "_onCollisionEnter2DRoutine"

namespace RoutineCode

theorem flag_of_method (r : RoutineCode) {c : Char} {word : List Char}
    (h : r.hook.method.toList = c :: word) :
    r.flag = "_" ++ String.ofList (c.toLower :: word) ++ "Routine" ++ toString r.number ++
      "Running" := by
  have name : (r.hook.method ++ "Routine" ++ toString r.number).toList =
      c :: (word ++ "Routine".toList ++ (toString r.number).toList) := by
    rw [String.toList_append, String.toList_append, h]
    rfl
  unfold flag routine Routine.of
  dsimp only
  rw [name]
  refine String.toList_inj.mp ?_
  simp

theorem flag_eq (r : RoutineCode) : r.flag = r.hook.flagStart ++ toString r.number ++ "Running" := by
  cases h : r.hook with
  | update =>
    have word : r.hook.method.toList = 'U' :: ['p', 'd', 'a', 't', 'e'] := by
      rw [h]
      rfl
    rw [flag_of_method r word]
    rfl
  | collision =>
    have word : r.hook.method.toList = 'O' :: ['n', 'C', 'o', 'l', 'l', 'i', 's', 'i', 'o', 'n', 'E',
        'n', 't', 'e', 'r', '2', 'D'] := by
      rw [h]
      rfl
    rw [flag_of_method r word]
    rfl

theorem unmarked_name (r : RoutineCode) : Unmarked r.name := by
  have start : Unmarked (r.hook.method ++ "Routine") := by cases r.hook <;> decide
  exact start.append (unmarked_nat r.number)

theorem unmarked_flag (r : RoutineCode) : Unmarked r.flag := by
  have start : Unmarked r.hook.flagStart := by cases r.hook <;> decide
  have running : Unmarked "Running" := by decide
  rw [flag_eq]
  exact (start.append (unmarked_nat r.number)).append running

theorem neutral_name (r : RoutineCode) : Neutral r.name :=
  r.unmarked_name.neutral

theorem neutral_flag (r : RoutineCode) : Neutral r.flag :=
  r.unmarked_flag.neutral

theorem isApart_flag (r : RoutineCode) (rest : String) : IsApart (r.flag ++ rest).toList := by
  refine isApart_of_head (c := '_') ?_ (by decide)
  rw [flag_eq]
  cases r.hook <;> simp [Hook.flagStart]

end RoutineCode

namespace Facts

/-- Dropping repetitions from a sorted list, with what was kept so far turned around. -/
theorem eraseReps_loop {first : String} {rest kept : List String}
    (sorted : (first :: rest).Pairwise (· ≤ ·)) (before : kept.Pairwise (· > ·))
    (below : ∀ text ∈ kept, text < first) :
    (List.eraseRepsBy.loop (· == ·) first rest kept).Pairwise (· < ·) ∧
      ∀ text, text ∈ List.eraseRepsBy.loop (· == ·) first rest kept ↔
        text ∈ kept ∨ text ∈ first :: rest := by
  induction rest generalizing first kept with
  | nil =>
    have all : (first :: kept).Pairwise (· > ·) := List.pairwise_cons.mpr ⟨below, before⟩
    refine ⟨List.pairwise_reverse.mpr all, fun text => ?_⟩
    simp [List.eraseRepsBy.loop, or_comm]
  | cons second rest ih =>
    obtain ⟨least, further⟩ := List.pairwise_cons.mp sorted
    rw [List.eraseRepsBy.loop]
    split
    next same =>
      cases eq_of_beq same
      obtain ⟨increasing, members⟩ := ih further before below
      refine ⟨increasing, fun text => ?_⟩
      rw [members]
      simp
    next other =>
      have different : first ≠ second := ne_of_beq_false other
      have less : first < second := Std.lt_of_le_of_ne (least second List.mem_cons_self) different
      have all : (first :: kept).Pairwise (· > ·) := List.pairwise_cons.mpr ⟨below, before⟩
      have lower : ∀ text ∈ first :: kept, text < second :=
        List.forall_mem_cons.mpr ⟨less, fun text ht => String.lt_trans (below text ht) less⟩
      obtain ⟨increasing, members⟩ := ih further all lower
      refine ⟨increasing, fun text => ?_⟩
      rw [members]
      simp [or_left_comm, or_assoc]

theorem distinct_spec (texts : List String) :
    (distinct texts).Pairwise (· < ·) ∧ ∀ text, text ∈ distinct texts ↔ text ∈ texts := by
  have sorted : (texts.mergeSort fun a b => decide (a ≤ b)).Pairwise (· ≤ ·) := by
    have ordered := @List.pairwise_mergeSort String (fun a b => decide (a ≤ b))
      (fun a b c hab hbc => decide_eq_true
        (String.le_trans (of_decide_eq_true hab) (of_decide_eq_true hbc)))
      (fun a b => by simpa using String.le_total a b) texts
    exact ordered.imp of_decide_eq_true
  have members (text : String) : text ∈ texts.mergeSort (fun a b => decide (a ≤ b)) ↔ text ∈ texts :=
    List.mem_mergeSort
  unfold distinct List.eraseReps List.eraseRepsBy
  cases hm : texts.mergeSort fun a b => decide (a ≤ b) with
  | nil =>
    refine ⟨.nil, fun text => ?_⟩
    rw [← members, hm]
  | cons first rest =>
    rw [hm] at sorted
    obtain ⟨increasing, all⟩ := eraseReps_loop sorted .nil (by simp)
    refine ⟨increasing, fun text => ?_⟩
    rw [all, ← members, hm]
    simp

end Facts

theorem extraNamespaces_sorted (config : Config) (facts : Facts) :
    (extraNamespaces config facts).Pairwise (· < ·) :=
  (Facts.distinct_spec _).1.filter _

theorem mem_extraNamespaces {config : Config} {facts : Facts} {name : String} :
    name ∈ extraNamespaces config facts ↔
      (name ∈ facts.namespaces ∨ config.usesContext = true ∧ name = config.runtimeNamespace) ∧
        name ∉ baseNamespaces := by
  have context : name ∈ (if config.usesContext then [config.runtimeNamespace] else []) ↔
      config.usesContext = true ∧ name = config.runtimeNamespace := by
    split
    next used => simp [used]
    next unused => simp [unused]
  simp only [extraNamespaces, List.mem_filter, (Facts.distinct_spec _).2, List.mem_append, context,
    Bool.not_eq_true', List.contains_eq_mem, decide_eq_false_iff_not]

structure Method.IsOrdinary (ctx : Context) (m : Method) : Prop where
  signature : ctx.Ordinary m.signature
  body : m.body.IsOrdinary ctx

namespace Context

variable {ctx : Context}

theorem call_ordinary (r : RoutineCode) : ctx.Ordinary r.call :=
  ordinary_join _ [.part _ r.neutral_flag, .given _, .part _ r.neutral_name, .given _] (by decide) rfl

theorem Contributes.isOrdinary (named : ctx.Named) {o : Occasion} {c : Contribution}
    (he : o.event ∈ ctx.entity.events) (h : ctx.Contributes o c) (trigger : Trigger) :
    (c.passage trigger).IsOrdinary ctx := by
  cases h with
  | unhandled => trivial
  | nothing => trivial
  | inline _ _ guarded performs _ =>
    have inside := Passage.isOrdinary_guarded (guarded.expression named he) performs.wrote.ordinary
    exact Passage.isOrdinary_ite inside trivial
  | @routine _ r _ _ guarded _ _ =>
    have line : (Passage.line r.call).IsOrdinary ctx := .inr (call_ordinary r)
    exact Passage.isOrdinary_ite
      (Passage.isOrdinary_guarded (guarded.expression named he) line) trivial

/-- What a file imports is always the same, or known from the settings and the services. -/
theorem neutral_import (harmless : ctx.Harmless) {facts : Facts}
    (hf : facts.namespaces ⊆ ctx.config.callNamespaces) :
    ∀ name ∈ baseNamespaces ++ extraNamespaces ctx.config facts, Neutral name := by
  have base : ∀ name ∈ baseNamespaces ++ Service.all.flatMap Service.namespaces, Neutral name := by
    decide
  obtain ⟨always, services⟩ := List.forall_mem_append.mp base
  have known : ∀ name ∈ ctx.config.callNamespaces, Neutral name :=
    List.forall_mem_cons.mpr ⟨harmless.runtimeNamespace, services⟩
  refine List.forall_mem_append.mpr ⟨always, fun name hn => ?_⟩
  rcases (mem_extraNamespaces.mp hn).1 with noted | ⟨-, rfl⟩
  · exact known name (hf noted)
  · exact harmless.runtimeNamespace

theorem header_isOrdinary {facts : Facts} (hf : facts.namespaces ⊆ ctx.config.callNamespaces) :
    (ctx.header facts).IsOrdinary ctx := by
  have opening : ctx.Ordinary "// <auto-generated>" := ordinary_join _ [] (by decide) rfl
  have closing : ctx.Ordinary "// </auto-generated>" := ordinary_join _ [] (by decide) rfl
  have imports : ∀ name ∈ baseNamespaces ++ extraNamespaces ctx.config facts,
      ctx.Ordinary ("using " ++ name ++ ";") := by
    intro name hn
    refine ⟨isApart_of_head (c := 'u') (by simp) (by decide), fun harmless => ?_⟩
    have neutral := neutral_import harmless hf name hn
    exact neutral_join [.given _, .part _ neutral, .given _] rfl
  refine Passage.isOrdinary_concat.mpr ?_
  simp only [List.forall_mem_cons]
  refine ⟨.inr opening, trivial, .inr closing, ?_, .inl rfl, by simp⟩
  refine Passage.isOrdinary_ofLines.mpr fun text ht => .inr ?_
  obtain ⟨name, hn, rfl⟩ := List.mem_map.mp ht
  exact imports name hn

theorem fields_isOrdinary (named : ctx.Named) (facts : Facts) {declared : Passage}
    (hd : declared.IsOrdinary ctx) (routines : List RoutineCode) :
    (ctx.fields facts declared (routines.map RoutineCode.flag)).IsOrdinary ctx := by
  have own : ctx.Ordinary "private Transform _transform;" := ordinary_join _ [] (by decide) rfl
  have animator : ctx.Ordinary "private Animator _animator;" := ordinary_join _ [] (by decide) rfl
  have context : ctx.Ordinary ("private " ++ ctx.config.contextType ++ " " ++
      ServiceCall.contextField ++ ";") :=
    ⟨isApart_of_head (c := 'p') (by simp) (by decide), fun harmless =>
      neutral_join [.given _, .part _ harmless.contextType, .given _, .given _, .given _] rfl⟩
  have health : ctx.Ordinary (healthLine ctx.config) :=
    ordinary_join _ [.part _ named.health.unmarked.neutral, .given _,
      .part _ (neutral_floatLiteral _), .given _] (by decide) rfl
  have flags : ∀ text ∈ "" :: (routines.map RoutineCode.flag).map fun flag =>
      "private bool " ++ flag ++ ";", text = "" ∨ ctx.Ordinary text := by
    refine List.forall_mem_cons.mpr ⟨.inl rfl, fun text ht => .inr ?_⟩
    simp only [List.map_map, List.mem_map, Function.comp_apply] at ht
    obtain ⟨r, -, rfl⟩ := ht
    exact ordinary_join _ [.part _ r.neutral_flag, .given _] (by decide) rfl
  refine Passage.isOrdinary_concat.mpr ?_
  simp only [List.forall_mem_cons]
  refine ⟨.inr own, .inr animator, ?_, ?_, hd, ?_, ?_, by simp⟩
  · exact Passage.isOrdinary_ite (.inr context) trivial
  · exact Passage.isOrdinary_ite (.inl rfl) trivial
  · exact Passage.isOrdinary_ite (.inr health) trivial
  · exact Passage.isOrdinary_ite trivial (Passage.isOrdinary_ofLines.mpr flags)

theorem awakeMethod_isOrdinary : awakeMethod.IsOrdinary ctx := by
  have own : ctx.Ordinary "_transform = transform;" := ordinary_join _ [] (by decide) rfl
  have animator : ctx.Ordinary "_animator = GetComponent<Animator>();" :=
    ordinary_join _ [] (by decide) rfl
  refine ⟨ordinary_join _ [] (by decide) rfl, Passage.isOrdinary_ofLines.mpr ?_⟩
  simp [own, animator]

theorem initializeMethods_isOrdinary :
    ∀ m ∈ initializeMethods ctx.config, m.IsOrdinary ctx := by
  have signature : ctx.Ordinary ("public void Initialize(" ++ ctx.config.contextType ++ " context)") :=
    ⟨isApart_of_head (c := 'p') (by simp) (by decide), fun harmless =>
      neutral_join [.given _, .part _ harmless.contextType, .given _] rfl⟩
  have line : ctx.Ordinary (ServiceCall.contextField ++ " = context;") :=
    ordinary_join _ [.given _] (by decide) rfl
  intro m hm
  cases eq_of_mem_initializeMethods hm
  exact ⟨signature, .inr line⟩

theorem startMethod_isOrdinary {body : Passage} (h : body.IsOrdinary ctx) :
    (startMethod body).IsOrdinary ctx := by
  refine ⟨?_, h⟩
  unfold startMethod
  split
  next => exact ordinary_join _ [] (by decide) rfl
  next => exact ordinary_join _ [] (by decide) rfl

theorem hookMethod_isOrdinary (hook : Hook) {body : Passage} (h : body.IsOrdinary ctx) :
    Method.IsOrdinary ctx ⟨hook.signature, body⟩ := by
  refine ⟨?_, h⟩
  cases hook with
  | update => exact ordinary_join _ [] (by decide) rfl
  | collision => exact ordinary_join _ [] (by decide) rfl

theorem damageMethods_isOrdinary (named : ctx.Named) (facts : Facts) :
    ∀ m ∈ ctx.damageMethods facts, m.IsOrdinary ctx := by
  have amounts : ∀ amount ∈ ["Mathf.RoundToInt(amount)", "amount"], Neutral amount := by decide
  intro m hm
  obtain ⟨amount, ha, rfl⟩ := exists_of_mem_damageMethods hm
  exact ⟨ordinary_join _ [] (by decide) rfl,
    .inr (ordinary_assignment named.health (c := '-') (by decide)
      [.given _, .part _ (amounts amount ha), .given _] rfl rfl)⟩

theorem routineMethod_isOrdinary {r : RoutineCode} (h : r.body.IsOrdinary ctx) :
    r.method.IsOrdinary ctx := by
  have running : ctx.Ordinary (r.flag ++ " = true;") :=
    ⟨r.isApart_flag _, fun _ => neutral_join [.part _ r.neutral_flag, .given _] rfl⟩
  have ended : ctx.Ordinary (r.flag ++ " = false;") :=
    ⟨r.isApart_flag _, fun _ => neutral_join [.part _ r.neutral_flag, .given _] rfl⟩
  exact ⟨ordinary_join _ [.part _ r.neutral_name, .given _] (by decide) rfl,
    .inr running, h, .inr ended⟩

theorem className_neutral (harmless : ctx.Harmless) : Neutral ctx.className := by
  obtain ⟨name, hn, own⟩ := className_eq ctx.config.classPrefix ctx.entity.id
  rw [className, own]
  exact harmless.classPrefix.append hn.unmarked.neutral

/-- All that a body imports is what calls need. -/
theorem bodies_imports (ctx : Context) :
    (Facts.none.after ctx.bodies.effects).namespaces ⊆ ctx.config.callNamespaces := by
  have each : ctx.AllowsEach fun e => ∀ name, e.namespace? = some name →
      name ∈ ctx.config.callNamespaces :=
    { leaf := fun e leaf name noted => by
        cases e with
        | needNamespace other =>
          cases noted
          simpa using (Bool.and_eq_true_iff.mp leaf).2
        | _ => cases noted
      write := fun _ _ noted => by cases noted
      visit := fun _ _ noted => by cases noted
      fallback := fun _ _ _ noted => by cases noted }
  intro name hn
  obtain ⟨e, he, noted⟩ := List.mem_filterMap.mp hn
  exact bodies_within each.allows e he name noted

namespace Assembly

theorem contributed_isOrdinary (named : ctx.Named) (s : ctx.Assembly) (trigger : Trigger) :
    (Passage.concat (s.contributions.map (Contribution.passage trigger))).IsOrdinary ctx := by
  refine Passage.isOrdinary_concat.mpr fun p hp => ?_
  obtain ⟨c, hc, rfl⟩ := List.mem_map.mp hp
  obtain ⟨o, ho, contributes⟩ := exists_of_forall₂ s.contributes c hc
  exact contributes.isOrdinary named (event_mem_of_occasion ho) trigger

theorem routine_performs (s : ctx.Assembly) :
    ∀ r ∈ s.routines, ∃ o ∈ ctx.occasions, ctx.Performs o r.body ∧ o.waits ctx = true := by
  intro r hr
  obtain ⟨c, hc, own⟩ := List.mem_filterMap.mp hr
  obtain ⟨o, ho, contributes⟩ := exists_of_forall₂ s.contributes c hc
  cases contributes with
  | routine _ _ _ performs waits =>
    cases own
    exact ⟨o, ho, performs, waits⟩
  | _ => cases own

theorem methods_isOrdinary (named : ctx.Named) (s : ctx.Assembly) :
    ∀ m ∈ s.code.methods, m.IsOrdinary ctx := by
  refine s.forall_methods awakeMethod_isOrdinary initializeMethods_isOrdinary
    (startMethod_isOrdinary ⟨s.starts.ordinary, s.contributed_isOrdinary named .start⟩)
    (fun hook => hookMethod_isOrdinary hook (s.contributed_isOrdinary named (.hook hook)))
    (damageMethods_isOrdinary named _) fun r hr => ?_
  obtain ⟨_, -, performs, -⟩ := s.routine_performs r hr
  exact routineMethod_isOrdinary performs.wrote.ordinary

/-- All lines of a class are ordinary but for braces, waits and the tests of hits. -/
theorem isOrdinary (named : ctx.Named) (s : ctx.Assembly) : s.code.passage.IsOrdinary ctx := by
  have header : s.code.header.IsOrdinary ctx := header_isOrdinary ctx.bodies_imports
  have signature : ctx.Ordinary s.code.signature :=
    ⟨isApart_of_head (c := 'p') (by simp [code, classCode]) (by decide), fun harmless =>
      neutral_join [.given _, .part _ (className_neutral harmless), .given _] rfl⟩
  have methods : (Passage.concat (s.code.methods.map Method.passage)).IsOrdinary ctx := by
    refine Passage.isOrdinary_concat.mpr fun p hp => ?_
    obtain ⟨m, hm, rfl⟩ := List.mem_map.mp hp
    have own := s.methods_isOrdinary named m hm
    exact ⟨.inl rfl, by simpa using own.signature, own.body⟩
  have remarks : s.code.remarks.IsOrdinary ctx := by
    refine Passage.isOrdinary_ite trivial ⟨.inl rfl, Passage.isOrdinary_concat.mpr fun p hp => ?_⟩
    obtain ⟨entry, -, rfl⟩ := List.mem_map.mp hp
    trivial
  exact ⟨header, by simpa using signature,
    fields_isOrdinary named _ s.declares.ordinary _, methods, remarks⟩

end Assembly

end Context

end GraphScript
