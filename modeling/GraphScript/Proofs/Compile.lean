import GraphScript.Proofs.GraphIndex
import GraphScript.Proofs.Total
import GraphScript.Script.Project

namespace GraphScript

open Lowered

namespace Context

variable {ctx : Context}

theorem lowerWalk_perform_succeeds (named : ctx.NamesSanitized) {visit : Visit} {inlined rest : Walk}
    (h : ParamsBounded visit.node.params) (hi : (ctx.lowerWalk inlined).Succeeds)
    (hr : (ctx.lowerWalk rest).Succeeds) :
    (ctx.lowerWalk (.perform visit inlined rest)).Succeeds := by
  refine (succeeds_bind _ _).mpr ⟨(succeeds_perform _).mpr rfl, fun _ _ => ?_⟩
  exact (succeeds_bind _ _).mpr ⟨lowerAction_succeeds named (fun _ => hi) _ h, fun _ _ => hr⟩

/-- A plan that starts at a node of the entity can be lowered. -/
theorem Plans.lowerWalk_succeeds (named : ctx.NamesSanitized) (bounded : ctx.entity.Bounded)
    {path : Path} {module : Module} {start : Option Node} {walk : Walk}
    (h : ctx.Plans path module start walk) (hm : module ∈ ctx.entity.modules)
    (hs : ∀ node, start = some node → node ∈ module.nodes) : (ctx.lowerWalk walk).Succeeds := by
  have follow {module : Module} {node : Node} {ports : Ports} :
      ∀ next, module.successor? node ports = some next → next ∈ module.nodes :=
    fun _ hn => Module.successor?_mem hn
  induction h with
  | done => exact succeeds_pure ()
  | cut => exact succeeds_fallback _ _
  | stop => exact (succeeds_perform _).mpr rfl
  | pass _ _ _ ih => simp [lowerWalk, Effect.isShowable, ih hm follow]
  | @branch _ module node _ _ _ _ _ _ yes no =>
    have expression : (ctx.lowerConditionNode node).Succeeds :=
      lowerConditionNode_succeeds (bounded.nodes module hm node (hs node rfl))
    simp [lowerWalk, Effect.isShowable, expression, yes hm follow, no hm follow]
  | @act _ module node _ _ _ _ _ ih =>
    exact lowerWalk_perform_succeeds named (bounded.nodes module hm node (hs node rfl))
      (succeeds_pure ()) (ih hm follow)
  | @refuse _ module node _ _ _ _ _ _ _ _ ih =>
    exact lowerWalk_perform_succeeds named (bounded.nodes module hm node (hs node rfl))
      (succeeds_fallback _ _) (ih hm follow)
  | @call _ module node _ called entry _ _ _ _ _ starts _ _ inlined ih =>
    obtain ⟨found, -, he⟩ := moduleStart_eq_ok_iff.mp starts
    have inner := inlined (List.mem_of_find?_eq_some found) fun n hn => by
      cases hn
      exact Module.entryNode?_mem he
    exact lowerWalk_perform_succeeds named (bounded.nodes module hm node (hs node rfl))
      inner (ih hm follow)

theorem runModule_succeeds (named : ctx.NamesSanitized) (bounded : ctx.entity.Bounded) (budget : Nat)
    (id : String) : (ctx.runModule budget id).Succeeds := by
  unfold runModule planModule
  split
  next => exact succeeds_fallback _ _
  next module entry starts =>
    obtain ⟨found, -, he⟩ := moduleStart_eq_ok_iff.mp starts
    refine (planFrom_plans rfl).lowerWalk_succeeds named bounded (List.mem_of_find?_eq_some found) ?_
    intro node hn
    cases hn
    exact Module.entryNode?_mem he

theorem lowerStart_succeeds (named : ctx.NamesSanitized) (bounded : ctx.entity.Bounded)
    (budget : Nat) : (ctx.lowerStart budget).Succeeds := by
  unfold lowerStart
  split
  next => exact succeeds_pure ()
  next module found =>
    refine (succeeds_bind _ _).mpr ⟨succeeds_comment _, fun _ _ => ?_⟩
    exact (planFrom_plans rfl).lowerWalk_succeeds named bounded (List.mem_of_find?_eq_some found)
      fun _ he => Module.entryNode?_mem he

theorem addEvent_succeeds (named : ctx.NamesSanitized) (bounded : ctx.entity.Bounded) (index : Nat)
    {event : Event} (he : event ∈ ctx.entity.events) (b : Bodies) :
    (ctx.addEvent index event b).Succeeds := by
  cases ht : Trigger.ofName? (Text.trim event.trigger) with
  | none =>
    rw [addEvent_of_unhandled ht]
    simp
  | some trigger =>
    rw [addEvent_of_trigger ht]
    have action := lowerAction_succeeds named (runModule_succeeds named bounded b.budget)
      event.action (bounded.params event he)
    refine (succeeds_bind _ _).mpr ⟨action.capture.observe, fun r _ => ?_⟩
    have guards : (ctx.guards index event).Succeeds :=
      guards_succeeds index (bounded.conditions event he) (bounded.triggerParams event he)
    simp [finishEvent, guards]

theorem addEvents_succeeds (named : ctx.NamesSanitized) (bounded : ctx.entity.Bounded) (index : Nat)
    {events : List Event} (he : ∀ e ∈ events, e ∈ ctx.entity.events) (b : Bodies) :
    (ctx.addEvents index events b).Succeeds := by
  induction events generalizing index b with
  | nil => exact succeeds_pure b
  | cons event events ih =>
    obtain ⟨first, others⟩ := List.forall_mem_cons.mp he
    exact (succeeds_bind _ _).mpr
      ⟨addEvent_succeeds named bounded index first b, fun b _ => ih (index + 1) others b⟩

theorem bodies_succeeds (named : ctx.NamesSanitized) (bounded : ctx.entity.Bounded) :
    ctx.bodies.Succeeds := by
  rw [bodies_eq]
  refine (succeeds_bind _ _).mpr
    ⟨(lowerStart_succeeds named bounded _).capture.observe, fun r _ => ?_⟩
  exact addEvents_succeeds named bounded 0 (fun _ he => he) _

theorem finishClass_succeeds (bounded : ctx.entity.Bounded) (effects : List Effect) (b : Bodies) :
    (ctx.finishClass effects b).Succeeds := by
  have declared : (declareVariables ctx.entity).capture.Succeeds :=
    (declareFrom_succeeds ctx.entity.id [] bounded.vars).capture
  simp [finishClass, declared, noteDamage_succeeds, Entity.animations_succeeds bounded]

theorem assemble_succeeds (named : ctx.NamesSanitized) (bounded : ctx.entity.Bounded) :
    ctx.assemble.Succeeds := by
  rw [assemble_eq]
  exact (succeeds_bind _ _).mpr
    ⟨(bodies_succeeds named bounded).observe, fun r _ => finishClass_succeeds bounded r.1 r.2⟩

end Context

/-- An entity without too large integers is assembled. -/
theorem assemble_succeeds (config : Config) {entity : Entity} (bounded : entity.Bounded) :
    (assemble config entity).Succeeds := by
  have own : (Context.of entity config).entity.Bounded := by
    rwa [(Context.of_fields entity config).1]
  have whole := Context.assemble_succeeds (Context.of_namesSanitized entity config) own
  simp [assemble, whole]

/-- The names that an artifact has. -/
theorem assemble_names {config : Config} {entity : Entity} {a : Artifact}
    (h : (assemble config entity).result = .ok (some a)) :
    entity.hasLogic = true ∧ a.entityId = entity.id ∧
      a.className = CSharp.className config.classPrefix entity.id ∧
      a.fileName = a.className ++ ".cs" := by
  unfold assemble at h
  split at h
  next logic =>
    obtain ⟨_, ha, h⟩ := bind_result_ok h
    cases h
    rw [Context.assemble_eq] at ha
    -- the bodies, the declarations and two notes come before the artifact
    iterate 5 obtain ⟨_, -, ha⟩ := bind_result_ok ha
    cases ha
    have ⟨he, hc⟩ := Context.of_fields entity config
    refine ⟨logic, ?_, ?_, rfl⟩
    · rw [he]
    · rw [Context.className, he, hc]
  next =>
    obtain ⟨_, -, h⟩ := bind_result_ok h
    cases h

theorem assemble_none {config : Config} {entity : Entity}
    (h : (assemble config entity).result = .ok none) :
    entity.hasLogic = false ∧ (assemble config entity).records = [] := by
  unfold assemble at h ⊢
  split at h
  next =>
    obtain ⟨_, -, h⟩ := bind_result_ok h
    cases h
  next idle =>
    rw [if_neg idle]
    exact ⟨Bool.eq_false_iff.mpr idle, rfl⟩

theorem assemble_entityId {config : Config} {entity : Entity} {made : Option Artifact}
    (h : (assemble config entity).result = .ok made) :
    made.toList.map Artifact.entityId = ([entity].filter Entity.hasLogic).map Entity.id := by
  cases made with
  | none => simp [(assemble_none h).1]
  | some a =>
    obtain ⟨logic, own, -⟩ := assemble_names h
    simp [logic, own]

@[simp] theorem reportCollision_succeeds (earlier : String) (a : Artifact) :
    (reportCollision earlier a).Succeeds := by
  simp [reportCollision, Effect.isShowable]

theorem compileEntities_succeeds (config : Config) {entities : List Entity}
    (bounded : ∀ e ∈ entities, e.Bounded) (earlier : List Artifact) :
    (compileEntities config earlier entities).Succeeds := by
  induction entities generalizing earlier with
  | nil => exact succeeds_pure _
  | cons entity rest ih =>
    obtain ⟨first, others⟩ := List.forall_mem_cons.mp bounded
    refine (succeeds_bind _ _).mpr ⟨assemble_succeeds config first, fun made _ => ?_⟩
    cases made with
    | none => exact ih others earlier
    | some a => cases hc : owner? earlier a.className <;> simp [hc, Effect.isShowable, ih others]

/-- Compiling succeeds if every integer fits a binary number. -/
theorem compileProject_succeeds_of_fits (config : Config) (wanted : Option (List String))
    {project : Project} (fits : ∀ n ∈ project.integers, (Binary64.ofInt? n).isSome) :
    (compileProject config wanted project).Succeeds := by
  have each : ∀ e ∈ project.entities.filter (isWanted wanted), e.Bounded := fun e he =>
    Entity.bounded_of_integers fun n hn =>
      fits n (List.mem_flatMap.mpr ⟨e, (List.mem_filter.mp he).1, hn⟩)
  refine (succeeds_bind _ _).mpr ⟨compileEntities_succeeds config each [], fun _ _ => ?_⟩
  refine (succeeds_bind _ _).mpr ⟨succeeds_forM fun _ _ => succeeds_note _ _ _, fun _ _ => ?_⟩
  exact (succeeds_bind _ _).mpr ⟨succeeds_note _ _ _, fun _ _ => succeeds_pure _⟩

end GraphScript
