import GraphScript.Proofs.Visit

namespace GraphScript

namespace Lowered

variable {α β : Type} {p : Effect → Prop}

theorem Within.capture {x : Lowered α} (h : x.Within p) : x.capture.Within p :=
  fun e he => h e (List.mem_filter.mp he).1

theorem Within.observe {x : Lowered α} (h : x.Within p) : x.observe.Within p :=
  h

theorem filterMap_visit?_filter (effects : List Effect) :
    (effects.filter fun e => e.piece?.isNone).filterMap Effect.visit? =
      effects.filterMap Effect.visit? := by
  induction effects with
  | nil => rfl
  | cons e effects ih =>
    cases e with
    | write piece => exact ih
    | visit v => exact congrArg (v :: ·) ih
    | _ => exact ih

@[simp] theorem visits_capture (x : Lowered α) : x.capture.visits = x.visits :=
  filterMap_visit?_filter x.effects

@[simp] theorem visits_observe (x : Lowered α) : x.observe.visits = x.visits := rfl

theorem observe_result_ok {x : Lowered α} {effects : List Effect} {a : α}
    (h : x.observe.result = .ok (effects, a)) : effects = x.effects ∧ x.result = .ok a := by
  unfold observe at h
  cases hx : x.result with
  | ok b =>
    rw [hx] at h
    cases h
    exact ⟨rfl, rfl⟩
  | error fault =>
    rw [hx] at h
    cases h

theorem capture_result_ok {α : Type} {x : Lowered α} {pieces : List Piece} {a : α}
    (h : x.capture.result = .ok (pieces, a)) : pieces = x.pieces ∧ x.result = .ok a := by
  unfold capture at h
  cases hx : x.result with
  | ok b =>
    rw [hx] at h
    cases h
    exact ⟨rfl, rfl⟩
  | error fault =>
    rw [hx] at h
    cases h

end Lowered

open Lowered

/-- The bodies with another budget. -/
def Bodies.withBudget (left : Nat) (b : Bodies) : Bodies :=
  { b with budget := left }

/-- The node that does what an event does. -/
def Event.asNode (event : Event) : Node :=
  ⟨"", "Action", event.action, event.params⟩

namespace Context

variable {ctx : Context}

theorem of_fields (entity : Entity) (config : Config) :
    (Context.of entity config).entity = entity ∧ (Context.of entity config).config = config := by
  have kept (vars : List Variable) (ctx : Context) :
      (vars.foldl declare ctx).entity = ctx.entity ∧ (vars.foldl declare ctx).config = ctx.config := by
    induction vars generalizing ctx with
    | nil => exact ⟨rfl, rfl⟩
    | cons v vars ih =>
      rw [List.foldl_cons, (ih _).1, (ih _).2]
      unfold declare
      dsimp only
      split
      next => exact ⟨rfl, rfl⟩
      next => exact ⟨rfl, rfl⟩
  exact kept entity.vars ⟨entity, config, [], []⟩

/-- What is left to do for an event when its action is lowered. -/
def finishEvent (ctx : Context) (index : Nat) (event : Event) (trigger : Trigger)
    (pieces : List Piece) (b : Bodies) : Lowered Bodies :=
  let body := (Writer.new 0).run pieces
  if body.isEmpty then return b
  else do
    let (b, body) := b.settle trigger body
    let guards ← ctx.guards index event
    return b.add trigger guards body

theorem addEvent_of_trigger {index : Nat} {event : Event} {b : Bodies} {trigger : Trigger}
    (h : Trigger.ofName? (Text.trim event.trigger) = some trigger) :
    ctx.addEvent index event b =
      (ctx.lowerAction (some (ctx.runModule b.budget)) event.action event.params).capture.observe >>=
        fun r => ctx.finishEvent index event trigger r.2.1 (b.spend r.1) := by
  simp only [addEvent, h]
  rfl

theorem addEvent_of_unhandled {index : Nat} {event : Event} {b : Bodies}
    (h : Trigger.ofName? (Text.trim event.trigger) = none) :
    ctx.addEvent index event b =
      (do
        Lowered.fallback ctx.entity.id (.unhandledTrigger (Text.trim event.trigger))
        return { b with unhandled := Bodies.countUnhandled (Text.trim event.trigger) b.unhandled }) := by
  simp only [addEvent, h]

theorem finishEvent_isPlain (index : Nat) (event : Event) (trigger : Trigger) (pieces : List Piece)
    (b : Bodies) : (ctx.finishEvent index event trigger pieces b).IsPlain ctx.config :=
  .ite (.pure _) (.bind (guards_isSilent _ _).isPlain fun _ => .pure _)

/-- An event does not look at the budget once its action is lowered. -/
theorem finishEvent_withBudget (index : Nat) (event : Event) (trigger : Trigger)
    (pieces : List Piece) (b : Bodies) (left : Nat) :
    ctx.finishEvent index event trigger pieces (b.withBudget left) =
      Bodies.withBudget left <$> ctx.finishEvent index event trigger pieces b := by
  have settled (body : Writer) : (b.withBudget left).settle trigger body =
      ((b.settle trigger body).1.withBudget left, (b.settle trigger body).2) := by
    cases trigger with
    | start => rfl
    | hook h =>
      unfold Bodies.settle
      dsimp only
      split
      next => rfl
      next => rfl
  have added (b : Bodies) (guards : List String) (body : Writer) :
      (b.withBudget left).add trigger guards body = (b.add trigger guards body).withBudget left := by
    cases trigger with
    | start => rfl
    | hook h => cases h <;> rfl
  unfold finishEvent
  dsimp only
  split
  next => rfl
  next => simp only [settled, added, map_bind, map_pure]

theorem finishEvent_budget {index : Nat} {event : Event} {trigger : Trigger} {pieces : List Piece}
    {b b' : Bodies} (h : (ctx.finishEvent index event trigger pieces b).result = .ok b') :
    b'.budget = b.budget := by
  have hb : ctx.finishEvent index event trigger pieces b =
      Bodies.withBudget b.budget <$> ctx.finishEvent index event trigger pieces b :=
    finishEvent_withBudget index event trigger pieces b b.budget
  rw [hb, ← bind_pure_comp] at h
  obtain ⟨c, -, hc⟩ := bind_result_ok h
  cases hc
  rfl

/-- What is left of the budget after an event. -/
theorem addEvent_budget {index : Nat} {event : Event} {b b' : Bodies}
    (h : (ctx.addEvent index event b).result = .ok b') :
    b'.budget = b.budget - (ctx.addEvent index event b).visits.length := by
  cases ht : Trigger.ofName? (Text.trim event.trigger) with
  | none =>
    rw [addEvent_of_unhandled ht] at h ⊢
    obtain ⟨_, hf, hb⟩ := bind_result_ok h
    rw [visits_of_ok hf, (fallback_makes _ _).all _ hf]
    cases hb
    rfl
  | some trigger =>
    rw [addEvent_of_trigger ht] at h ⊢
    obtain ⟨⟨effects, pieces, _⟩, ho, hb⟩ := bind_result_ok h
    have silent : (ctx.finishEvent index event trigger pieces (b.spend effects)).Makes [] :=
      (finishEvent_isPlain index event trigger pieces _).makes
    rw [visits_of_ok ho, silent.all _ hb, List.append_nil, finishEvent_budget hb]
    obtain ⟨rfl, -⟩ := observe_result_ok ho
    rfl

/-- What is left of the budget after events. -/
theorem addEvents_budget {index : Nat} {events : List Event} {b b' : Bodies}
    (h : (ctx.addEvents index events b).result = .ok b') :
    b'.budget = b.budget - (ctx.addEvents index events b).visits.length := by
  induction events generalizing index b with
  | nil =>
    cases h
    rfl
  | cons event events ih =>
    unfold addEvents at h ⊢
    obtain ⟨c, hc, hr⟩ := bind_result_ok h
    rw [visits_of_ok hc, List.length_append, ih hr, addEvent_budget hc, Nat.sub_sub]

theorem bodies_eq :
    ctx.bodies = (ctx.lowerStart ctx.config.maxEmittedNodes).capture.observe >>= fun r =>
      ctx.addEvents 0 ctx.entity.events
        { (Bodies.new ctx.config.maxEmittedNodes).spend r.1 with start := (Writer.new 0).run r.2.1 } :=
  rfl

/-- What is left of the budget in the end. -/
theorem bodies_budget {b : Bodies} (h : ctx.bodies.result = .ok b) :
    b.budget = ctx.config.maxEmittedNodes - ctx.bodies.visits.length := by
  rw [bodies_eq] at h ⊢
  obtain ⟨⟨effects, pieces, _⟩, ho, hb⟩ := bind_result_ok h
  rw [visits_of_ok ho, List.length_append, addEvents_budget hb]
  obtain ⟨rfl, -⟩ := observe_result_ok ho
  exact Nat.sub_sub _ _ _

/-- Nothing is lowered where there is nothing to walk through. -/
theorem bodies_of_not_hasLogic (h : ctx.entity.hasLogic = false) :
    ctx.bodies = Pure.pure (Bodies.new ctx.config.maxEmittedNodes) := by
  simp only [Entity.hasLogic, Bool.or_eq_false_iff, Bool.not_eq_false', List.isEmpty_iff] at h
  obtain ⟨⟨hm, he⟩, -⟩ := h
  simp only [bodies_eq, lowerStart, startModule?, hm, he, List.find?_nil]
  rfl

theorem bodies_visits_of_not_hasLogic (h : ctx.entity.hasLogic = false) :
    ctx.bodies.visits = [] := by
  rw [bodies_of_not_hasLogic h]
  rfl

/-- The class around bodies that were lowered with the given effects. -/
def finishClass (ctx : Context) (effects : List Effect) (b : Bodies) : Lowered Artifact := do
  let facts := Facts.none.after effects
  let (declarations, _) ← (declareVariables ctx.entity).capture
  ctx.noteDamage facts
  let source := (ctx.writeClass facts declarations b).render ctx.config.indent ++ "\n"
  Lowered.note "assembler" .info ("Generated " ++ ctx.className ++ " for entity " ++ ctx.entity.id)
  let animations ← ctx.entity.animations
  return ⟨ctx.entity.id, ctx.className, ctx.className ++ ".cs", source, animations⟩

theorem assemble_eq : ctx.assemble = ctx.bodies.observe >>= fun r => ctx.finishClass r.1 r.2 :=
  rfl

/-- A property of effects that holds in walks, in single statements and where a walk is refused. -/
structure Allows (ctx : Context) (p : Effect → Prop) : Prop where
  plain : ∀ {α : Type} {x : Lowered α}, x.IsPlain ctx.config → x.Within p
  refused : ∀ reason, (fallback ctx.entity.id reason).Within p
  walked : ∀ budget module start, (ctx.traverse budget [] module start).Within p

section

variable {p : Effect → Prop} (allows : ctx.Allows p)

include allows

theorem runModule_within (budget : Nat) (id : String) : (ctx.runModule budget id).Within p := by
  unfold runModule planModule
  split
  next => exact allows.refused _
  next module entry _ => exact allows.walked budget module (some entry)

theorem eventAction_within (budget : Nat) (event : Event) :
    (ctx.lowerAction (some (ctx.runModule budget)) event.action event.params).Within p := by
  have label : (ctx.lowerAction (some fun _ => Pure.pure ()) event.action event.params).Within p :=
    allows.plain (label_isPlain _ _)
  cases hc : event.asNode.calledModule? with
  | none =>
    have same : ctx.lowerAction (some (ctx.runModule budget)) event.action event.params =
        ctx.lowerAction (some fun _ => Pure.pure ()) event.action event.params := lowerAction_plain hc _ _
    rwa [same]
  | some id =>
    have calls : ctx.lowerAction (some (ctx.runModule budget)) event.action event.params =
        ctx.lowerAction (some fun _ => Pure.pure ()) event.action event.params >>= fun _ =>
          ctx.runModule budget id := lowerAction_calls hc _
    rw [calls]
    exact label.bind fun _ => runModule_within allows budget id

theorem addEvent_within (index : Nat) (event : Event) (b : Bodies) :
    (ctx.addEvent index event b).Within p := by
  cases ht : Trigger.ofName? (Text.trim event.trigger) with
  | none =>
    rw [addEvent_of_unhandled ht]
    exact (allows.refused _).bind fun _ => within_pure _
  | some trigger =>
    rw [addEvent_of_trigger ht]
    exact (eventAction_within allows b.budget event).capture.observe.bind fun _ =>
      allows.plain (finishEvent_isPlain _ _ _ _ _)

theorem addEvents_within (index : Nat) (events : List Event) (b : Bodies) :
    (ctx.addEvents index events b).Within p := by
  induction events generalizing index b with
  | nil => exact within_pure _
  | cons event events ih => exact (addEvent_within allows index event b).bind fun b => ih (index + 1) b

theorem lowerStart_within (budget : Nat) : (ctx.lowerStart budget).Within p := by
  unfold lowerStart
  split
  next => exact within_pure _
  next module _ =>
    exact (allows.plain (.perform rfl)).bind fun _ =>
      allows.walked budget module module.entryNode?

/-- What holds in all walks and statements holds while the bodies are lowered. -/
theorem bodies_within : ctx.bodies.Within p :=
  (lowerStart_within allows _).capture.observe.bind fun _ => addEvents_within allows _ _ _

end

/-- A property of single statements holds of the class around bodies. -/
theorem finishClass_within {p : Effect → Prop} (effects : List Effect) (b : Bodies)
    (plain : ∀ {α : Type} {x : Lowered α}, x.IsPlain ctx.config → x.Within p) :
    (ctx.finishClass effects b).Within p := by
  have declared : (declareVariables ctx.entity).Within p := plain (declareFrom_isPlain _ _ _)
  refine (within_bind _ _).mpr ⟨declared.capture, fun _ _ => ?_⟩
  exact plain (.bind (noteDamage_isSilent _).isPlain fun _ => .bind (.perform rfl) fun _ =>
    .bind (Entity.animations_isSilent _).isPlain fun _ => .pure _)

/-- What holds in all walks and statements holds while a class is made. -/
theorem assemble_within {p : Effect → Prop} (allows : ctx.Allows p) : ctx.assemble.Within p :=
  (bodies_within allows).observe.bind fun r => finishClass_within r.1 r.2 allows.plain

/-- A property of single effects that holds of all but records of a run and needed namespaces. -/
structure AllowsEach (ctx : Context) (p : Effect → Prop) : Prop where
  leaf : ∀ e, e.isLeaf ctx.config = true → p e
  write : ∀ piece, p (.write piece)
  visit : ∀ v, p (.visit v)
  fallback : ∀ entity reason, p (.fallback entity reason)

section

variable {p : Effect → Prop} (each : ctx.AllowsEach p)

include each

theorem AllowsEach.plain {α : Type} {x : Lowered α} (h : x.IsPlain ctx.config) : x.Within p :=
  h.within each.leaf (fun _ => each.write _) (each.write _) (each.write _)

theorem AllowsEach.refused (entity : String) (reason : Fallback) :
    (Lowered.fallback entity reason).Within p := by
  have told : (perform (.fallback entity reason)).Within p :=
    (within_perform _).mpr (each.fallback entity reason)
  refine told.bind fun _ => ?_
  split
  next => exact (within_perform _).mpr (each.write _)
  next => exact within_pure _

theorem AllowsEach.block {header : Option String} {body : Lowered Unit} (h : body.Within p) :
    (Lowered.block header body).Within p := by
  have written (piece : Piece) : (perform (.write piece)).Within p :=
    (within_perform _).mpr (each.write piece)
  exact (written _).bind fun _ => h.bind fun _ => written _

theorem lowerWalk_within (walk : Walk) : (ctx.lowerWalk walk).Within p := by
  have visit (v : Visit) : (perform (.visit v)).Within p := (within_perform _).mpr (each.visit v)
  have label (node : Node) :
      (ctx.lowerAction (some fun _ => Pure.pure ()) node.action node.params).Within p :=
    each.plain (label_isPlain _ _)
  induction walk with
  | done => exact within_pure _
  | cut reason => exact each.refused _ reason
  | stop v => exact visit v
  | pass v rest ih =>
    have noted (text : String) : (note "traversal" .debug text).Within p :=
      (within_perform _).mpr (each.leaf _ rfl)
    refine (visit v).bind fun _ => ?_
    split
    next => exact (noted _).bind fun _ => ih
    next => exact ih
  | perform v inlined rest ihi ih =>
    refine (visit v).bind fun _ => Within.bind ?_ fun _ => ih
    cases hc : v.node.calledModule? with
    | none =>
      rw [lowerAction_plain hc _ fun _ => Pure.pure ()]
      exact label v.node
    | some id =>
      rw [lowerAction_calls hc]
      exact (label v.node).bind fun _ => ihi
  | branch v yes no ihy ihn =>
    have test := each.plain (lowerConditionNode_isSilent v.node).isPlain
    refine (visit v).bind fun _ => test.bind fun _ => ?_
    exact (each.block ihy).bind fun _ => each.block ihn

theorem AllowsEach.allows : ctx.Allows p where
  plain := each.plain
  refused := each.refused _
  walked _ _ _ := lowerWalk_within each _

end

end Context

end GraphScript
