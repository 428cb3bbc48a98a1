import GraphScript.Proofs.Placement
import GraphScript.Proofs.Setting

namespace GraphScript

/-- Whether an effect tells that a branch ended at the limit of depth. -/
def Effect.isTooDeep : Effect → Bool
  | fallback _ (.depthLimit _ _) => true
  | _ => false

theorem Effect.isTooDeep_of_piece {e : Effect} (h : e.piece?.isNone = false) :
    e.isTooDeep = false := by
  cases e with
  | write => rfl
  | _ => cases h

namespace Lowered

variable {α β γ δ : Type}

/-- No branch of a lowering ends at the limit of depth. -/
abbrev IsShallow (x : Lowered α) : Prop :=
  x.Within fun e => e.isTooDeep = false

theorem IsShallow.of_capture {x : Lowered α} (h : x.capture.IsShallow) : x.IsShallow := by
  intro e he
  cases hp : e.piece?.isNone with
  | true => exact h e (List.mem_filter.mpr ⟨he, hp⟩)
  | false => exact Effect.isTooDeep_of_piece hp

/-- Two runs that go on from given data. Unless the first comes to the limit of depth the second does
the same, and where it ends they have gone on from the same data. -/
structure Follows (x : Lowered α) (given : β) (y : Lowered α) (given' : β) : Prop where
  lowered : x.IsShallow → y = x
  same : x.IsShallow → ∀ a, x.result = .ok a → given' = given

namespace Follows

variable {x y : Lowered α} {given given' : β}

theorem refl (x : Lowered α) (given : β) : Follows x given x given :=
  ⟨fun _ => rfl, fun _ _ _ => rfl⟩

theorem map (h : Follows x given y given') (f : β → γ) : Follows x (f given) y (f given') :=
  ⟨h.lowered, fun shallow a ha => congrArg f (h.same shallow a ha)⟩

theorem bind {f g : α → Lowered δ} {further further' : γ} (h : Follows x given y given')
    (h' : ∀ a, given' = given → Follows (f a) further (g a) further') :
    Follows (x >>= f) (given, further) (y >>= g) (given', further') := by
  refine ⟨fun shallow => ?_, fun shallow b hb => ?_⟩
  · obtain ⟨first, rest⟩ := (within_bind x f).mp shallow
    rw [h.lowered first]
    refine bind_congr_ok fun a ha => ?_
    exact (h' a (h.same first a ha)).lowered (rest a ha)
  · obtain ⟨first, rest⟩ := (within_bind x f).mp shallow
    obtain ⟨a, ha, hb⟩ := bind_result_ok hb
    have begun := h.same first a ha
    have ended := (h' a begun).same (rest a ha) b hb
    rw [begun, ended]

/-- What goes before does not depend on the data. -/
theorem after {f g : α → Lowered δ} (x : Lowered α)
    (h : ∀ a, Follows (f a) given (g a) given') :
    Follows (x >>= f) given (x >>= g) given' :=
  ((refl x ()).bind fun a _ => h a).map Prod.snd

theorem block {x y : Lowered Unit} (header : Option String) (h : Follows x given y given') :
    Follows (block header x) given (block header y) given' := by
  have closed := h.bind fun _ _ => refl (perform (.write .close)) ()
  exact after (perform (.write (.openBlock header))) fun _ => closed.map Prod.fst

theorem observe (h : Follows x given y given') : Follows x.observe given y.observe given' := by
  refine ⟨fun shallow => ?_, fun shallow a ha => ?_⟩
  · rw [h.lowered shallow]
  · exact h.same shallow a.2 (observe_result_ok ha).2

theorem capture (h : Follows x given y given') : Follows x.capture given y.capture given' := by
  refine ⟨fun shallow => ?_, fun shallow a ha => ?_⟩
  · rw [h.lowered shallow.of_capture]
  · exact h.same shallow.of_capture a.2 (capture_result_ok ha).2

end Follows

end Lowered

open Lowered

namespace Context

variable {ctx : Context}

/-- The context under another limit of depth. -/
def deepened (ctx : Context) (depth : Nat) : Context :=
  ctx.limited depth ctx.config.maxEmittedNodes

theorem of_deepened (depth : Nat) (entity : Entity) (config : Config) :
    Context.of entity { config with maxTraversalDepth := depth } =
      (Context.of entity config).deepened depth := by
  have own := (of_fields entity config).2
  calc Context.of entity { config with maxTraversalDepth := depth }
      = (Context.of entity config).limited depth config.maxEmittedNodes :=
        of_limited depth config.maxEmittedNodes entity config
    _ = (Context.of entity config).limited depth (Context.of entity config).config.maxEmittedNodes := by
        rw [own]
    _ = (Context.of entity config).deepened depth := rfl

/-- The code of one plan follows that of another, and the two are the same plan. -/
def Deepens (ctx : Context) (plan deeper : Walk × Nat) : Prop :=
  Follows (ctx.lowerWalk plan.1) plan (ctx.lowerWalk deeper.1) deeper

theorem Deepens.refl (plan : Walk × Nat) : ctx.Deepens plan plan :=
  Follows.refl _ _

/-- No code follows a branch that is too deep. -/
theorem deepens_of_tooDeep (limit : Nat) (id : String) (left : Nat) (deeper : Walk × Nat) :
    ctx.Deepens (.cut (.depthLimit limit id), left) deeper := by
  have deep : ¬ (ctx.lowerWalk (.cut (.depthLimit limit id))).IsShallow := by
    intro shallow
    have first := shallow (.fallback ctx.entity.id (.depthLimit limit id)) (List.mem_cons_self ..)
    cases first
  exact ⟨fun shallow => absurd shallow deep, fun shallow => absurd shallow deep⟩

/-- A node that does nothing, before a plan. -/
theorem Deepens.pass {rest rest' : Walk × Nat} (v : Visit) (h : ctx.Deepens rest rest') :
    ctx.Deepens (.pass v rest.1, rest.2) (.pass v rest'.1, rest'.2) := by
  have onward := h.map fun p => (Walk.pass v p.1, p.2)
  unfold Deepens
  simp only [lowerWalk]
  refine .after _ fun _ => ?_
  split
  next => exact .after _ fun _ => onward
  next => exact onward

/-- A condition before two plans, of which the second has what the first leaves of the budget. -/
theorem Deepens.branch {yes yes' : Walk × Nat} {no no' : Nat → Walk × Nat} (v : Visit)
    (h : ctx.Deepens yes yes') (h' : ∀ left, ctx.Deepens (no left) (no' left)) :
    ctx.Deepens (.branch v yes.1 (no yes.2).1, (no yes.2).2)
      (.branch v yes'.1 (no' yes'.2).1, (no' yes'.2).2) := by
  unfold Deepens
  simp only [lowerWalk]
  have next (same : yes' = yes) : ctx.Deepens (no yes.2) (no' yes'.2) := by
    rw [same]
    exact h' yes.2
  refine .after _ fun _ => .after _ fun text => ?_
  have both := (h.block (some ("if (" ++ text ++ ")"))).bind fun _ same =>
    (next same).block (some "else")
  exact both.map fun p => (Walk.branch v p.1.1 p.2.1, p.2.2)

/-- An action before a plan that has what the action leaves of the budget. If it runs no module, it does
not matter what is planned for one. -/
theorem Deepens.perform {inlined inlined' : Walk × Nat} {rest rest' : Nat → Walk × Nat} (v : Visit)
    (h : ctx.Deepens inlined inlined') (idle : v.node.calledModule? = none → inlined' = inlined)
    (h' : ∀ left, ctx.Deepens (rest left) (rest' left)) :
    ctx.Deepens (.perform v inlined.1 (rest inlined.2).1, (rest inlined.2).2)
      (.perform v inlined'.1 (rest' inlined'.2).1, (rest' inlined'.2).2) := by
  have action : Follows
      (ctx.lowerAction (some fun _ => ctx.lowerWalk inlined.1) v.node.action v.node.params) inlined
      (ctx.lowerAction (some fun _ => ctx.lowerWalk inlined'.1) v.node.action v.node.params)
      inlined' := by
    cases hc : v.node.calledModule? with
    | none =>
      rw [idle hc]
      exact .refl _ _
    | some id =>
      rw [lowerAction_calls hc fun _ => ctx.lowerWalk inlined.1,
        lowerAction_calls hc fun _ => ctx.lowerWalk inlined'.1]
      exact .after _ fun _ => h
  have next (same : inlined' = inlined) : ctx.Deepens (rest inlined.2) (rest' inlined'.2) := by
    rw [same]
    exact h' inlined.2
  unfold Deepens
  simp only [lowerWalk]
  refine .after _ fun _ => ?_
  have both := action.bind fun _ same => next same
  exact both.map fun p => (Walk.perform v p.1.1 p.2.1, p.2.2)

theorem planFrom_deepens {depth room room' : Nat} (le : room ≤ room') (budget : Nat) (path : Path)
    (module : Module) (start : Option Node) :
    ctx.Deepens (ctx.planFrom room budget path module start)
      ((ctx.deepened depth).planFrom room' budget path module start) := by
  induction room generalizing room' budget path module start with
  | zero =>
    cases start with
    | none =>
      rw [planFrom, planFrom]
      exact .refl _
    | some node =>
      rw [planFrom, planFrom.eq_def]
      dsimp only
      split
      next => exact .refl _
      next => exact deepens_of_tooDeep _ _ _ _
  | succ room ih =>
    obtain ⟨room', rfl⟩ : ∃ n, room' = n + 1 := ⟨room' - 1, by omega⟩
    have below := @ih room' (by omega)
    have starts (path : Path) (id : String) :
        (ctx.deepened depth).moduleStart path id = ctx.moduleStart path id := rfl
    cases start with
    | none =>
      rw [planFrom, planFrom]
      exact .refl _
    | some node =>
      rw [planFrom.eq_def, planFrom.eq_def (ctx.deepened depth)]
      simp only [starts]
      split
      next => exact .refl _
      next =>
        cases budget with
        | zero => exact .refl _
        | succ budget =>
          let visit : Visit := ⟨module, node, path⟩
          have onward (left : Nat) (ports : Ports) :=
            below left visit.pathAfter module (module.successor? node ports)
          cases node.role with
          | stop => exact .refl _
          | entry => exact (onward budget .flow).pass visit
          | other => exact (onward budget .flow).pass visit
          | condition =>
            have both := (onward budget .yes).branch visit fun left => onward left .no
            exact both
          | action =>
            -- What runs in the place of the action is planned first.
            cases hc : node.calledModule? with
            | none =>
              have idle : ctx.Deepens (.done, budget) (.done, budget) := .refl _
              have all := idle.perform visit (fun _ => rfl) fun left => onward left .flow
              exact all
            | some id =>
              simp only
              cases hs : ctx.moduleStart (path ++ [(module.id, node.id)]) id with
              | error reason =>
                have refused : ctx.Deepens (.cut reason, budget) (.cut reason, budget) := .refl _
                have all := refused.perform visit (fun _ => rfl) fun left => onward left .flow
                exact all
              | ok found =>
                have calls (hn : node.calledModule? = none) : False := by
                  rw [hc] at hn
                  cases hn
                have run := below budget visit.pathAfter found.1 (some found.2)
                have all := run.perform visit (fun hn => (calls hn).elim) fun left => onward left .flow
                exact all

section

variable {depth : Nat} (le : ctx.config.maxTraversalDepth ≤ depth)

include le

theorem traverse_follows (budget : Nat) (module : Module) (start : Option Node) :
    Follows (ctx.traverse budget [] module start) ()
      ((ctx.deepened depth).traverse budget [] module start) () := by
  have deepens : ctx.Deepens (ctx.planFrom ctx.config.maxTraversalDepth budget [] module start)
      ((ctx.deepened depth).planFrom depth budget [] module start) :=
    planFrom_deepens le budget [] module start
  have same : (ctx.deepened depth).traverse budget [] module start =
      ctx.lowerWalk ((ctx.deepened depth).planFrom depth budget [] module start).1 :=
    lowerWalk_limited _ _ _ _
  rw [same]
  exact deepens.map fun _ => ()

theorem runModule_follows (budget : Nat) (id : String) :
    Follows (ctx.runModule budget id) () ((ctx.deepened depth).runModule budget id) () := by
  have starts : (ctx.deepened depth).moduleStart [] id = ctx.moduleStart [] id := rfl
  unfold runModule planModule
  rw [starts]
  cases ctx.moduleStart [] id with
  | error reason => exact .refl _ _
  | ok found => exact traverse_follows le budget found.1 (some found.2)

theorem eventAction_follows (budget : Nat) (event : Event) :
    Follows (ctx.lowerAction (some (ctx.runModule budget)) event.action event.params) ()
      ((ctx.deepened depth).lowerAction (some ((ctx.deepened depth).runModule budget)) event.action
        event.params) () := by
  let run := ctx.runModule budget
  let run' := (ctx.deepened depth).runModule budget
  have same : (ctx.deepened depth).lowerAction (some run') event.action event.params =
      ctx.lowerAction (some run') event.action event.params := lowerAction_limited _ _ _ _ _ _
  rw [same]
  cases hc : event.asNode.calledModule? with
  | none =>
    have plain : ctx.lowerAction (some run') event.action event.params =
        ctx.lowerAction (some run) event.action event.params := lowerAction_plain hc _ _
    rw [plain]
    exact .refl _ _
  | some id =>
    have calls (run : String → Lowered Unit) :
        ctx.lowerAction (some run) event.action event.params =
          ctx.lowerAction (some fun _ => Pure.pure ()) event.action event.params >>= fun _ => run id :=
      lowerAction_calls hc run
    rw [calls (ctx.runModule budget), calls run']
    exact .after _ fun _ => runModule_follows le budget id

theorem addEvent_follows (index : Nat) (event : Event) (b : Bodies) :
    Follows (ctx.addEvent index event b) () ((ctx.deepened depth).addEvent index event b) () := by
  cases ht : Trigger.ofName? (Text.trim event.trigger) with
  | none =>
    rw [addEvent_of_unhandled ht, addEvent_of_unhandled ht]
    exact .refl _ _
  | some trigger =>
    rw [addEvent_of_trigger ht, addEvent_of_trigger ht]
    have action := (eventAction_follows le b.budget event).capture.observe
    exact (action.bind fun _ _ => .refl _ ()).map fun _ => ()

theorem addEvents_follows (index : Nat) (events : List Event) (b : Bodies) :
    Follows (ctx.addEvents index events b) () ((ctx.deepened depth).addEvents index events b) () := by
  induction events generalizing index b with
  | nil => exact .refl _ _
  | cons event events ih =>
    have first := addEvent_follows le index event b
    exact (first.bind fun b _ => ih (index + 1) b).map fun _ => ()

theorem lowerStart_follows (budget : Nat) :
    Follows (ctx.lowerStart budget) () ((ctx.deepened depth).lowerStart budget) () := by
  have starts : (ctx.deepened depth).startModule? = ctx.startModule? := rfl
  unfold lowerStart
  rw [starts]
  cases ctx.startModule? with
  | none => exact .refl _ _
  | some module => exact .after _ fun _ => traverse_follows le budget module module.entryNode?

/-- All bodies, under a larger limit. -/
theorem bodies_follows : Follows ctx.bodies () (ctx.deepened depth).bodies () := by
  have start := (lowerStart_follows le ctx.config.maxEmittedNodes).capture.observe
  rw [bodies_eq, bodies_eq]
  exact (start.bind fun _ _ => addEvents_follows le 0 ctx.entity.events _).map fun _ => ()

end

/-- The class around bodies does not look at the limit. -/
theorem assemble_deepened {depth : Nat} (h : (ctx.deepened depth).bodies = ctx.bodies) :
    (ctx.deepened depth).assemble = ctx.assemble := by
  rw [assemble_eq, assemble_eq, h]
  rfl

end Context

theorem Effect.reason_of_isTooDeep {e : Effect} (h : e.isTooDeep = true) :
    ∃ r, e.record? = some r ∧ r.lookup "reason" = some (.text "depth_limit") := by
  cases e with
  | fallback entity decision =>
    cases decision with
    | depthLimit limit id => exact ⟨_, rfl, rfl⟩
    | _ => cases h
  | _ => cases h

/-- What is done for the bodies of an entity with logic is done for its class. -/
theorem mem_assemble_effects {config : Config} {entity : Entity} (logic : entity.hasLogic = true)
    {e : Effect} (he : e ∈ (Context.of entity config).bodies.effects) :
    e ∈ (assemble config entity).effects := by
  have inClass : e ∈ (Context.of entity config).assemble.effects := by
    rw [Context.assemble_eq, effects_bind]
    exact List.mem_append_left _ he
  rw [assemble, if_pos logic, effects_bind]
  exact List.mem_append_left _ inClass

theorem bodies_isShallow {config : Config} {entity : Entity}
    (shallow : ∀ r ∈ (assemble config entity).records,
      r.lookup "reason" ≠ some (.text "depth_limit")) :
    (Context.of entity config).bodies.IsShallow := by
  cases logic : entity.hasLogic with
  | false =>
    have own : (Context.of entity config).entity.hasLogic = false := by
      rw [(Context.of_fields entity config).1, logic]
    rw [Context.bodies_of_not_hasLogic own]
    exact within_pure _
  | true =>
    intro e he
    rw [← Bool.not_eq_true]
    intro deep
    obtain ⟨r, hr, reason⟩ := e.reason_of_isTooDeep deep
    have recorded : r ∈ (assemble config entity).records :=
      List.mem_filterMap.mpr ⟨e, mem_assemble_effects logic he, hr⟩
    exact shallow r recorded reason

/-- A limit of depth that no record tells about cannot be seen: what is generated and recorded for an
entity, and what is left of its budget, is the same under every larger limit. -/
theorem assemble_eq_of_not_tooDeep (config : Config) (entity : Entity) (depth : Nat)
    (le : config.maxTraversalDepth ≤ depth)
    (shallow : ∀ r ∈ (assemble config entity).records,
      r.lookup "reason" ≠ some (.text "depth_limit")) :
    assemble { config with maxTraversalDepth := depth } entity = assemble config entity ∧
      (Context.of entity { config with maxTraversalDepth := depth }).bodies =
        (Context.of entity config).bodies := by
  rw [Context.of_deepened]
  have ⟨he, hc⟩ := Context.of_fields entity config
  have follows : Follows (Context.of entity config).bodies ()
      ((Context.of entity config).deepened depth).bodies () :=
    Context.bodies_follows (by rw [hc]; exact le)
  have same := follows.lowered (bodies_isShallow shallow)
  refine ⟨?_, same⟩
  unfold assemble
  split
  next => rw [Context.of_deepened, Context.assemble_deepened same]
  next => rfl

/-- The walks of the entity are two nodes deep, so a limit of two is as good as any. -/
theorem assemble_eq_of_not_tooDeep_busy :
    ∃ config, Config.Draft.check { Config.Draft.default with maxTraversalDepth := 2 } = .ok config ∧
      (∀ r ∈ (assemble config busyEntity).records,
        r.lookup "reason" ≠ some (.text "depth_limit")) ∧
      assemble { config with maxTraversalDepth := 1000 } busyEntity = assemble config busyEntity := by
  obtain ⟨config, valid, le, recorded⟩ : ∃ config,
      Config.Draft.check { Config.Draft.default with maxTraversalDepth := 2 } = .ok config ∧
      config.maxTraversalDepth ≤ 1000 ∧
      ∀ r ∈ (assemble config busyEntity).records,
        (r.lookup "reason").bind Value.asText? = some "unhandled_trigger" :=
    ⟨_, rfl, by decide, by decide +kernel⟩
  have shallow : ∀ r ∈ (assemble config busyEntity).records,
      r.lookup "reason" ≠ some (.text "depth_limit") := by
    intro r hr deep
    have other := recorded r hr
    rw [deep] at other
    exact absurd (Option.some.inj other) (by decide)
  exact ⟨config, valid, shallow, (assemble_eq_of_not_tooDeep config busyEntity 1000 le shallow).1⟩

/-- Under a limit of one the walks are cut. -/
example : ∃ config,
    Config.Draft.check { Config.Draft.default with maxTraversalDepth := 1 } = .ok config ∧
      ∃ r ∈ (assemble config busyEntity).records,
        (r.lookup "reason").bind Value.asText? = some "depth_limit" :=
  ⟨_, rfl, by decide +kernel⟩

end GraphScript
