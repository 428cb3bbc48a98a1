import GraphScript.Proofs.Plan
import GraphScript.Script.Class

namespace GraphScript

/-- The namespaces that static calls can need. -/
def Config.callNamespaces (config : Config) : List String :=
  config.runtimeNamespace :: Service.all.flatMap Service.namespaces

/-- Whether an effect is one of a single statement or expression. Only static calls need a
namespace. -/
def Effect.isLeaf (config : Config) : Effect → Bool
  | write (.line _) => true
  | write (.comment _) => true
  | write .suspend => true
  | write _ => false
  | visit _ => false
  | fallback _ reason => !reason.endsBranch
  | record _ => false
  | needNamespace name => !config.usesContext && config.callNamespaces.contains name
  | _ => true

/-- A lowering that is put together from statements and expressions. -/
abbrev Lowered.IsPlain {α : Type} (config : Config) (x : Lowered α) : Prop :=
  x.Composed fun e => e.isLeaf config = true

/-- Whether an effect is one of an expression, which writes nothing itself. -/
def Effect.isSilent (config : Config) (e : Effect) : Bool :=
  e.isLeaf config && e.piece?.isNone

/-- A lowering that gives an expression and writes nothing. -/
abbrev Lowered.IsSilent {α : Type} (config : Config) (x : Lowered α) : Prop :=
  x.Within fun e => e.isSilent config = true

open Lowered

variable {config : Config}

theorem Lowered.IsSilent.isPlain {α : Type} {x : Lowered α} (h : x.IsSilent config) :
    x.IsPlain config :=
  (h.mono fun _ he => (Bool.and_eq_true_iff.mp he).1).composed

theorem Lowered.IsSilent.pieces_eq_nil {α : Type} {x : Lowered α} (h : x.IsSilent config) :
    x.pieces = [] :=
  List.filterMap_eq_nil_iff.mpr fun e he => by
    simpa [Effect.isSilent] using (Bool.and_eq_true_iff.mp (h e he)).2

theorem perform_isSilent {e : Effect} (h : e.isSilent config = true) : (perform e).IsSilent config :=
  (within_perform e).mpr h

theorem settleNoting_within {σ : Type} {p : Effect → Prop} (noted : ∀ n, p (.note n))
    (form : Form σ σ) (rounds : Nat) (data : Params) :
    (settleNoting form rounds data).Within p := by
  induction rounds generalizing data with
  | zero => exact ((within_perform _).mpr (noted _)).bind fun _ => within_pure _
  | succ rounds ih =>
    have required : (requireWritable form data).Within p := .ite (within_pure _) (within_ofExcept _)
    refine required.bind fun _ => ?_
    cases malformed form.fields data with
    | nil => exact within_pure _
    | cons first bad =>
      exact (Within.forM fun _ _ => (within_perform _).mpr (noted _)).bind fun _ => ih _

/-- All that reading parameters does is to note what it drops. -/
theorem readParams_within {σ : Type} {p : Effect → Prop} (noted : ∀ n, p (.note n)) (form : Form σ σ)
    (raw : Params) : (readParams form raw).Within p :=
  (settleNoting_within noted form _ _).bind fun _ => within_pure _

theorem readParams_isSilent {σ : Type} (form : Form σ σ) (raw : Params) :
    (readParams form raw).IsSilent config :=
  readParams_within (fun _ => rfl) form raw

theorem fallback_isPlain {entity : String} {reason : Fallback} (h : reason.endsBranch = false) :
    (fallback entity reason).IsPlain config := by
  refine .bind (.perform (by simp [Effect.isLeaf, h])) fun _ => ?_
  split
  next => exact .perform rfl
  next => exact .pure _

/-- A decision without a comment is one about an expression. -/
theorem Effect.isSilent_fallback (entity : String) (reason : Fallback) (h : reason.comment? = none) :
    (Effect.fallback entity reason).isSilent config = true := by
  cases reason with
  | unknownCondition => rfl
  | unknownNodeCondition => rfl
  | emptyCondition => rfl
  | unhandledTrigger => rfl
  | _ => cases h

namespace Context

variable {ctx : Context}

theorem incomplete_isPlain (note comment : String) : (ctx.incomplete note comment).IsPlain ctx.config :=
  .bind (.perform rfl) fun _ => .perform rfl

theorem health_isSilent : ctx.health.IsSilent ctx.config :=
  (perform_isSilent rfl).bind fun _ => within_pure _

theorem call_isSilent (c : ServiceCall) : (ctx.call c).IsSilent ctx.config := by
  refine Within.bind ?_ fun _ => within_pure _
  unfold needService
  split
  next => exact within_pure _
  next static =>
    have need {name : String} (h : name ∈ ctx.config.callNamespaces) :
        (perform (.needNamespace name)).IsSilent ctx.config :=
      perform_isSilent (by
        simp [Effect.isSilent, Effect.isLeaf, Effect.piece?, Config.usesContext, static, h])
    have all (service : Service) : service ∈ Service.all := by cases service <;> decide
    refine (need List.mem_cons_self).bind fun _ => (within_pure _).bind fun _ => ?_
    refine (Within.forM fun name hn => need ?_).bind fun _ => within_pure _
    exact List.mem_cons_of_mem _ (List.mem_flatMap.mpr ⟨_, all _, hn⟩)

theorem callStatement_isPlain (c : ServiceCall) :
    (do statement (← ctx.call c) : Lowered Unit).IsPlain ctx.config :=
  .bind (call_isSilent c).isPlain fun _ => .perform rfl

mutual

/-- All that an operand does is to note what it cannot write. -/
theorem operand_within {p : Effect → Prop} (noted : ∀ n, p (.note n)) (type : Option FieldType)
    (value : Value) : (ctx.operand type value).Within p := by
  unfold operand
  match value with
  | .null | .bool _ => exact within_pure _
  | .map entries =>
    refine (within_ofExcept _).bind fun found => ?_
    split
    next => exact within_pure _
    next => exact wrappedOperand_within noted type _ entries
  | .int _ | .float _ | .text _ => exact within_ofExcept _
  | .list _ => exact ((within_perform _).mpr (noted _)).bind fun _ => within_pure _

theorem wrappedOperand_within {p : Effect → Prop} (noted : ∀ n, p (.note n))
    (type : Option FieldType) (whole : Value) (entries : List (Value × Value)) :
    (ctx.wrappedOperand type whole entries).Within p := by
  match entries with
  | [] =>
    unfold wrappedOperand
    exact ((within_perform _).mpr (noted _)).bind fun _ => within_pure _
  | (key, value) :: rest =>
    unfold wrappedOperand
    split
    next => exact operand_within noted type value
    next => exact wrappedOperand_within noted type whole rest

end

theorem operand_isSilent (type : Option FieldType) (value : Value) :
    (ctx.operand type value).IsSilent ctx.config :=
  operand_within (fun _ => rfl) type value

theorem lowerDivide_isPlain (target first second zero : String) :
    (lowerDivide target first second zero).IsPlain ctx.config := by
  refine .bind (.ofExcept _) fun x => ?_
  split
  next => exact .ite (.perform rfl) (.perform rfl)
  next => exact .perform rfl

theorem lowerSetVar_isPlain (p : SetVarParams) : (ctx.lowerSetVar p).IsPlain ctx.config := by
  refine .ite (incomplete_isPlain _ _) ?_
  refine .bind (operand_isSilent _ _).isPlain fun _ => .bind (operand_isSilent _ _).isPlain fun _ => ?_
  dsimp only
  split
  next => exact .perform rfl
  next =>
    exact .ite (lowerDivide_isPlain _ _ _ _)
      (.ite (.bind (.perform rfl) fun _ => .perform rfl) (.perform rfl))

theorem lowerIncrementVar_isPlain (p : IncrementVarParams) :
    (ctx.lowerIncrementVar p).IsPlain ctx.config :=
  .ite (incomplete_isPlain _ _)
    (.ite (.ite (.bind (.perform rfl) fun _ => .perform rfl) (.perform rfl)) (.perform rfl))

theorem lowerChaseTarget_isPlain (p : ChaseTargetParams) :
    (ctx.lowerChaseTarget p).IsPlain ctx.config :=
  .bind (.perform rfl) fun _ => .block none (.bind (.perform rfl) fun _ =>
    .block _ (.bind (.perform rfl) fun _ => .perform rfl))

theorem lowerMoveToward_isPlain (p : MoveTowardParams) : (ctx.lowerMoveToward p).IsPlain ctx.config :=
  .bind (.perform rfl) fun _ => .block none (.bind (.perform rfl) fun _ =>
    .bind (.perform rfl) fun _ => .block _ (.perform rfl))

theorem lowerHealth_isPlain (sign label : String) (p : HealthParams) :
    (ctx.lowerHealth sign label p).IsPlain ctx.config :=
  .bind health_isSilent.isPlain fun _ => .bind (.perform rfl) fun _ => .perform rfl

theorem lowerAttack_isPlain (p : AttackParams) : (ctx.lowerAttack p).IsPlain ctx.config :=
  .bind (.perform rfl) fun _ => .block none (.bind (.perform rfl) fun _ =>
    .block _ (.under rfl (.perform rfl)))

theorem lowerSpawnEntity_isPlain (p : SpawnEntityParams) :
    (ctx.lowerSpawnEntity p).IsPlain ctx.config :=
  .ite (incomplete_isPlain _ _) (.ite (callStatement_isPlain _) (callStatement_isPlain _))

/-- Running a module is plain where the way to run modules is. -/
theorem lowerRunModule_isPlain {inline : Inline} (p : RunModuleParams)
    (h : ∀ run, inline = some run → ∀ id, (run id).IsPlain ctx.config) :
    (ctx.lowerRunModule inline p).IsPlain ctx.config := by
  refine .bind (.perform rfl) fun _ => .ite (.perform rfl) ?_
  split
  next run => exact h run rfl _
  next => exact .perform rfl

theorem lowerActionKind_isPlain {inline : Inline} (params : Params) (kind : ActionKind)
    (h : ∀ run, inline = some run → ∀ id, (run id).IsPlain ctx.config) :
    (ctx.lowerActionKind inline params kind).IsPlain ctx.config := by
  have read {σ : Type} (form : Form σ σ) : (readParams form params).IsPlain ctx.config :=
    (readParams_isSilent form params).isPlain
  cases kind with
  | chaseTarget => exact .bind (read _) lowerChaseTarget_isPlain
  | moveToward => exact .bind (read _) lowerMoveToward_isPlain
  | setVar => exact .bind (read _) lowerSetVar_isPlain
  | incrementVar => exact .bind (read _) lowerIncrementVar_isPlain
  | wait => exact .bind (read _) fun _ => .bind (.perform rfl) fun _ => .perform rfl
  | changeScene =>
    exact .bind (read _) fun _ =>
      .ite (incomplete_isPlain _ _) (callStatement_isPlain _)
  | takeDamage => exact .bind (read _) (lowerHealth_isPlain _ _)
  | heal => exact .bind (read _) (lowerHealth_isPlain _ _)
  | attack => exact .bind (read _) lowerAttack_isPlain
  | spawnEntity => exact .bind (read _) lowerSpawnEntity_isPlain
  | playAnimation =>
    exact .bind (read _) fun _ => .ite (incomplete_isPlain _ _) (.perform rfl)
  | pulse =>
    exact .bind (read _) fun _ =>
      .block none (.bind (.perform rfl) fun _ => .perform rfl)
  | runModule => exact .bind (read _) fun p => lowerRunModule_isPlain p h
  | fireProjectile => exact .bind (read _) fun _ => callStatement_isPlain _
  | playParticle => exact .bind (read _) fun _ => callStatement_isPlain _
  | playSound => exact .bind (read _) fun _ => callStatement_isPlain _
  | emitEventSignal => exact .bind (read _) fun _ => callStatement_isPlain _
  | clearSignal => exact .bind (read _) fun _ => callStatement_isPlain _
  | showDialogue => exact .bind (read _) fun _ => callStatement_isPlain _
  | _ => exact .bind (read _) fun _ => .perform rfl

theorem lowerAction_isPlain {inline : Inline} (action : Option String) (params : Params)
    (h : ∀ run, inline = some run → ∀ id, (run id).IsPlain ctx.config) :
    (ctx.lowerAction inline action params).IsPlain ctx.config := by
  unfold lowerAction
  split
  next => exact .pure _
  next =>
    refine .ite (.pure _) ?_
    split
    next => exact fallback_isPlain rfl
    next kind _ => exact .bind (.perform rfl) fun _ => lowerActionKind_isPlain params kind h

section Within

variable {p : Effect → Prop} (noted : ∀ n, p (.note n)) (health : p .useHealth)
include noted health

theorem lowerConditionKind_within (params : Params) (key : Value) (kind : ConditionKind) :
    (ctx.lowerConditionKind params key kind).Within p := by
  have read {σ : Type} (form : Form σ σ) : (readParams form params).Within p :=
    readParams_within noted form params
  have own : ctx.health.Within p := ((within_perform _).mpr health).bind fun _ => within_pure _
  have threshold (symbol : String) : (ctx.lowerThreshold symbol params).Within p :=
    (read _).bind fun _ => own.bind fun _ => within_pure _
  cases kind with
  | compare c =>
    exact (read _).bind fun _ =>
      .ite (((within_perform _).mpr (noted _)).bind fun _ => within_pure _) (within_ofExcept _)
  | isAlive => exact own.bind fun _ => within_pure _
  | healthBelow => exact threshold "<"
  | healthAbove => exact threshold ">"
  | roleEquals => exact within_pure _
  | input phase =>
    exact .ite ((within_ofExcept _).bind fun _ => within_pure _)
      ((read _).bind fun _ => within_pure _)

variable (guess : ∀ f : Fallback, f.comment? = none → p (.fallback ctx.entity.id f))
include guess

theorem lowerNamedCondition_within (name : String) (params : Params) (key : Value) :
    (ctx.lowerNamedCondition name params key).Within p := by
  unfold lowerNamedCondition
  split
  next =>
    have taken := (within_perform _).mpr (guess (.unknownCondition name) rfl)
    exact (taken.bind fun _ => within_pure _).bind fun _ => within_pure _
  next kind _ =>
    exact ((within_perform _).mpr (noted _)).bind fun _ =>
      lowerConditionKind_within noted health params key kind

theorem lowerConditionNode_within (node : Node) : (ctx.lowerConditionNode node).Within p := by
  have taken (f : Fallback) (silent : f.comment? = none) :
      (Lowered.fallback ctx.entity.id f).Within p := by
    unfold Lowered.fallback
    rw [silent]
    exact ((within_perform _).mpr (guess f silent)).bind fun _ => within_pure _
  refine (within_ofExcept _).bind fun found => ?_
  split
  next => exact lowerNamedCondition_within noted health guess _ _ _
  next =>
    refine (readParams_within noted _ _).bind fun p => .ite ?_ ?_
    · split
      next => exact (taken _ rfl).bind fun _ => within_pure _
      next => exact (taken _ rfl).bind fun _ => within_pure _
    · dsimp only
      split
      next => exact within_ofExcept _
      next => exact ((within_perform _).mpr (noted _)).bind fun _ => within_ofExcept _

end Within

theorem lowerNamedCondition_isSilent (name : String) (params : Params) (key : Value) :
    (ctx.lowerNamedCondition name params key).IsSilent ctx.config :=
  lowerNamedCondition_within (p := fun e => e.isSilent ctx.config = true) (fun _ => rfl) rfl
    (Effect.isSilent_fallback _) name params key

theorem lowerConditionNode_isSilent (node : Node) :
    (ctx.lowerConditionNode node).IsSilent ctx.config :=
  lowerConditionNode_within (p := fun e => e.isSilent ctx.config = true) (fun _ => rfl) rfl
    (Effect.isSilent_fallback _) node

theorem guards_isSilent (index : Nat) (event : Event) :
    (ctx.guards index event).IsSilent ctx.config := by
  refine Within.bind ?_ fun _ => Within.bind ?_ fun _ => within_pure _
  · refine .ite (within_pure _) ((Within.mapM fun c _ => ?_).bind fun _ => within_pure _)
    exact lowerNamedCondition_isSilent _ _ _
  · refine (within_ofExcept _).bind fun seconds => ?_
    split
    next => exact .ite ((call_isSilent _).bind fun _ => within_pure _) (within_pure _)
    next => exact within_pure _

theorem noteDamage_isSilent (facts : Facts) : (ctx.noteDamage facts).IsSilent ctx.config := by
  unfold noteDamage
  split
  next => exact .ite (perform_isSilent rfl) (within_pure _)
  next => exact within_pure _

end Context

theorem initialValue_isSilent (declared ident : String) (value : Value) :
    (initialValue declared ident value).IsSilent config := by
  unfold initialValue
  dsimp only
  split
  next =>
    exact .ite ((perform_isSilent rfl).bind fun _ => within_ofExcept _) (within_ofExcept _)
  next =>
    exact (within_ofExcept _).bind fun _ =>
      .ite ((perform_isSilent rfl).bind fun _ => within_ofExcept _) (within_ofExcept _)

theorem declaration_isSilent (v : Variable) (ident : String) :
    (declaration v ident).IsSilent config := by
  unfold declaration
  split
  next =>
    exact .ite ((perform_isSilent rfl).bind fun _ => (within_ofExcept _).bind fun _ => within_pure _)
      ((within_ofExcept _).bind fun _ => within_pure _)
  next => exact (initialValue_isSilent _ _ _).bind fun _ => within_pure _

theorem declareFrom_isPlain (entity : String) (taken : List String) (vars : List Variable) :
    (declareFrom entity taken vars).IsPlain config := by
  induction vars generalizing taken with
  | nil => exact .pure _
  | cons v rest ih =>
    unfold declareFrom
    exact .ite (.bind (.perform rfl) fun _ => .bind (.perform rfl) fun _ => ih _)
      (.bind (declaration_isSilent _ _).isPlain fun _ => .bind (.perform rfl) fun _ => ih _)

theorem Entity.animations_isSilent (entity : Entity) : entity.animations.IsSilent config :=
  (Within.mapM fun _ _ => (readParams_isSilent _ _).bind fun _ => within_pure _).bind
    fun _ => within_pure _

end GraphScript
