import GraphScript.Proofs.Callee

namespace GraphScript

open Lowered CSharp

/-- The words with which actions remark on what they do. -/
def remarkWords : List String :=
  ["ChaseTarget:", "MoveToward:", "SetVar:", "IncrementVar:", "ChangeScene:", "TakeDamage:", "Heal:",
   "Attack:", "SpawnEntity:", "PlayAnimation:", "StartParticleEmitter:", "StopParticleEmitter:",
   "RunModule:"]

def actionRemarks : List String :=
  remarkWords.map (· ++ " ")

/-- The line that plays an animation. -/
def playText (animation : String) : String :=
  "if (_animator != null) _animator.Play(" ++ quote animation ++ ")" ++ ";"

/-- The lines of methods, by what is called in them: neither a service nor the animator, one of the
animations, or one service as a static method, in a statement or as a gate. -/
inductive Utters (ctx : Context) (animations : List String) : String → Prop
  | plain {text : String} : Shows Sign.isPlain text → Utters ctx animations text
  | plays {animation : String} : animation ∈ animations → Utters ctx animations (playText animation)
  | serves (c : ServiceCall) : ctx.config.serviceMode = .static →
      (∀ argument ∈ c.arguments, Sound Sign.isPlain argument) →
      Utters ctx animations (c.render .static ++ ";")
  | gate (c : ServiceCall) : ctx.config.serviceMode = .static →
      (∀ argument ∈ c.arguments, Sound Sign.isPlain argument) →
      Utters ctx animations ("if (" ++ c.render .static ++ ")")

theorem Utters.of_test {ctx : Context} {animations : List String} {text : String}
    (h : Shows Sign.isTest text) : Utters ctx animations text :=
  .plain (h.mono Sign.isPlain_of_isTest)

/-- An effect of an action that is no decision, if it may play the given animations. -/
def Effect.OfAction (ctx : Context) (animations : List String) : Effect → Prop
  | write (.line text) => Utters ctx animations text
  | write (.comment text) => Begins actionRemarks text
  | write (.openBlock (some header)) => Shows Sign.isTest header
  | fallback _ f => f.comment? = none
  | record _ => False
  | _ => True

namespace Context

variable {ctx : Context} {animations : List String}

/-- A statement from a template. -/
theorem line_ofAction (first : Bit Sign.isPlain) (rest : List (Bit Sign.isPlain))
    (h : Bit.fits (first :: rest) = true) :
    (line ((rest.map Bit.text).foldl (· ++ ·) first.text)).Within (Effect.OfAction ctx animations) :=
  (within_perform _).mpr (.plain (shows_join first rest h))

theorem remark_ofAction (start : String) (h : Begins actionRemarks start) (rest : List String) :
    (comment (rest.foldl (· ++ ·) start)).Within (Effect.OfAction ctx animations) :=
  (within_perform _).mpr (begins_foldl h rest)

theorem aside_ofAction {e : Effect} (hp : e.piece? = none) (hr : e.record? = none) :
    (perform e).Within (Effect.OfAction ctx animations) := by
  refine (within_perform e).mpr ?_
  cases e with
  | write => cases hp
  | fallback => cases hr
  | record => cases hr
  | _ => trivial

theorem incomplete_ofAction (note : String) {comment : String} (h : Begins actionRemarks comment) :
    (ctx.incomplete note comment).Within (Effect.OfAction ctx animations) :=
  (aside_ofAction rfl rfl).bind fun _ => (within_perform _).mpr h

theorem block_ofAction {header : Option String} {body : Lowered Unit}
    (hh : ∀ text ∈ header, Shows Sign.isTest text) (h : body.Within (Effect.OfAction ctx animations)) :
    (block header body).Within (Effect.OfAction ctx animations) := by
  have opens : Effect.OfAction ctx animations (.write (.openBlock header)) := by
    cases header with
    | none => trivial
    | some text => exact hh text rfl
  exact ((within_perform _).mpr opens).bind fun _ => h.bind fun _ => (within_perform _).mpr trivial

theorem callStatement_ofAction {c : ServiceCall}
    (h : ∀ argument ∈ c.arguments, Sound Sign.isPlain argument) :
    (do statement (← ctx.call c) : Lowered Unit).Within (Effect.OfAction ctx animations) := by
  intro e he
  rw [callStatement_effects] at he
  rcases List.mem_append.mp he with needed | written
  · obtain ⟨name, -, rfl⟩ := List.mem_map.mp needed
    trivial
  · cases List.mem_singleton.mp written
    cases mode : ctx.config.serviceMode with
    | context =>
      have called : Shows Sign.isPlain (c.renderContext ++ ";") :=
        shows_join (.part _ (ServiceCall.sound_renderContext h)) [.given _] rfl
      exact .plain called
    | static => exact .serves c mode h

theorem sound_positionVector (x y : Binary64) : Sound Sign.isPlain (ctx.positionVector x y) :=
  sound_join (.given _) [.part _ (sound_floatLiteral _), .given _, .part _ (sound_floatLiteral _),
    .given _] rfl

theorem lowerMove_ofAction (p : MoveParams) :
    (ctx.lowerMove p).Within (Effect.OfAction ctx animations) := by
  have direction : Sound Sign.isPlain ("new Vector3(" ++ floatLiteral p.direction.x ++ ", " ++
      floatLiteral p.direction.y.neg ++ ", 0)") :=
    sound_join (.given _) [.part _ (sound_floatLiteral _), .given _, .part _ (sound_floatLiteral _),
      .given _] rfl
  exact line_ofAction (.given _) [.part _ direction, .given _, .part _ (sound_floatLiteral _),
    .given _, .given _] rfl

theorem lowerMoveToward_ofAction (p : MoveTowardParams) :
    (ctx.lowerMoveToward p).Within (Effect.OfAction ctx animations) := by
  have test : Shows Sign.isTest ("if (Vector3.Distance(_transform.position, targetPos) > " ++
      floatLiteral ctx.config.arriveEpsilon ++ ")") :=
    shows_join (.given _) [.part _ (sound_floatLiteral _), .given _] rfl
  refine (remark_ofAction "MoveToward: (" (by decide) [_, _, _, _]).bind fun _ => ?_
  refine block_ofAction (by simp) ?_
  refine (line_ofAction (.given _) [.part _ (sound_positionVector _ _), .given _] rfl).bind
    fun _ => ?_
  refine (line_ofAction (.given _) [.given _] rfl).bind fun _ =>
    block_ofAction (by simpa using test) ?_
  exact line_ofAction (.given _) [.part _ (sound_floatLiteral _), .given _, .given _] rfl

theorem lowerDivide_ofAction {target first second zero : String} (ht : IsName target)
    (hf : Sound Sign.isPlain first) (hs : Sound Sign.isPlain second) (hz : Sound Sign.isPlain zero) :
    (lowerDivide target first second zero).Within (Effect.OfAction ctx animations) := by
  have divided : (statement (target ++ " = " ++ second ++ " != 0 ? " ++ first ++ " / " ++ second ++
      " : " ++ zero)).Within (Effect.OfAction ctx animations) :=
    line_ofAction (.word _ ht.inert) [.given _, .part _ hs, .given _, .part _ hf, .given _,
      .part _ hs, .given _, .part _ hz, .given _] rfl
  refine (within_ofExcept _).bind fun value => ?_
  split
  next =>
    exact .ite (line_ofAction (.word _ ht.inert) [.given _, .part _ hz, .given _] rfl)
      divided
  next => exact divided

theorem lowerSetVar_ofAction (named : ctx.Named) (p : SetVarParams) :
    (ctx.lowerSetVar p).Within (Effect.OfAction ctx animations) := by
  have operand (type : Option FieldType) (value : Value) :
      (ctx.operand type value).Within (Effect.OfAction ctx animations) :=
    operand_within (fun _ => trivial) type value
  have target := isName_identifier named.names p.name
  refine .ite (incomplete_ofAction _ (by decide)) ?_
  refine (within_bind _ _).mpr ⟨operand _ _, fun first hf => ?_⟩
  refine (within_bind _ _).mpr ⟨operand _ _, fun second hs => ?_⟩
  have sound : Sound Sign.isPlain first := (operand_isOperand _ _ hf).sound named.names
  have sound' : Sound Sign.isPlain second := (operand_isOperand _ _ hs).sound named.names
  have assigned : (statement (ctx.identifier p.name ++ " = " ++ first)).Within
      (Effect.OfAction ctx animations) :=
    line_ofAction (.word _ target.inert) [.given _, .part _ sound, .given _] rfl
  dsimp only
  split
  next symbol hs =>
    unfold arithmetic? at hs
    split at hs <;> cases hs <;>
      exact line_ofAction (.word _ target.inert) [.given _, .part _ sound, .given _, .given _,
        .given _, .part _ sound', .given _] rfl
  next =>
    refine .ite (lowerDivide_ofAction target sound sound' (Literal.zero _).sound) ?_
    exact .ite ((aside_ofAction rfl rfl).bind fun _ => assigned) assigned

theorem lowerIncrementVar_ofAction (named : ctx.Named) (p : IncrementVarParams) :
    (ctx.lowerIncrementVar p).Within (Effect.OfAction ctx animations) := by
  have target := (isName_identifier named.names p.name).inert
  refine .ite (incomplete_ofAction _ (by decide)) (.ite (.ite ?_ ?_) ?_)
  · exact (aside_ofAction rfl rfl).bind fun _ =>
      line_ofAction (.word _ target) [.given _, .given _, .given _, .given _] rfl
  · exact line_ofAction (.word _ target) [.given _, .given _] rfl
  · exact line_ofAction (.word _ target) [.given _, .part _ (sound_numberLiteral _ _), .given _] rfl

theorem lowerHealth_ofAction (named : ctx.Named) {sign : String} (hs : Inert sign) {label : String}
    (h : Begins actionRemarks (label ++ ": ")) (p : HealthParams) :
    (ctx.lowerHealth sign label p).Within (Effect.OfAction ctx animations) := by
  have used : ctx.health.Within (Effect.OfAction ctx animations) :=
    (aside_ofAction rfl rfl).bind fun _ => within_pure _
  refine (within_bind _ _).mpr ⟨used, fun field hf => ?_⟩
  cases hf
  refine (remark_ofAction _ h [_]).bind fun _ => ?_
  exact line_ofAction (.word _ named.health.inert) [.given _, .word _ hs, .given _,
    .part _ (sound_numberLiteral _ _), .given _] rfl

theorem lowerSpawnEntity_ofAction (p : SpawnEntityParams) :
    (ctx.lowerSpawnEntity p).Within (Effect.OfAction ctx animations) := by
  have position : Sound Sign.isPlain (if p.positionMode = "absolute" then ctx.positionVector p.x p.y
      else "_transform.position + " ++ ctx.positionVector p.offsetX p.offsetY) := by
    split
    next => exact sound_positionVector _ _
    next => exact sound_join (.given _) [.part _ (sound_positionVector _ _)] rfl
  refine .ite (incomplete_ofAction _ (by decide)) (.ite ?_ ?_)
  · exact callStatement_ofAction (by simpa [ServiceCall.arguments] using position)
  · exact callStatement_ofAction (by simpa [ServiceCall.arguments, sound_quote] using position)

/-- The effects of a known action, with what a module does left out. -/
theorem lowerActionKind_ofAction (named : ctx.Named) (params : Params) (kind : ActionKind)
    (plays : kind = .playAnimation →
      (PlayAnimationParams.form.coerce params).2.animationName ≠ "" →
        (PlayAnimationParams.form.coerce params).2.animationName ∈ animations) :
    (ctx.lowerActionKind (some fun _ => Pure.pure ()) params kind).Within
      (Effect.OfAction ctx animations) := by
  have read {σ : Type} (form : Form σ σ) {f : σ → Lowered Unit}
      (h : ∀ p, (f p).Within (Effect.OfAction ctx animations)) :
      (readParams form params >>= f).Within (Effect.OfAction ctx animations) :=
    (readParams_within (fun _ => trivial) form params).bind h
  have own : Sound Sign.isPlain "_transform.position" := sound_given rfl
  cases kind with
  | log =>
    exact read _ fun _ => line_ofAction (.given _) [.part _ (sound_quote _), .given _, .given _] rfl
  | move => exact read _ lowerMove_ofAction
  | rotate =>
    exact read _ fun _ =>
      line_ofAction (.given _) [.part _ (sound_floatLiteral _), .given _, .given _] rfl
  | chaseTarget =>
    have test : Shows Sign.isTest "if (target != null)" := rfl
    refine read _ fun p => (remark_ofAction "ChaseTarget: " (by decide) [_]).bind fun _ => ?_
    refine block_ofAction (by simp) ?_
    refine (line_ofAction (.given _) [.part _ (sound_quote _), .given _, .given _] rfl).bind
      fun _ => block_ofAction (by simpa using test) ?_
    refine (line_ofAction (.given _) [.given _] rfl).bind fun _ => ?_
    exact line_ofAction (.given _) [.part _ (sound_floatLiteral _), .given _, .given _] rfl
  | moveToward => exact read _ lowerMoveToward_ofAction
  | setVar => exact read _ (lowerSetVar_ofAction named)
  | incrementVar => exact read _ (lowerIncrementVar_ofAction named)
  | wait =>
    exact read _ fun _ =>
      (line_ofAction (.given _) [.part _ (sound_floatLiteral _), .given _, .given _] rfl).bind
        fun _ => (within_perform _).mpr trivial
  | enable =>
    exact read _ fun p =>
      line_ofAction (.given _) [.part _ (Literal.bool p.enabled).sound, .given _, .given _] rfl
  | changeScene =>
    exact read _ fun _ => .ite (incomplete_ofAction _ (by decide))
      (callStatement_ofAction (by simp [ServiceCall.arguments, sound_quote]))
  | destroy => exact read _ fun _ => line_ofAction (.given _) [.given _] rfl
  | takeDamage =>
    exact read _ (lowerHealth_ofAction named (by decide) (by decide))
  | heal => exact read _ (lowerHealth_ofAction named (by decide) (by decide))
  | attack =>
    have each : Shows Sign.isTest "foreach (var hit in hits)" := rfl
    refine read _ fun p => (remark_ofAction "Attack: range=" (by decide) [_, _, _]).bind fun _ => ?_
    refine block_ofAction (by simp) ?_
    refine (line_ofAction (.given _) [.part _ (sound_floatLiteral _), .given _, .given _] rfl).bind
      fun _ => block_ofAction (by simpa using each) ?_
    refine (line_ofAction (.given _) [] rfl).bind fun _ => ?_
    refine ((within_perform _).mpr trivial).bind fun _ => ?_
    exact (line_ofAction (.given _) [.part _ (sound_floatLiteral _), .given _, .given _] rfl).bind
      fun _ => (within_perform _).mpr trivial
  | fireProjectile =>
    exact read _ fun _ => callStatement_ofAction (by
      simp [ServiceCall.arguments, sound_quote, sound_floatLiteral, own, lengthLiteral])
  | spawnEntity => exact read _ lowerSpawnEntity_ofAction
  | playAnimation =>
    refine (within_bind _ _).mpr ⟨readParams_within (fun _ => trivial) _ _, fun p hp => ?_⟩
    unfold lowerPlayAnimation
    split
    next => exact incomplete_ofAction _ (by decide)
    next named =>
      rw [readParams_result hp] at named ⊢
      exact (within_perform _).mpr (.plays (plays rfl named))
  | pulse =>
    refine read _ fun _ => block_ofAction (by simp) ?_
    refine (line_ofAction (.given _) [.part _ (sound_floatLiteral _), .given _,
      .part _ (sound_floatLiteral _), .given _, .part _ (sound_floatLiteral _), .given _, .given _]
      rfl).bind fun _ => ?_
    exact line_ofAction (.given _) [.given _] rfl
  | playParticle =>
    exact read _ fun _ => callStatement_ofAction (by
      simp [ServiceCall.arguments, sound_quote, sound_floatLiteral, own])
  | startParticleEmitter =>
    exact read _ fun _ => remark_ofAction "StartParticleEmitter: " (by decide) [_, _, _, _]
  | stopParticleEmitter =>
    exact read _ fun _ => remark_ofAction "StopParticleEmitter: " (by decide) [_, _]
  | playSound =>
    exact read _ fun _ => callStatement_ofAction (by simp [ServiceCall.arguments, sound_quote])
  | emitEventSignal =>
    exact read _ fun _ => callStatement_ofAction (by simp [ServiceCall.arguments, sound_quote])
  | clearSignal =>
    exact read _ fun _ => callStatement_ofAction (by simp [ServiceCall.arguments, sound_quote])
  | showDialogue =>
    exact read _ fun _ => callStatement_ofAction (by simp [ServiceCall.arguments, sound_quote])
  | runModule =>
    exact read _ fun _ => (remark_ofAction "RunModule: " (by decide) [_]).bind fun _ =>
      .ite (aside_ofAction rfl rfl) (within_pure _)

end Context

end GraphScript
