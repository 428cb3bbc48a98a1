import GraphScript.Proofs.Expression
import GraphScript.Proofs.Succeeds

namespace GraphScript

open Lowered

theorem requireWritable_succeeds {σ : Type} {form : Form σ σ} {data : Params}
    (h : ParamsBounded data) : (requireWritable form data).Succeeds := by
  have writable : form.isWritable data = true :=
    List.all_eq_true.mpr fun field _ => Field.isWritable_of_bounded h field
  rw [requireWritable, if_pos writable]
  exact succeeds_pure ()

theorem settleNoting_succeeds {σ : Type} (form : Form σ σ) (rounds : Nat) {data : Params}
    (h : ParamsBounded data) : (settleNoting form rounds data).Succeeds := by
  induction rounds generalizing data with
  | zero => exact (succeeds_bind _ _).mpr ⟨succeeds_note _ _ _, fun _ _ => succeeds_pure _⟩
  | succ rounds ih =>
    refine (succeeds_bind _ _).mpr ⟨requireWritable_succeeds h, fun _ _ => ?_⟩
    cases bad : malformed form.fields data with
    | nil => exact succeeds_pure _
    | cons first rest =>
      have dropped : ∀ d ∈ first :: rest, d.value.Bounded := fun d hd =>
        h (d.key, d.value) (mem_of_mem_malformed (bad ▸ hd))
      refine (succeeds_bind _ _).mpr ⟨succeeds_forM fun d hd => ?_, fun _ _ => ?_⟩
      · exact succeeds_noteAbout (dropped d hd) _ _ _
      · exact ih fun entry he => h entry (without_subset _ _ he)

/-- Parameters without too large integers can be read. -/
theorem readParams_succeeds {σ : Type} (form : Form σ σ) {raw : Params} (h : ParamsBounded raw) :
    (readParams form raw).Succeeds :=
  (succeeds_bind _ _).mpr ⟨settleNoting_succeeds form _ h.given, fun _ _ => succeeds_pure _⟩

/-- What is read comes from parameters without too large integers. -/
theorem readParams_bounded {σ : Type} {form : Form σ σ} {raw : Params} {p : σ}
    (h : ParamsBounded raw) (hp : (readParams form raw).result = .ok p) :
    ∃ data, ParamsBounded data ∧ p = form.build data :=
  ⟨(form.settled raw).2, h.settled, readParams_result hp⟩

namespace Context

variable {ctx : Context}

@[simp] theorem statement_succeeds (text : String) : (statement text).Succeeds :=
  succeeds_line _

@[simp] theorem incomplete_succeeds (note comment : String) : (ctx.incomplete note comment).Succeeds := by
  simp [incomplete]

@[simp] theorem health_succeeds : ctx.health.Succeeds := by
  simp [health, Effect.isShowable]

@[simp] theorem call_succeeds (c : ServiceCall) : (ctx.call c).Succeeds := by
  have needed : (ctx.needService (Pure.pure c.service)).Succeeds := by
    unfold needService
    split
    next => exact succeeds_pure _
    next =>
      have names : (c.service.namespaces.forM fun name => perform (.needNamespace name)).Succeeds :=
        succeeds_forM fun _ _ => (succeeds_perform _).mpr rfl
      simpa [Effect.isShowable] using names
  exact (succeeds_bind _ _).mpr ⟨needed, fun _ _ => succeeds_pure _⟩

theorem isReference_ok {entries : List (Value × Value)}
    (h : Value.AllBounded (Value.entryIntegers entries)) : ∃ b, isReference entries = .ok b := by
  unfold isReference
  split
  next v hv => exact exists_ok_bind (Value.written_of_bounded (Value.find?_bounded h hv)) fun _ => ⟨_, rfl⟩
  next => exact ⟨_, rfl⟩

theorem reference?_ok {entries : List (Value × Value)}
    (h : Value.AllBounded (Value.entryIntegers entries)) : ∃ name, reference? entries = .ok name := by
  refine exists_ok_bind (isReference_ok h) fun b => ?_
  dsimp only
  generalize (if b = true then referenceKeys ++ ["value", "id"] else referenceKeys) = keys
  split
  next name given =>
    obtain ⟨key, -, hk⟩ := List.exists_of_findSome?_eq_some given
    have found := (Option.filter_eq_some_iff.mp hk).1
    exact exists_ok_bind (Value.written_of_bounded (Value.find?_bounded h found)) fun _ => ⟨_, rfl⟩
  next => exact ⟨_, rfl⟩

theorem numberOperand_ok {type : Option FieldType} {value : Value} (h : value.Bounded) :
    ∃ text, numberOperand type value = .ok text := by
  unfold numberOperand
  split
  next n =>
    obtain ⟨x, fits⟩ := Option.isSome_iff_exists.mp (h n (by simp [Value.integers]))
    rw [fits]
    exact ⟨_, rfl⟩
  next => exact ⟨_, rfl⟩
  next => exact ⟨_, rfl⟩

theorem valueLiteral_ok {type : Option FieldType} {value : Value} (h : value.Bounded) :
    ∃ text, CSharp.valueLiteral type value = .ok text := by
  have quoted : ∃ text, (do return CSharp.quote (← value.written) : Except Fault String) = .ok text :=
    exists_ok_bind (Value.written_of_bounded h) fun _ => ⟨_, rfl⟩
  unfold CSharp.valueLiteral
  split
  next => exact ⟨_, rfl⟩
  next => exact ⟨_, rfl⟩
  next => exact ⟨_, rfl⟩
  next => exact quoted
  next =>
    split
    next => exact ⟨_, rfl⟩
    next =>
      refine exists_ok_bind (Value.number?_of_bounded h) fun number => ?_
      split
      next => exact ⟨_, rfl⟩
      next => exact quoted

theorem textOperand_ok (type : Option FieldType) (text : String) :
    ∃ expression, ctx.textOperand type text = .ok expression := by
  unfold textOperand
  split
  next => exact ⟨_, rfl⟩
  next => exact valueLiteral_ok fun n hn => by cases hn

mutual

/-- An operand without too large integers has an expression. -/
theorem operand_succeeds (type : Option FieldType) (value : Value) (h : value.Bounded) :
    (ctx.operand type value).Succeeds := by
  unfold operand
  match value with
  | .null | .bool _ => exact succeeds_pure _
  | .map entries =>
    have inner : Value.AllBounded (Value.entryIntegers entries) := h
    refine (succeeds_bind _ _).mpr ⟨(succeeds_ofExcept _).mpr (reference?_ok inner), fun found _ => ?_⟩
    split
    next => exact succeeds_pure _
    next => exact wrappedOperand_succeeds type _ entries h inner
  | .int _ | .float _ => exact (succeeds_ofExcept _).mpr (numberOperand_ok h)
  | .text _ => exact (succeeds_ofExcept _).mpr (textOperand_ok type _)
  | .list _ => exact (succeeds_bind _ _).mpr ⟨succeeds_noteAbout h _ _ _, fun _ _ => succeeds_pure _⟩

theorem wrappedOperand_succeeds (type : Option FieldType) (whole : Value)
    (entries : List (Value × Value)) (hw : whole.Bounded)
    (h : Value.AllBounded (Value.entryIntegers entries)) :
    (ctx.wrappedOperand type whole entries).Succeeds := by
  match entries with
  | [] =>
    unfold wrappedOperand
    exact (succeeds_bind _ _).mpr ⟨succeeds_noteAbout hw _ _ _, fun _ _ => succeeds_pure _⟩
  | (key, value) :: rest =>
    obtain ⟨pair, others⟩ := List.forall_mem_append.mp h
    unfold wrappedOperand
    split
    next => exact operand_succeeds type value (List.forall_mem_append.mp pair).2
    next => exact wrappedOperand_succeeds type whole rest hw others

end

theorem lowerDivide_succeeds {second : String} (h : CSharp.HasConstant second)
    (target first zero : String) : (lowerDivide target first second zero).Succeeds := by
  refine (succeeds_bind _ _).mpr ⟨(succeeds_ofExcept _).mpr h, fun constant _ => ?_⟩
  cases constant <;> simp

theorem lowerSetVar_succeeds (named : ctx.NamesSanitized) {p : SetVarParams}
    (first : p.operand1.Bounded) (second : p.operand2.Bounded) : (ctx.lowerSetVar p).Succeeds := by
  unfold lowerSetVar
  split
  next => exact incomplete_succeeds _ _
  next =>
    refine (succeeds_bind _ _).mpr ⟨operand_succeeds _ _ first, fun _ _ => ?_⟩
    refine (succeeds_bind _ _).mpr ⟨operand_succeeds _ _ second, fun text ht => ?_⟩
    dsimp only
    split
    next => exact statement_succeeds _
    next =>
      have constant := (operand_isOperand _ _ ht).hasConstant named
      simp [lowerDivide_succeeds constant]

theorem setVar_bounded {params : Params} (h : ParamsBounded params) {p : SetVarParams}
    (hp : (readParams SetVarParams.form params).result = .ok p) :
    p.operand1.Bounded ∧ p.operand2.Bounded := by
  obtain ⟨data, kept, rfl⟩ := readParams_bounded h hp
  exact ⟨kept.get (.plain "operand1" .null) Value.null_bounded,
    kept.get (.plain "operand2" .null) Value.null_bounded⟩

/-- A known action is lowered, whatever its parameters are, if what it runs is. -/
theorem lowerActionKind_succeeds (named : ctx.NamesSanitized) {run : String → Lowered Unit}
    (runs : ∀ id, (run id).Succeeds) {params : Params} (h : ParamsBounded params)
    (kind : ActionKind) : (ctx.lowerActionKind (some run) params kind).Succeeds := by
  have read {σ : Type} (form : Form σ σ) : (readParams form params).Succeeds :=
    readParams_succeeds form h
  cases kind with
  | setVar =>
    refine (succeeds_bind _ _).mpr ⟨read _, fun p hp => ?_⟩
    obtain ⟨first, second⟩ := setVar_bounded h hp
    exact lowerSetVar_succeeds named first second
  | runModule => simp [lowerActionKind, read, lowerRunModule, runs]
  | spawnEntity => simp [lowerActionKind, read, lowerSpawnEntity]
  | _ =>
    simp [lowerActionKind, read, lowerMove, lowerChaseTarget, lowerMoveToward, lowerIncrementVar, lowerWait,
      lowerChangeScene, lowerHealth, lowerAttack, lowerFireProjectile, lowerPlayAnimation,
      lowerPulse, lowerPlayParticle]

theorem lowerAction_succeeds (named : ctx.NamesSanitized) {run : String → Lowered Unit}
    (runs : ∀ id, (run id).Succeeds) (action : Option String) {params : Params}
    (h : ParamsBounded params) : (ctx.lowerAction (some run) action params).Succeeds := by
  unfold lowerAction
  split
  next => exact succeeds_pure _
  next name =>
    split
    next => exact succeeds_pure _
    next =>
      split
      next => exact succeeds_fallback _ _
      next kind _ =>
        refine (succeeds_bind _ _).mpr ⟨(succeeds_perform _).mpr rfl, fun _ _ => ?_⟩
        exact lowerActionKind_succeeds named runs h kind

theorem comparison_ok (c : Comparison) (name : String) {value : Value} (h : value.Bounded) :
    ∃ text, ctx.comparison c name value = .ok text :=
  exists_ok_bind (valueLiteral_ok h) fun _ => ⟨_, rfl⟩

theorem lowerComparison_succeeds (c : Comparison) {params : Params} (h : ParamsBounded params) :
    (ctx.lowerComparison c params).Succeeds := by
  refine (succeeds_bind _ _).mpr ⟨readParams_succeeds _ h, fun p hp => ?_⟩
  have value : p.value.Bounded := by
    obtain ⟨data, kept, rfl⟩ := readParams_bounded h hp
    exact kept.get (.plain "value" .null) Value.null_bounded
  simp [comparison_ok c p.name value]

theorem lowerInput_succeeds (phase : KeyPhase) {params : Params} {key : Value}
    (h : ParamsBounded params) (hk : key.Bounded) : (lowerInput phase params key).Succeeds := by
  simp [lowerInput, Value.written_of_bounded hk, readParams_succeeds _ h]

theorem lowerConditionKind_succeeds {params : Params} {key : Value} (h : ParamsBounded params)
    (hk : key.Bounded) (kind : ConditionKind) :
    (ctx.lowerConditionKind params key kind).Succeeds := by
  cases kind with
  | compare c => exact lowerComparison_succeeds c h
  | input phase => exact lowerInput_succeeds phase h hk
  | _ => simp [lowerConditionKind, lowerThreshold, readParams_succeeds _ h]

theorem lowerNamedCondition_succeeds (name : String) {params : Params} {key : Value}
    (h : ParamsBounded params) (hk : key.Bounded) :
    (ctx.lowerNamedCondition name params key).Succeeds := by
  unfold lowerNamedCondition
  split
  next => simp
  next kind _ => simp [Effect.isShowable, lowerConditionKind_succeeds h hk kind]

theorem lowerCondition_succeeds {c : Condition} (h : ParamsBounded c.params) :
    (ctx.lowerCondition c).Succeeds := by
  refine lowerNamedCondition_succeeds c.type h ?_
  cases c.key with
  | none => exact Value.null_bounded
  | some key => exact fun _ hn => by cases hn

theorem kindName?_ok {values : List Value} (h : ∀ v ∈ values, v.Bounded) :
    ∃ name, kindName? values = .ok name := by
  induction values with
  | nil => exact ⟨_, rfl⟩
  | cons value rest ih =>
    obtain ⟨first, others⟩ := List.forall_mem_cons.mp h
    refine exists_ok_bind (Value.written_of_bounded first) fun name => ?_
    split
    next => exact ⟨_, rfl⟩
    next => exact ih others

theorem givenKinds_bounded {params : Params} (h : ParamsBounded params) :
    ∀ v ∈ givenKinds params, v.Bounded := by
  intro v hv
  obtain ⟨key, -, hk⟩ := List.mem_filterMap.mp hv
  exact h.lookup (Option.filter_eq_some_iff.mp hk).1

/-- A condition node without too large integers has an expression. -/
theorem lowerConditionNode_succeeds {node : Node} (h : ParamsBounded node.params) :
    (ctx.lowerConditionNode node).Succeeds := by
  have kind := kindName?_ok (givenKinds_bounded h)
  refine (succeeds_bind _ _).mpr ⟨(succeeds_ofExcept _).mpr kind, fun found _ => ?_⟩
  split
  next name _ => exact lowerNamedCondition_succeeds name h (h.lookup_getD "key")
  next =>
    refine (succeeds_bind _ _).mpr ⟨readParams_succeeds _ h, fun p hp => ?_⟩
    have value : p.value.Bounded := by
      obtain ⟨data, kept, rfl⟩ := readParams_bounded h hp
      exact kept.get (.plain "value" .null) Value.null_bounded
    split
    next => simp
    next =>
      dsimp only
      split
      next c _ => simp [comparison_ok c p.name value]
      next => simp [comparison_ok .equal p.name value]

theorem conditionGuard_succeeds {event : Event} (h : ∀ c ∈ event.conditions, ParamsBounded c.params) :
    (ctx.conditionGuard event).Succeeds := by
  have parts : (event.conditions.mapM ctx.lowerCondition).Succeeds :=
    succeeds_mapM fun c hc => lowerCondition_succeeds (h c hc)
  simp [conditionGuard, parts]

theorem cooldownGuard_succeeds (index : Nat) {event : Event} (h : ParamsBounded event.triggerParams) :
    (ctx.cooldownGuard index event).Succeeds := by
  have cooldown := Value.number?_of_bounded (h.lookup_getD "cooldown")
  refine (succeeds_bind _ _).mpr ⟨(succeeds_ofExcept _).mpr cooldown, fun seconds _ => ?_⟩
  cases seconds <;> simp

theorem guards_succeeds (index : Nat) {event : Event} (hc : ∀ c ∈ event.conditions, ParamsBounded c.params)
    (ht : ParamsBounded event.triggerParams) : (ctx.guards index event).Succeeds := by
  simp [guards, conditionGuard_succeeds hc, cooldownGuard_succeeds index ht]

theorem noteDamage_succeeds (facts : Facts) : (ctx.noteDamage facts).Succeeds := by
  unfold noteDamage
  split
  next =>
    split
    next => exact succeeds_note _ _ _
    next => exact succeeds_pure ()
  next => exact succeeds_pure ()

end Context

theorem fitting?_ok (type : FieldType) {value : Value} (h : value.Bounded) :
    ∃ literal, CSharp.fitting? type value = .ok literal := by
  unfold CSharp.fitting?
  split
  next => exact ⟨_, rfl⟩
  next =>
    cases type with
    | int => exact exists_ok_bind (Value.number?_of_bounded h) fun _ => ⟨_, rfl⟩
    | float => exact exists_ok_bind (Value.number?_of_bounded h) fun _ => ⟨_, rfl⟩
    | bool =>
      refine exists_ok_bind ?_ fun _ => ⟨_, rfl⟩
      unfold CSharp.truth?
      split
      next => exact ⟨_, rfl⟩
      next => exact exists_ok_bind (Value.number?_of_bounded h) fun _ => ⟨_, rfl⟩
    | string => exact exists_ok_bind (Value.written_of_bounded h) fun _ => ⟨_, rfl⟩
    | vector2 => exact ⟨_, rfl⟩
    | object => exact ⟨_, rfl⟩

theorem objectLiteral_ok {value : Value} (h : value.Bounded) :
    ∃ literal, CSharp.objectLiteral value = .ok literal := by
  unfold CSharp.objectLiteral
  split
  next => exact ⟨_, rfl⟩
  next => exact ⟨_, rfl⟩
  next => exact ⟨_, rfl⟩
  next =>
    refine exists_ok_bind (Value.number?_of_bounded h) fun number => ?_
    cases number with
    | none => exact ⟨_, rfl⟩
    | some x => exact ⟨_, rfl⟩

/-- Only a name that is no type has no literal. -/
theorem initialValue_succeeds {declared : String} (known : FieldType.ofName declared ≠ .object)
    (ident : String) {value : Value} (h : value.Bounded) :
    (initialValue declared ident value).Succeeds := by
  unfold initialValue
  dsimp only
  split
  next unknown => exact absurd unknown known
  next =>
    have fits := fitting?_ok (FieldType.ofName declared) h
    have literal : ∃ text, CSharp.initialLiteral (FieldType.ofName declared) value = .ok text :=
      exists_ok_bind fits fun _ => ⟨_, rfl⟩
    simp [fits, literal, succeeds_noteAbout h]

theorem declaration_succeeds {v : Variable} (h : v.value.Bounded) (ident : String) :
    (declaration v ident).Succeeds := by
  unfold declaration
  split
  next => simp [objectLiteral_ok h]
  next type known =>
    exact (succeeds_bind _ _).mpr
      ⟨initialValue_succeeds (fun unknown => known unknown) ident h, fun _ _ => succeeds_pure _⟩

theorem declareFrom_succeeds (entity : String) (taken : List String) {vars : List Variable}
    (h : ∀ v ∈ vars, v.value.Bounded) : (declareFrom entity taken vars).Succeeds := by
  induction vars generalizing taken with
  | nil => exact succeeds_pure ()
  | cons v vars ih =>
    obtain ⟨first, others⟩ := List.forall_mem_cons.mp h
    simp [declareFrom, declaration_succeeds first, ih _ others]

theorem Entity.animations_succeeds {entity : Entity} (h : entity.Bounded) :
    entity.animations.Succeeds := by
  have params : ∀ params ∈ entity.animationParams, ParamsBounded params := by
    intro params hp
    rcases List.mem_append.mp hp with hp | hp
    · obtain ⟨event, he, rfl⟩ := List.mem_map.mp hp
      exact h.params event (List.mem_filter.mp he).1
    · obtain ⟨module, hm, hp⟩ := List.mem_flatMap.mp hp
      obtain ⟨node, hn, rfl⟩ := List.mem_map.mp hp
      exact h.nodes module hm node (List.mem_filter.mp hn).1
  refine (succeeds_bind _ _).mpr ⟨succeeds_mapM fun p hp => ?_, fun _ _ => succeeds_pure _⟩
  exact (succeeds_bind _ _).mpr ⟨readParams_succeeds _ (params p hp), fun _ _ => succeeds_pure _⟩

end GraphScript
