import GraphScript.Proofs.Contained

namespace GraphScript

open Lowered

/-- Whether a condition given by name is a comparison whose parameters name no variable. -/
def ComparesNothing (name : String) (params : Params) : Prop :=
  ∃ c p, ConditionKind.ofName? name = some (.compare c) ∧
    (readParams VariableCompareParams.form params).result = .ok p ∧ p.name = ""

/-- Whether the kind that a condition node gives is such a comparison. -/
def Node.ComparesNothing (node : Node) : Prop :=
  ∃ name, Context.kindName? (Context.givenKinds node.params) = .ok (some name) ∧
    GraphScript.ComparesNothing name node.params

namespace Lowered

/-- An expression for an entity that is `true` just where one fallback is recorded, apart from the
`unrecorded` case. In that case and for any other expression there is no record. -/
structure FailsOpen (entity : String) (unrecorded : Prop) (x : Lowered String) : Prop where
  open_iff : x.result = .ok "true" ↔ (∃ f : Fallback, x.records = [f.record entity]) ∨ unrecorded
  unrecorded : unrecorded → x.records = []
  otherwise : x.result ≠ .ok "true" → x.records = []

variable {entity : String} {unrecorded : Prop} {x : Lowered String}

theorem FailsOpen.congr {other : Prop} (h : x.FailsOpen entity unrecorded)
    (same : unrecorded ↔ other) : x.FailsOpen entity other :=
  propext same ▸ h

/-- What comes first is not recorded. -/
theorem FailsOpen.after {α : Type} {y : Lowered α} {f : α → Lowered String} {a : α}
    (none : y.records = []) (hy : y.result = .ok a) (h : (f a).FailsOpen entity unrecorded) :
    (y >>= f).FailsOpen entity unrecorded := by
  have records : (y >>= f).records = (f a).records := by
    rw [records_of_ok hy, none, List.nil_append]
  have result : (y >>= f).result = (f a).result := by rw [bind_of_ok hy]
  constructor
  · rw [result, records]
    exact h.open_iff
  · rw [records]
    exact h.unrecorded
  · rw [result, records]
    exact h.otherwise

/-- A fault is neither `true` nor recorded. -/
theorem failsOpen_of_fault {α : Type} {y : Lowered α} {f : α → Lowered String} {fault : Fault}
    (none : y.records = []) (hy : y.result = .error fault) (regular : ¬unrecorded) :
    (y >>= f).FailsOpen entity unrecorded := by
  rw [bind_of_error hy]
  constructor
  · constructor
    · intro h
      cases h
    · rintro (⟨g, hg⟩ | exception)
      · have empty := none.symm.trans hg
        cases empty
      · exact absurd exception regular
  · exact fun exception => absurd exception regular
  · exact fun _ => none

/-- Without records, only the exception is `true`. -/
theorem failsOpen_of_unrecorded (none : x.records = [])
    (h : x.result = .ok "true" ↔ unrecorded) : x.FailsOpen entity unrecorded where
  open_iff := by
    rw [h, none]
    constructor
    · exact .inr
    · rintro (⟨f, hf⟩ | exception)
      · cases hf
      · exact exception
  unrecorded _ := none
  otherwise _ := none

theorem fallback_records (entity : String) (f : Fallback) :
    (fallback entity f).records = [f.record entity] := by
  unfold fallback
  cases f.comment? <;> rfl

/-- A decision to take a condition for true is recorded. -/
theorem failsOpen_of_fallback (f : Fallback) (regular : ¬unrecorded) :
    (do fallback entity f; return "true" : Lowered String).FailsOpen entity unrecorded := by
  have taken : (fallback entity f).result = .ok () := by
    unfold fallback
    cases f.comment? <;> rfl
  have recorded : (do fallback entity f; return "true" : Lowered String).records =
      [f.record entity] := by
    rw [bind_of_ok taken]
    simpa [records] using fallback_records entity f
  have result : (do fallback entity f; return "true" : Lowered String).result = .ok "true" := by
    rw [bind_of_ok taken]
    rfl
  exact ⟨⟨fun _ => .inl ⟨f, recorded⟩, fun _ => result⟩, fun exception => absurd exception regular,
    fun other => absurd result other⟩

end Lowered

/-- A text with a blank in it is not the literal. -/
theorem ne_true_of_blank {text : String} (h : ' ' ∈ text.toList) : text ≠ "true" := by
  rintro rfl
  revert h
  decide

namespace Context

variable {ctx : Context}

theorem comparison_ne_true (c : Comparison) (name : String) (value : Value) :
    ctx.comparison c name value ≠ .ok "true" := by
  intro h
  obtain ⟨literal, -, h⟩ := ok_of_bind h
  refine ne_true_of_blank ?_ (Except.ok.inj h)
  simp

theorem lowerThreshold_ne_true (symbol : String) (params : Params) :
    (ctx.lowerThreshold symbol params).result ≠ .ok "true" := by
  intro h
  obtain ⟨p, -, h⟩ := bind_result_ok h
  obtain ⟨health, -, h⟩ := bind_result_ok h
  refine ne_true_of_blank ?_ (Except.ok.inj h)
  simp

theorem lowerInput_ne_true (phase : KeyPhase) (params : Params) (key : Value) :
    (lowerInput phase params key).result ≠ .ok "true" := by
  have asked (code : String) :
      "Input." ++ phase.method ++ "(KeyCode." ++ Key.member code ++ ")" ≠ "true" := by
    intro h
    have first := congrArg (fun text => text.toList.head?) h
    simp at first
  intro h
  unfold lowerInput at h
  split at h
  next =>
    obtain ⟨code, -, h⟩ := bind_result_ok h
    exact asked code (Except.ok.inj h)
  next =>
    obtain ⟨p, -, h⟩ := bind_result_ok h
    exact asked p.key (Except.ok.inj h)

theorem lowerComparison_true_iff (c : Comparison) (params : Params) :
    (ctx.lowerComparison c params).result = .ok "true" ↔
      ∃ p, (readParams VariableCompareParams.form params).result = .ok p ∧ p.name = "" := by
  constructor
  · intro h
    obtain ⟨p, hp, h⟩ := bind_result_ok h
    split at h
    next unnamed => exact ⟨p, hp, unnamed⟩
    next => exact absurd h (comparison_ne_true c p.name p.value)
  · rintro ⟨p, hp, unnamed⟩
    unfold lowerComparison
    rw [bind_of_ok hp, if_pos unnamed]
    rfl

/-- Of the known conditions only a comparison without a variable is `true`. -/
theorem lowerConditionKind_true_iff (params : Params) (key : Value) (kind : ConditionKind) :
    (ctx.lowerConditionKind params key kind).result = .ok "true" ↔
      ∃ c p, kind = .compare c ∧
        (readParams VariableCompareParams.form params).result = .ok p ∧ p.name = "" := by
  have never {kind : ConditionKind} (other : ∀ c, kind ≠ .compare c)
      (h : (ctx.lowerConditionKind params key kind).result ≠ .ok "true") :
      (ctx.lowerConditionKind params key kind).result = .ok "true" ↔
        ∃ c p, kind = .compare c ∧
          (readParams VariableCompareParams.form params).result = .ok p ∧ p.name = "" :=
    ⟨fun open_ => absurd open_ h, fun ⟨c, _, hc, _⟩ => absurd hc (other c)⟩
  cases kind with
  | compare c =>
    refine (lowerComparison_true_iff c params).trans ⟨?_, ?_⟩
    · rintro ⟨p, hp, unnamed⟩
      exact ⟨c, p, rfl, hp, unnamed⟩
    · rintro ⟨_, p, -, hp, unnamed⟩
      exact ⟨p, hp, unnamed⟩
  | isAlive =>
    refine never (by simp) fun h => ne_true_of_blank ?_ (Except.ok.inj h)
    simp
  | healthBelow => exact never (by simp) (lowerThreshold_ne_true _ _)
  | healthAbove => exact never (by simp) (lowerThreshold_ne_true _ _)
  | roleEquals => exact never (by simp) fun h => absurd (Except.ok.inj h) (by decide)
  | input phase => exact never (by simp) (lowerInput_ne_true _ _ _)

theorem lowerNamedCondition_failsOpen (ctx : Context) (name : String) (params : Params) (key : Value) :
    (ctx.lowerNamedCondition name params key).FailsOpen ctx.entity.id
      (ComparesNothing name params) := by
  unfold lowerNamedCondition ComparesNothing
  cases ConditionKind.ofName? name with
  | none =>
    refine failsOpen_of_fallback (.unknownCondition name) ?_
    rintro ⟨c, p, unknown, -⟩
    cases unknown
  | some kind =>
    have none : (ctx.lowerConditionKind params key kind).records = [] :=
      records_eq_nil (lowerConditionKind_within (p := fun e => e.record? = none) (fun _ => rfl) rfl
        params key kind)
    refine failsOpen_of_unrecorded none ?_
    refine (lowerConditionKind_true_iff params key kind).trans ?_
    simp only [Option.some.injEq]

theorem ofComparison_failsOpen (c : Comparison) (name : String) (value : Value) {unrecorded : Prop}
    (regular : ¬unrecorded) :
    (Lowered.ofExcept (ctx.comparison c name value)).FailsOpen ctx.entity.id unrecorded := by
  refine failsOpen_of_unrecorded rfl ⟨fun h => ?_, fun exception => absurd exception regular⟩
  exact absurd h (comparison_ne_true c name value)

theorem lowerConditionNode_failsOpen (node : Node) :
    (ctx.lowerConditionNode node).FailsOpen ctx.entity.id node.ComparesNothing := by
  unfold lowerConditionNode
  cases hk : kindName? (givenKinds node.params) with
  | error fault =>
    refine failsOpen_of_fault rfl hk ?_
    rintro ⟨name, found, -⟩
    cases hk.symm.trans found
  | ok found =>
    refine .after rfl hk ?_
    cases found with
    | some name =>
      refine (ctx.lowerNamedCondition_failsOpen _ _ _).congr ⟨fun h => ⟨name, hk, h⟩, ?_⟩
      rintro ⟨other, found, h⟩
      cases hk.symm.trans found
      exact h
    | none =>
      -- without a kind of its own the node compares a variable, or is taken for true
      have regular : ¬node.ComparesNothing := by
        rintro ⟨name, found, -⟩
        cases hk.symm.trans found
      have read : (readParams ConditionNodeParams.form node.params).records = [] :=
        records_eq_nil (readParams_within (fun _ => rfl) _ _)
      cases hp : (readParams ConditionNodeParams.form node.params).result with
      | error fault => exact failsOpen_of_fault read hp regular
      | ok p =>
        refine .after read hp ?_
        split
        next => exact failsOpen_of_fallback _ regular
        next =>
          dsimp only
          split
          next c _ => exact ofComparison_failsOpen c p.name p.value regular
          next => exact .after (a := ()) rfl rfl (ofComparison_failsOpen .equal p.name p.value regular)

/-- The expression of a condition is `true` exactly if one fallback was recorded for the entity or a
comparison names no variable. The latter leaves no record, and neither does any other expression. -/
theorem conditions_fail_open (ctx : Context) :
    (∀ c : Condition, (ctx.lowerCondition c).FailsOpen ctx.entity.id
      (ComparesNothing c.type c.params)) ∧
    ∀ node : Node, (ctx.lowerConditionNode node).FailsOpen ctx.entity.id node.ComparesNothing :=
  ⟨fun c => ctx.lowerNamedCondition_failsOpen c.type c.params _, lowerConditionNode_failsOpen⟩

/-- A comparison without a variable is taken for true, and nothing is recorded. -/
theorem unnamed_comparison_not_recorded :
    ∃ config x, Config.Draft.default.check = .ok config ∧
      (Context.of (pressedEntity "door" "KeyW") config).lowerCondition ⟨"VarEquals", none, []⟩ = x ∧
      x.result = .ok "true" ∧ x.records = [] := by
  obtain ⟨config, valid⟩ : ∃ config, Config.Draft.default.check = .ok config := ⟨_, rfl⟩
  have unnamed : (readParams VariableCompareParams.form []).result.toOption.map (·.name) =
      some "" := by decide +kernel
  have nothing : ComparesNothing "VarEquals" [] := by
    cases hp : (readParams VariableCompareParams.form []).result with
    | error fault => simp [hp, Except.toOption] at unnamed
    | ok p =>
      rw [hp] at unnamed
      exact ⟨.equal, p, by decide +kernel, hp, Option.some.inj unnamed⟩
  have expression := (Context.of (pressedEntity "door" "KeyW") config).lowerNamedCondition_failsOpen
    "VarEquals" [] .null
  exact ⟨config, _, valid, rfl, expression.open_iff.mpr (.inr nothing), expression.unrecorded nothing⟩

end Context

end GraphScript
