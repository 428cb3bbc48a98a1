import GraphScript.Proofs.Coercion
import GraphScript.Proofs.FailOpen

namespace GraphScript

/-- A shown lowering ends as its shown parts do. -/
theorem Lowered.result_shown_bind {α β : Type} (x : Lowered α) (f : α → Lowered β)
    (settings : Log.Settings) :
    ((x >>= f).shown settings).result =
      (x.shown settings).result >>= fun a => ((f a).shown settings).result := by
  cases hx : x.result with
  | error fault =>
    rw [bind_of_error hx]
    unfold shown
    dsimp only
    split
    next => rfl
    next =>
      rw [hx]
      rfl
  | ok a =>
    rw [bind_of_ok hx]
    unfold shown
    dsimp only
    rw [List.any_append]
    by_cases broken : (x.effects.any fun e => (e.note?.map (Log.Note.isBroken settings)).getD false) = true
    · rw [broken, Bool.true_or, if_pos rfl, if_pos rfl]
      rfl
    · rw [Bool.not_eq_true] at broken
      rw [broken, Bool.false_or, if_neg Bool.false_ne_true, hx]
      show _ = (if _ then _ else _ : Lowered β).result
      split <;> rfl

theorem ConditionKind.ofName?_name (kind : ConditionKind) : ofName? kind.name = some kind := by
  cases kind with
  | compare c => cases c <;> decide +kernel
  | input phase => cases phase <;> decide +kernel
  | _ => decide +kernel

section Slots

variable {α : Type} [Readable α]

/-- What a slot is read as on its own. -/
def Slot.own (slot : Slot α) (data : Params) : α :=
  ((slot.field.source? data).bind Readable.read?).getD slot.default

theorem Slot.give_own (slot : Slot α) (data : Params) :
    Readable.give (slot.own data) = slot.field.own data := by
  unfold Slot.own Field.own
  cases slot.field.source? data with
  | none => rfl
  | some value =>
    show Readable.give ((Readable.read? value).getD slot.default) =
      ((Readable.read? value : Option α).map Readable.give).getD (Readable.give slot.default)
    cases (Readable.read? value : Option α) <;> rfl

end Slots

/-- The variable of a comparison. -/
def variableSlot : Slot String :=
  .keyed variableKeys "variable" ""

/-- The operator of a comparison in a node. -/
def operatorSlot : Slot String :=
  .keyed ["operator", "op"] "operator" "=="

/-- The variable that parameters compare. -/
def comparedVariable (params : Params) : String :=
  variableSlot.own (Form.given params)

/-- The comparison that the operator among the parameters stands for, and equality for any other. -/
def statedComparison (params : Params) : Comparison :=
  (Comparison.ofSymbol? (Text.trim (operatorSlot.own (Form.given params)))).getD .equal

/-- The kind of condition whose name a value is. -/
def Value.conditionKind? (value : Value) : Option ConditionKind :=
  if value.isWritable then ConditionKind.ofName? value.display else none

/-- The values under which a node can name its kind. -/
def kindValues (params : Params) : List Value :=
  ["condition", "type"].filterMap fun key => params.lookup key

/-- The kind that a node names. -/
def statedKind? (params : Params) : Option ConditionKind :=
  (kindValues params).findSome? Value.conditionKind?

/-- Whether every value can be written up to the first that names a kind. -/
def LegibleKinds (values : List Value) : Prop :=
  ∀ value ∈ values.takeWhile (fun value => value.conditionKind?.isNone), value.isWritable = true

/-- Whether a node only writes integers that can be written: among the values up to the name of its
kind and, without such a name, where it reads its operator. -/
structure LegibleNode (settings : Log.Settings) (params : Params) : Prop where
  kinds : LegibleKinds (kindValues params)
  operator : statedKind? params = none → operatorSlot.field.isLegible (Form.given params) = true
  passed : statedKind? params = none → settings.shows "params" .debug = true →
    ∀ d ∈ operatorSlot.field.passed (Form.given params), d.value.isWritable = true

theorem LegibleNode.of_writable {settings : Log.Settings} {params : Params}
    (kinds : (kindValues params).all Value.isWritable = true)
    (operator : operatorSlot.field.isLegible (Form.given params) = true)
    (passed : (operatorSlot.field.passed (Form.given params)).all (fun d => d.value.isWritable) = true) :
    LegibleNode settings params where
  kinds value hv := List.all_eq_true.mp kinds value ((List.takeWhile_sublist _).subset hv)
  operator _ := operator
  passed _ _ := List.all_eq_true.mp passed

/-- What counts as missing is always written, and its text names no kind. -/
theorem conditionKind?_of_not_given {value : Value} (h : value.isGiven = false) :
    value.isWritable = true ∧ value.conditionKind? = none := by
  have written : value.isWritable = true ∧
      value.display ∈ ["None", "False", "0", "0.0", "-0.0", "", "[]", "\x7b\x7d"] := by
    cases value with
    | null => decide
    | bool b =>
      cases b with
      | false => decide
      | true => cases h
    | int n =>
      obtain rfl : n = 0 := by simpa [Value.isGiven] using h
      decide +kernel
    | float x =>
      have zero : x.isZero = true := by simpa [Value.isGiven] using h
      cases x with
      | finite negative mantissa exponent canonical =>
        obtain rfl : mantissa = 0 := by simpa [Binary64.isZero] using zero
        have text : (Value.float (.finite negative 0 exponent canonical)).display =
            Binary64.signText negative ++ "0.0" := rfl
        refine ⟨rfl, ?_⟩
        rw [text]
        cases negative <;> decide
      | infinite => cases zero
      | undefined => cases zero
    | text s =>
      obtain rfl : s = "" := by simpa [Value.isGiven] using h
      decide
    | list items =>
      obtain rfl : items = [] := by simpa [Value.isGiven] using h
      decide
    | map entries =>
      obtain rfl : entries = [] := by simpa [Value.isGiven] using h
      decide
  have unnamed : ["None", "False", "0", "0.0", "-0.0", "", "[]", "\x7b\x7d"].all
      (fun text => (ConditionKind.ofName? text).isNone) = true := by decide +kernel
  refine ⟨written.1, ?_⟩
  rw [Value.conditionKind?, if_pos written.1]
  exact Option.isNone_iff_eq_none.mp (List.all_eq_true.mp unnamed _ written.2)

namespace Context

theorem givenKinds_eq (params : Params) :
    givenKinds params = (kindValues params).filter Value.isGiven := by
  rw [givenKinds, kindValues, List.filter_filterMap]

/-- How the name of a kind is found; what counts as missing is passed like any other value. -/
theorem kindName?_given_cons (value : Value) (rest : List Value) :
    kindName? ((value :: rest).filter Value.isGiven) =
      if value.isWritable then
        if value.conditionKind?.isSome then .ok (some value.display)
        else kindName? (rest.filter Value.isGiven)
      else .error .integerTooLong := by
  cases given : value.isGiven with
  | false =>
    obtain ⟨writable, unnamed⟩ := conditionKind?_of_not_given given
    rw [List.filter_cons_of_neg (by simp [given]), if_pos writable, unnamed]
    rfl
  | true =>
    rw [List.filter_cons_of_pos given, kindName?, Value.conditionKind?, Value.written]
    split
    next => simp only [bind, Except.bind, pure, Except.pure]
    next => rfl

theorem kindName?_of_legible {values : List Value} (h : LegibleKinds values) :
    ∃ found, kindName? (values.filter Value.isGiven) = .ok found ∧
      found.map ConditionKind.ofName? = (values.findSome? Value.conditionKind?).map some := by
  induction values with
  | nil => exact ⟨none, rfl, rfl⟩
  | cons value rest ih =>
    rw [kindName?_given_cons, List.findSome?_cons]
    cases named : value.conditionKind? with
    | some kind =>
      rw [Value.conditionKind?, Option.ite_none_right_eq_some] at named
      obtain ⟨writable, known⟩ := named
      rw [if_pos writable]
      exact ⟨some value.display, rfl, congrArg some known⟩
    | none =>
      rw [LegibleKinds, List.takeWhile_cons_of_pos (by simp [named])] at h
      obtain ⟨first, others⟩ := List.forall_mem_cons.mp h
      rw [if_pos first]
      exact ih others

theorem kindName?_of_illegible {values : List Value} (h : ¬LegibleKinds values) :
    kindName? (values.filter Value.isGiven) = .error .integerTooLong := by
  induction values with
  | nil => exact absurd (List.forall_mem_nil _) h
  | cons value rest ih =>
    rw [kindName?_given_cons]
    cases named : value.conditionKind? with
    | some kind =>
      rw [LegibleKinds, List.takeWhile_cons_of_neg (by simp [named])] at h
      exact absurd (List.forall_mem_nil _) h
    | none =>
      rw [LegibleKinds, List.takeWhile_cons_of_pos (by simp [named]), List.forall_mem_cons] at h
      split
      next first => exact ih fun others => h ⟨first, others⟩
      next => rfl

theorem kindName?_of_stated {params : Params} {kind : ConditionKind}
    (legible : LegibleKinds (kindValues params)) (stated : statedKind? params = some kind) :
    ∃ name, kindName? (givenKinds params) = .ok (some name) ∧ ConditionKind.ofName? name = some kind := by
  obtain ⟨found, hk, same⟩ := kindName?_of_legible legible
  rw [← statedKind?, stated] at same
  obtain ⟨name, rfl, known⟩ := Option.map_eq_some_iff.mp same
  exact ⟨name, givenKinds_eq params ▸ hk, known⟩

theorem kindName?_of_unstated {params : Params} (legible : LegibleKinds (kindValues params))
    (unstated : statedKind? params = none) : kindName? (givenKinds params) = .ok none := by
  obtain ⟨found, hk, same⟩ := kindName?_of_legible legible
  rw [← statedKind?, unstated] at same
  obtain rfl := Option.map_eq_none_iff.mp same
  exact givenKinds_eq params ▸ hk

/-- The value that a comparison has on its other side. -/
def comparedValue (params : Params) : Value :=
  (Slot.plain "value" Value.null).own (Form.given params)

theorem variableCompareParams_eq {params : Params} {q : VariableCompareParams}
    (h : (readParams VariableCompareParams.form params).result = .ok q) :
    q.name = comparedVariable params ∧ q.value = comparedValue params := by
  have known : (⟨_, VariableCompareParams.form⟩ : Σ σ : Type, Form σ σ) ∈ paramForms := by
    simp only [paramForms, List.mem_cons, true_or, or_true]
  have view : [("variable", Value.text q.name), ("value", q.value)] =
      [("variable", variableSlot.field.own (Form.given params)),
       ("value", (Slot.plain "value" Value.null).field.own (Form.given params))] :=
    readParams_view known h
  rw [← Slot.give_own, ← Slot.give_own] at view
  injection view with name view
  injection view with value
  exact ⟨Value.text.inj (congrArg Prod.snd name), congrArg Prod.snd value⟩

theorem conditionNodeParams_eq {params : Params} {p : ConditionNodeParams}
    (h : (readParams ConditionNodeParams.form params).result = .ok p) :
    p.name = comparedVariable params ∧ p.operator = operatorSlot.own (Form.given params) ∧
      p.value = comparedValue params := by
  have known : (⟨_, ConditionNodeParams.form⟩ : Σ σ : Type, Form σ σ) ∈ paramForms := by
    simp only [paramForms, List.mem_cons, true_or, or_true]
  have view : [("variable", Value.text p.name), ("operator", Value.text p.operator), ("value", p.value)] =
      [("variable", variableSlot.field.own (Form.given params)),
       ("operator", operatorSlot.field.own (Form.given params)),
       ("value", (Slot.plain "value" Value.null).field.own (Form.given params))] :=
    readParams_view known h
  rw [← Slot.give_own, ← Slot.give_own, ← Slot.give_own] at view
  injection view with name view
  injection view with operator view
  injection view with value
  exact ⟨Value.text.inj (congrArg Prod.snd name), Value.text.inj (congrArg Prod.snd operator),
    congrArg Prod.snd value⟩

variable {settings : Log.Settings}

/-- Where the operator is legible, the parameters of a node are read if those of a comparison are. -/
theorem conditionNodeParams_ends {params : Params}
    (legible : operatorSlot.field.isLegible (Form.given params) = true)
    (passed : settings.shows "params" .debug = true →
      ∀ d ∈ operatorSlot.field.passed (Form.given params), d.value.isWritable = true) :
    (∃ p, ((readParams ConditionNodeParams.form params).shown settings).result = .ok p) ↔
      ∃ q, ((readParams VariableCompareParams.form params).shown settings).result = .ok q := by
  have node : ConditionNodeParams.form.fields =
    [variableSlot.field, operatorSlot.field, (Slot.plain "value" Value.null).field] := rfl
  have event : VariableCompareParams.form.fields =
    [variableSlot.field, (Slot.plain "value" Value.null).field] := rfl
  rw [shown_readParams_ends (by decide +kernel), shown_readParams_ends (by decide +kernel), node, event]
  simp only [List.forall_mem_cons, legible, true_and]
  refine and_congr_right fun _ => imp_congr_right fun shows => ?_
  exact and_congr_right fun _ => and_iff_right (passed shows)

/-- Such parameters name the same variable and the same value in both. -/
theorem conditionNodeParams_alike {params : Params}
    (legible : operatorSlot.field.isLegible (Form.given params) = true)
    (passed : settings.shows "params" .debug = true →
      ∀ d ∈ operatorSlot.field.passed (Form.given params), d.value.isWritable = true)
    (f : String → Value → Except Fault String) :
    (((readParams ConditionNodeParams.form params).shown settings).result >>= fun p => f p.name p.value) =
      ((readParams VariableCompareParams.form params).shown settings).result >>= fun q =>
        f q.name q.value := by
  have ends := conditionNodeParams_ends legible passed
  cases node : ((readParams ConditionNodeParams.form params).shown settings).result with
  | ok p =>
    obtain ⟨q, event⟩ := ends.mp ⟨p, node⟩
    rw [event]
    rw [Lowered.shown_eq_of_ok node] at node
    rw [Lowered.shown_eq_of_ok event] at event
    obtain ⟨name, -, value⟩ := conditionNodeParams_eq node
    obtain ⟨name', value'⟩ := variableCompareParams_eq event
    show f p.name p.value = f q.name q.value
    rw [name, value, name', value']
  | error fault =>
    cases event : ((readParams VariableCompareParams.form params).shown settings).result with
    | ok q =>
      obtain ⟨p, other⟩ := ends.mpr ⟨q, event⟩
      cases node.symm.trans other
    | error fault' =>
      rw [shown_readParams_fault node, shown_readParams_fault event]
      rfl

theorem lowerCondition_compare (ctx : Context) {name : String} {c : Comparison}
    (known : ConditionKind.ofName? name = some (.compare c)) (key : Option String) {params : Params}
    (named : comparedVariable params ≠ "") :
    ((ctx.lowerCondition ⟨name, key, params⟩).shown settings).result =
      ((readParams VariableCompareParams.form params).shown settings).result >>= fun q =>
        ctx.comparison c q.name q.value := by
  unfold lowerCondition lowerNamedCondition
  rw [known]
  dsimp only
  rw [Lowered.result_shown_bind]
  show ((ctx.lowerComparison c params).shown settings).result = _
  unfold lowerComparison
  rw [Lowered.result_shown_bind]
  cases read : ((readParams VariableCompareParams.form params).shown settings).result with
  | error fault => rfl
  | ok q =>
    rw [Lowered.shown_eq_of_ok read] at read
    have given : ¬q.name = "" := (variableCompareParams_eq read).1 ▸ named
    show ((if q.name = "" then _ else _ : Lowered String).shown settings).result = _
    rw [if_neg given]
    rfl

/-- Without a kind, a node reads its parameters and compares the variable among them. -/
theorem lowerConditionNode_inline (ctx : Context) {node : Node}
    (unnamed : kindName? (givenKinds node.params) = .ok none) (settings : Log.Settings) :
    ∃ f, ctx.lowerConditionNode node = readParams ConditionNodeParams.form node.params >>= f ∧
      ∀ p, p.name ≠ "" → ((f p).shown settings).result =
        ctx.comparison ((Comparison.ofSymbol? (Text.trim p.operator)).getD .equal) p.name p.value := by
  unfold lowerConditionNode
  dsimp only
  rw [unnamed]
  refine ⟨_, rfl, fun p named => ?_⟩
  rw [if_neg named]
  cases Comparison.ofSymbol? (Text.trim p.operator) <;> rfl

theorem lowerConditionNode_compare (ctx : Context) {node : Node}
    (unnamed : kindName? (givenKinds node.params) = .ok none)
    (named : comparedVariable node.params ≠ "") :
    ((ctx.lowerConditionNode node).shown settings).result =
      ((readParams ConditionNodeParams.form node.params).shown settings).result >>= fun p =>
        ctx.comparison (statedComparison node.params) p.name p.value := by
  obtain ⟨f, inline, compared⟩ := ctx.lowerConditionNode_inline unnamed settings
  rw [inline, Lowered.result_shown_bind]
  cases read : ((readParams ConditionNodeParams.form node.params).shown settings).result with
  | error fault => rfl
  | ok p =>
    rw [Lowered.shown_eq_of_ok read] at read
    obtain ⟨name, operator, -⟩ := conditionNodeParams_eq read
    have given : p.name ≠ "" := name ▸ named
    show ((f p).shown settings).result = ctx.comparison _ p.name p.value
    rw [compared p given, operator]
    rfl

theorem lowerConditionNode_unread (ctx : Context) {node : Node}
    (unnamed : kindName? (givenKinds node.params) = .ok none)
    (unread : ¬∃ p, ((readParams ConditionNodeParams.form node.params).shown settings).result = .ok p) :
    ((ctx.lowerConditionNode node).shown settings).result = .error .integerTooLong := by
  obtain ⟨f, inline, -⟩ := ctx.lowerConditionNode_inline unnamed settings
  rw [inline, Lowered.result_shown_bind]
  cases read : ((readParams ConditionNodeParams.form node.params).shown settings).result with
  | error fault =>
    rw [shown_readParams_fault read]
    rfl
  | ok p => exact absurd ⟨p, read⟩ unread

/-- Which of the names of a kind is given does not matter. -/
theorem lowerNamedCondition_congr (ctx : Context) {name name' : String}
    (h : ConditionKind.ofName? name = ConditionKind.ofName? name') (known : ConditionKind.ofName? name ≠ none)
    (params : Params) (key : Value) :
    ctx.lowerNamedCondition name params key = ctx.lowerNamedCondition name' params key := by
  unfold lowerNamedCondition
  rw [← h]
  cases kind : ConditionKind.ofName? name with
  | none => exact absurd kind known
  | some kind => rfl

theorem lowerConditionNode_of_kind (ctx : Context) {node : Node} {name : String}
    (found : kindName? (givenKinds node.params) = .ok (some name)) :
    ctx.lowerConditionNode node =
      ctx.lowerNamedCondition name node.params ((node.params.lookup "key").getD .null) := by
  unfold lowerConditionNode
  dsimp only
  rw [found]
  exact pure_bind (m := Lowered) (some name) _

theorem lowerConditionNode_fault (ctx : Context) {node : Node} {fault : Fault}
    (h : kindName? (givenKinds node.params) = .error fault) :
    (ctx.lowerConditionNode node).shown settings = ⟨[], .error fault⟩ := by
  unfold lowerConditionNode
  dsimp only
  rw [h]
  rfl

theorem lowerConditionNode_illegible (ctx : Context) {node : Node}
    (illegible : ¬LegibleNode settings node.params) :
    ((ctx.lowerConditionNode node).shown settings).result = .error .integerTooLong := by
  by_cases kinds : LegibleKinds (kindValues node.params)
  · cases stated : statedKind? node.params with
    | some kind =>
      -- nothing is asked of the operator of a node that names its kind
      refine absurd ⟨kinds, fun unstated => ?_, fun unstated => ?_⟩ illegible
      · cases stated.symm.trans unstated
      · cases stated.symm.trans unstated
    | none =>
      apply ctx.lowerConditionNode_unread (kindName?_of_unstated kinds stated)
      rintro ⟨p, read⟩
      have whole := (shown_readParams_ends (by decide +kernel) node.params settings).mp ⟨p, read⟩
      have field : operatorSlot.field ∈ ConditionNodeParams.form.fields := List.mem_of_getElem? (i := 1) rfl
      exact illegible ⟨kinds, fun _ => whole.1 _ field, fun _ shows => whole.2 shows _ field⟩
  · have fault := kindName?_of_illegible kinds
    rw [← givenKinds_eq] at fault
    rw [ctx.lowerConditionNode_fault fault]

/-- A condition node that only writes what can be written does what the condition of the kind that it
names does, or else it has the expression of the comparison that its operator stands for. Any other
node ends with a fault. -/
theorem conditionNode_agrees (ctx : Context) (node : Node) (settings : Log.Settings) :
    (LegibleNode settings node.params →
      (∀ kind name, statedKind? node.params = some kind → ConditionKind.ofName? name = some kind →
        ctx.lowerConditionNode node =
          ctx.lowerNamedCondition name node.params ((node.params.lookup "key").getD .null)) ∧
      (∀ name key, statedKind? node.params = none → comparedVariable node.params ≠ "" →
        ConditionKind.ofName? name = some (.compare (statedComparison node.params)) →
        ((ctx.lowerConditionNode node).shown settings).result =
          ((ctx.lowerCondition ⟨name, key, node.params⟩).shown settings).result)) ∧
    (¬LegibleNode settings node.params →
      ((ctx.lowerConditionNode node).shown settings).result = .error .integerTooLong) := by
  refine ⟨fun legible => ⟨?_, ?_⟩, ctx.lowerConditionNode_illegible⟩
  · intro kind name stated known
    obtain ⟨text, found, own⟩ := kindName?_of_stated legible.kinds stated
    rw [ctx.lowerConditionNode_of_kind found]
    exact ctx.lowerNamedCondition_congr (own.trans known.symm) (by simp [own]) _ _
  · intro name key unstated named known
    have found := kindName?_of_unstated legible.kinds unstated
    rw [ctx.lowerConditionNode_compare found named, ctx.lowerCondition_compare known key named]
    exact conditionNodeParams_alike (legible.operator unstated) (legible.passed unstated) _

/-- A node that names its kind after a value that names none. -/
def aliveNode : Node :=
  ⟨"alive", "Condition", none, [("condition", .list [.int 1]), ("type", .text " IsAlive ")]⟩

/-- A node that compares a variable, with malformed values before those that count. -/
def aheadNode : Node :=
  ⟨"ahead", "Condition", none, [("type", .text "compare"), ("variable", .list []), ("var", .text "lead"),
    ("operator", .list []), ("op", .text " > "), ("value", .text "3")]⟩

theorem conditionNode_agrees_ahead :
    ∃ config, Config.Draft.default.check = .ok config ∧
      LegibleNode { Log.Settings.initial with level := .debug } aliveNode.params ∧
      LegibleNode { Log.Settings.initial with level := .debug } aheadNode.params ∧
      (Context.of (pressedEntity "door" "KeyW") config).lowerConditionNode aliveNode =
        (Context.of (pressedEntity "door" "KeyW") config).lowerNamedCondition "IsAlive" aliveNode.params
          ((aliveNode.params.lookup "key").getD .null) ∧
      (((Context.of (pressedEntity "door" "KeyW") config).lowerConditionNode aheadNode).shown
          { Log.Settings.initial with level := .debug }).result =
        (((Context.of (pressedEntity "door" "KeyW") config).lowerCondition
            ⟨"VarGreaterThan", some "KeyW", aheadNode.params⟩).shown
          { Log.Settings.initial with level := .debug }).result := by
  obtain ⟨config, valid⟩ : ∃ config, Config.Draft.default.check = .ok config := ⟨_, rfl⟩
  have kind : statedKind? aliveNode.params = some .isAlive := by decide +kernel
  have none : statedKind? aheadNode.params = none := by decide +kernel
  have alive : LegibleNode { Log.Settings.initial with level := .debug } aliveNode.params :=
    .of_writable (by decide +kernel) (by decide +kernel) (by decide +kernel)
  have ahead : LegibleNode { Log.Settings.initial with level := .debug } aheadNode.params :=
    .of_writable (by decide +kernel) (by decide +kernel) (by decide +kernel)
  have agrees := conditionNode_agrees (Context.of (pressedEntity "door" "KeyW") config)
  refine ⟨config, valid, alive, ahead, ?_, ?_⟩
  · exact ((agrees aliveNode _).1 alive).1 .isAlive "IsAlive" kind (ConditionKind.ofName?_name .isAlive)
  · have greater : statedComparison aheadNode.params = .greater := by decide +kernel
    exact ((agrees aheadNode _).1 ahead).2 "VarGreaterThan" (some "KeyW") none (by decide +kernel)
      (greater ▸ ConditionKind.ofName?_name (.compare .greater))

/-- Before the kind that a node names stands an integer that is too long. -/
def unwritableNode : Node :=
  ⟨"alive", "Condition", none, [("condition", .int (16 ^ 3600 - 1)), ("type", .text "IsAlive")]⟩

theorem conditionNode_unwritable :
    ∃ config, Config.Draft.default.check = .ok config ∧
      statedKind? unwritableNode.params = some .isAlive ∧
      (((Context.of (pressedEntity "door" "KeyW") config).lowerConditionNode unwritableNode).shown
          .silent).result = .error .integerTooLong ∧
      (((Context.of (pressedEntity "door" "KeyW") config).lowerNamedCondition "IsAlive"
          unwritableNode.params .null).shown .silent).result = .ok (config.healthField ++ " > 0") := by
  obtain ⟨config, valid⟩ : ∃ config, Config.Draft.default.check = .ok config := ⟨_, rfl⟩
  have fault : kindName? (givenKinds unwritableNode.params) = .error .integerTooLong := by
    have values : kindValues unwritableNode.params = [.int (16 ^ 3600 - 1), .text "IsAlive"] := rfl
    rw [givenKinds_eq, values, kindName?_given_cons, if_neg (by decide +kernel)]
  refine ⟨config, valid, by decide +kernel, ?_, ?_⟩
  · rw [lowerConditionNode_fault _ fault]
  · rw [lowerNamedCondition, show ConditionKind.ofName? "IsAlive" = _ from ConditionKind.ofName?_name .isAlive]
    rfl

end Context

end GraphScript
