import GraphScript.Proofs.Phrase
import GraphScript.Proofs.Written

namespace GraphScript

open Lowered CSharp

/-- Whether an effect neither writes nor needs anything. -/
def Effect.isAside : Effect → Bool
  | write _ => false
  | needNamespace _ => false
  | useHealth => false
  | _ => true

/-- Lowerings that are built from lines and calls, with assignments to the given variables only. The
truth value tells whether they use the health field. -/
inductive Lowered.Built (ctx : Context) (names : List String) :
    Bool → {α : Type} → Lowered α → Prop
  | pure {α : Type} (a : α) : Built ctx names false (Pure.pure a : Lowered α)
  | ofExcept {α : Type} (r : Except Fault α) : Built ctx names false (ofExcept r)
  | aside {e : Effect} : e.isAside = true → Built ctx names false (perform e)
  | health : Built ctx names true ctx.health
  | line {text : String} : Phrase ctx names text → Built ctx names false (line text)
  | comment (text : String) : Built ctx names false (comment text)
  | suspend : Built ctx names false suspend
  | call (c : ServiceCall) : Built ctx names false (do statement (← ctx.call c) : Lowered Unit)
  | bind {α β : Type} {x : Lowered α} {f : α → Lowered β} {used used' : Bool} :
      Built ctx names used x → (∀ a, x.result = .ok a → Built ctx names used' (f a)) →
      Built ctx names (used || used') (x >>= f)
  | block {header : Option String} {body : Lowered Unit} {used : Bool} :
      (∀ text ∈ header, Heading text) → Built ctx names used body →
      Built ctx names used (block header body)
  | indented {body : Lowered Unit} {used : Bool} :
      Built ctx names used body → Built ctx names used (indented body)

namespace Lowered

variable {ctx : Context} {names : List String} {α β : Type} {used : Bool}

/-- What comes first uses no health. -/
theorem Built.after {x : Lowered α} {f : α → Lowered β} (h : x.Built ctx names false)
    (h' : ∀ a, x.result = .ok a → (f a).Built ctx names used) : (x >>= f).Built ctx names used :=
  .bind h h'

/-- The health field is used first. -/
theorem Built.health_bind {f : String → Lowered β}
    (h : (f ctx.config.healthField).Built ctx names false) :
    (ctx.health >>= f).Built ctx names true := by
  have both : (ctx.health >>= f).Built ctx names (true || false) := by
    refine .bind .health fun field hf => ?_
    cases hf
    exact h
  exact both

theorem Built.ite {c : Prop} [Decidable c] {x y : Lowered α} (h : x.Built ctx names used)
    (h' : y.Built ctx names used) : (if c then x else y).Built ctx names used := by
  split
  next => exact h
  next => exact h'

theorem built_of_within {x : Lowered α} (h : x.Within fun e => e.isAside = true) :
    x.Built ctx names false := by
  obtain ⟨effects, result⟩ := x
  induction effects with
  | nil => exact .ofExcept result
  | cons e effects ih =>
    obtain ⟨first, others⟩ := List.forall_mem_cons.mp h
    exact .after (.aside first) fun _ _ => ih others

theorem fallback_built (entity : String) (reason : Fallback) :
    (fallback entity reason).Built ctx names false := by
  refine .after (.aside rfl) fun _ _ => ?_
  split
  next => exact .comment _
  next => exact .pure _

end Lowered

theorem begins_foldl {starts : List String} {start : String} (h : Begins starts start)
    (rest : List String) : Begins starts (rest.foldl (· ++ ·) start) := by
  obtain ⟨first, hm, hp⟩ := h
  exact ⟨first, hm, hp.trans (prefix_foldl start rest)⟩

variable {ctx : Context} {names : List String}

theorem statement_built {text : String} (h : Phrase ctx names (text ++ ";")) :
    (statement text).Built ctx names false :=
  .line h

/-- A statement that begins with a known word. -/
theorem opened_built {start : String} (h : Begins openings start) (rest : List String) :
    (line (rest.foldl (· ++ ·) start)).Built ctx names false :=
  .line (.opened (begins_foldl h rest))

theorem readParams_built {σ : Type} (form : Form σ σ) (raw : Params) :
    (readParams form raw).Built ctx names false :=
  built_of_within (readParams_within (fun _ => rfl) form raw)

namespace Context

theorem operand_built (type : Option FieldType) (value : Value) :
    (ctx.operand type value).Built ctx names false :=
  built_of_within (operand_within (fun _ => rfl) type value)

theorem incomplete_built (note comment : String) :
    (ctx.incomplete note comment).Built ctx names false :=
  .after (.aside rfl) fun _ _ => .comment comment

theorem lowerMove_built (p : MoveParams) : (ctx.lowerMove p).Built ctx names false :=
  opened_built (by decide) [_, _, _, _, _]

theorem lowerChaseTarget_built (p : ChaseTargetParams) :
    (ctx.lowerChaseTarget p).Built ctx names false := by
  have test : Heading "if (target != null)" := .opened (by decide)
  refine .after (.comment _) fun _ _ => .block (by simp) ?_
  refine .after (opened_built (by decide) [_, _, _]) fun _ _ => .block (by simpa using test) ?_
  exact .after (opened_built (by decide) [_]) fun _ _ => opened_built (by decide) [_, _, _]

theorem lowerMoveToward_built (p : MoveTowardParams) :
    (ctx.lowerMoveToward p).Built ctx names false := by
  have test : Heading ("if (Vector3.Distance(_transform.position, targetPos) > " ++
      floatLiteral ctx.config.arriveEpsilon ++ ")") := .opened (begins_foldl (by decide) [_, _])
  refine .after (.comment _) fun _ _ => .block (by simp) ?_
  refine .after (opened_built (by decide) [_, _]) fun _ _ => ?_
  refine .after (opened_built (by decide) [_]) fun _ _ => .block (by simpa using test) ?_
  exact opened_built (by decide) [_, _, _]

/-- A line that assigns to a variable. -/
theorem assigned_built (named : ctx.Named) {name : String} (hn : name ∈ names) (rest : List String) :
    (line (rest.foldl (· ++ ·) (ctx.identifier name ++ " = "))).Built ctx names false := by
  have target := isName_identifier named.names name
  have start := prefix_foldl (ctx.identifier name ++ " = ") rest
  rw [String.toList_append] at start
  exact .line (.assigned hn target start)

theorem lowerDivide_built (named : ctx.Named) {name : String} (hn : name ∈ names)
    (first second zero : String) :
    (lowerDivide (ctx.identifier name) first second zero).Built ctx names false := by
  have divided : (statement (ctx.identifier name ++ " = " ++ second ++ " != 0 ? " ++ first ++
      " / " ++ second ++ " : " ++ zero)).Built ctx names false :=
    assigned_built named hn [_, _, _, _, _, _, _, _]
  refine .after (.ofExcept _) fun value _ => ?_
  cases value with
  | none => exact divided
  | some x =>
    dsimp only
    split
    next => exact assigned_built named hn [_, _]
    next => exact divided

theorem lowerSetVar_built (named : ctx.Named) (p : SetVarParams) (hn : p.name ∈ names) :
    (ctx.lowerSetVar p).Built ctx names false := by
  unfold lowerSetVar
  split
  next => exact incomplete_built _ _
  next =>
    refine .after (operand_built _ _) fun first _ => .after (operand_built _ _) fun second _ => ?_
    have assigned : (statement (ctx.identifier p.name ++ " = " ++ first)).Built ctx names false :=
      assigned_built named hn [_, _]
    dsimp only
    split
    next => exact assigned_built named hn [_, _, _, _, _, _]
    next =>
      split
      next => exact lowerDivide_built named hn _ _ _
      next =>
        split
        next => exact .after (.aside rfl) fun _ _ => assigned
        next => exact assigned

/-- A line that adds to a number, or takes from it. -/
theorem changed_phrase {name : String} (hn : IsName name) {operator : String} {c : Char}
    (ho : [' ', c, '='] <+: operator.toList) (hc : c ∈ ['+', '-']) (rest : List String) :
    Phrase ctx names (rest.foldl (· ++ ·) (name ++ operator)) := by
  have start := prefix_foldl (name ++ operator) rest
  rw [String.toList_append] at start
  exact .changed hn hc (((List.prefix_append_right_inj _).mpr ho).trans start)

theorem changed_built {name : String} (hn : IsName name) {operator : String} {c : Char}
    (ho : [' ', c, '='] <+: operator.toList) (hc : c ∈ ['+', '-']) (rest : List String) :
    (line (rest.foldl (· ++ ·) (name ++ operator))).Built ctx names false :=
  .line (changed_phrase hn ho hc rest)

theorem lowerIncrementVar_built (named : ctx.Named) (p : IncrementVarParams) :
    (ctx.lowerIncrementVar p).Built ctx names false := by
  have target := isName_identifier named.names p.name
  unfold lowerIncrementVar
  split
  next => exact incomplete_built _ _
  next =>
    dsimp only
    split
    next =>
      split
      next =>
        exact .after (.aside rfl) fun _ _ =>
          changed_built target (c := '+') (by decide) (by decide) [_, _, _]
      next => exact changed_built target (c := '+') (by decide) (by decide) [_]
    next => exact changed_built target (c := '+') (by decide) (by decide) [_, _]

theorem lowerWait_built (p : WaitParams) : (lowerWait p).Built ctx names false :=
  .after (opened_built (by decide) [_, _, _]) fun _ _ => .suspend

theorem lowerHealth_built (named : ctx.Named) {sign : String} {c : Char} (hs : sign.toList = [c])
    (hc : c ∈ ['+', '-']) (label : String) (p : HealthParams) :
    (ctx.lowerHealth sign label p).Built ctx names true := by
  let health := ctx.config.healthField
  have start : health.toList ++ [' ', c, '='] <+: (health ++ " " ++ sign ++ "= " ++
      numberLiteral (ctx.typeOf health) p.amount ++ ";").toList := by
    simp [hs]
  exact .health_bind (.after (.comment _) fun _ _ =>
    statement_built (.changed named.health hc start))

theorem lowerAttack_built (p : AttackParams) : (ctx.lowerAttack p).Built ctx names false := by
  have each : Heading "foreach (var hit in hits)" := .opened (by decide)
  refine .after (.comment _) fun _ _ => .block (by simp) ?_
  refine .after (opened_built (by decide) [_, _, _]) fun _ _ => .block (by simpa using each) ?_
  refine .after (opened_built (by decide) []) fun _ _ => .indented ?_
  exact opened_built (by decide) [_, _, _]

theorem lowerSpawnEntity_built (p : SpawnEntityParams) :
    (ctx.lowerSpawnEntity p).Built ctx names false :=
  .ite (incomplete_built _ _) (.ite (.call _) (.call _))

theorem lowerPulse_built (p : PulseParams) : (lowerPulse p).Built ctx names false :=
  .block (by simp) (.after (opened_built (by decide) [_, _, _, _, _, _, _]) fun _ _ =>
    opened_built (by decide) [_])

/-- Running a module is labelled by a comment; what it runs is left out here. -/
theorem lowerRunModule_built (p : RunModuleParams) :
    (ctx.lowerRunModule (some fun _ => Pure.pure ()) p).Built ctx names false :=
  .after (.comment _) fun _ _ => .ite (.aside rfl) (.pure _)

end Context

/-- The actions that change the health field. -/
def ActionKind.usesHealth : ActionKind → Bool
  | takeDamage => true
  | heal => true
  | _ => false

/-- The variable that a node sets. -/
def Node.assigned? (node : Node) : Option String :=
  match node.action.bind ActionKind.ofName? with
  | some .setVar => some (SetVarParams.form.coerce node.params).2.name
  | _ => none

/-- Whether the action of a node changes the health field. -/
def Node.changesHealth (node : Node) : Bool :=
  (node.action.bind ActionKind.ofName?).any ActionKind.usesHealth

namespace Context

theorem lowerActionKind_built (named : ctx.Named) (params : Params) (kind : ActionKind)
    (assigns : kind = .setVar → (SetVarParams.form.coerce params).2.name ∈ names) :
    (ctx.lowerActionKind (some fun _ => Pure.pure ()) params kind).Built ctx names
      kind.usesHealth := by
  have read {σ : Type} (form : Form σ σ) {used : Bool} {f : σ → Lowered Unit}
      (h : ∀ p, (f p).Built ctx names used) : (readParams form params >>= f).Built ctx names used :=
    .after (readParams_built form params) fun p _ => h p
  cases kind with
  | log => exact read _ fun _ => opened_built (by decide) [_, _, _]
  | move => exact read _ lowerMove_built
  | rotate => exact read _ fun _ => opened_built (by decide) [_, _, _]
  | chaseTarget => exact read _ lowerChaseTarget_built
  | moveToward => exact read _ lowerMoveToward_built
  | setVar =>
    refine .after (readParams_built _ _) fun p hp => lowerSetVar_built named p ?_
    rw [readParams_result hp]
    exact assigns rfl
  | incrementVar => exact read _ (lowerIncrementVar_built named)
  | wait => exact read _ lowerWait_built
  | enable => exact read _ fun _ => opened_built (by decide) [_, _, _]
  | changeScene => exact read _ fun _ => .ite (incomplete_built _ _) (.call _)
  | destroy => exact read _ fun _ => opened_built (by decide) [_]
  | takeDamage => exact read _ (lowerHealth_built named (c := '-') rfl (by decide) _)
  | heal => exact read _ (lowerHealth_built named (c := '+') rfl (by decide) _)
  | attack => exact read _ lowerAttack_built
  | fireProjectile => exact read _ fun _ => .call _
  | spawnEntity => exact read _ lowerSpawnEntity_built
  | playAnimation =>
    exact read _ fun _ => .ite (incomplete_built _ _) (opened_built (by decide) [_, _, _])
  | pulse => exact read _ lowerPulse_built
  | playParticle => exact read _ fun _ => .call _
  | startParticleEmitter => exact read _ fun _ => .comment _
  | stopParticleEmitter => exact read _ fun _ => .comment _
  | playSound => exact read _ fun _ => .call _
  | emitEventSignal => exact read _ fun _ => .call _
  | clearSignal => exact read _ fun _ => .call _
  | showDialogue => exact read _ fun _ => .call _
  | runModule => exact read _ lowerRunModule_built

/-- An action is built from what its kind writes. -/
theorem label_built (named : ctx.Named) (node : Node)
    (assigns : ∀ name ∈ node.assigned?, name ∈ names) :
    (ctx.lowerAction (some fun _ => Pure.pure ()) node.action node.params).Built ctx names
      node.changesHealth := by
  unfold lowerAction Node.changesHealth
  unfold Node.assigned? at assigns
  cases ha : node.action with
  | none => exact .pure _
  | some name =>
    by_cases empty : name = ""
    · subst empty
      rw [Option.bind_some, ActionKind.ofName?_empty]
      exact .pure _
    · rw [ha, Option.bind_some] at assigns
      simp only [if_neg empty, Option.bind_some]
      cases hk : ActionKind.ofName? name with
      | none => exact fallback_built _ _
      | some kind =>
        refine .after (.aside rfl) fun _ _ => lowerActionKind_built named node.params kind ?_
        rintro rfl
        rw [hk] at assigns
        exact assigns _ rfl

end Context

/-- The conditions that look at the health field. -/
def ConditionKind.usesHealth : ConditionKind → Bool
  | isAlive => true
  | healthBelow => true
  | healthAbove => true
  | _ => false

def Condition.usesHealth (c : Condition) : Bool :=
  (ConditionKind.ofName? c.type).any ConditionKind.usesHealth

/-- Whether the condition of a node looks at the health field. -/
def Node.testsHealth (node : Node) : Bool :=
  match Context.kindName? (Context.givenKinds node.params) with
  | .ok (some name) => (ConditionKind.ofName? name).any ConditionKind.usesHealth
  | _ => false

/-- Whether the statement or the test that a visit leads to is about the health field. -/
def Visit.usesHealth (v : Visit) : Bool :=
  match v.node.role with
  | .action => v.node.changesHealth
  | .condition => v.node.testsHealth
  | _ => false

namespace Context

theorem lowerConditionKind_built (params : Params) (key : Value) (kind : ConditionKind) :
    (ctx.lowerConditionKind params key kind).Built ctx names kind.usesHealth := by
  have threshold (symbol : String) : (ctx.lowerThreshold symbol params).Built ctx names true :=
    .after (readParams_built _ _) fun _ _ => .health_bind (.pure _)
  cases kind with
  | compare c =>
    exact .after (readParams_built _ _) fun _ _ =>
      .ite (.after (.aside rfl) fun _ _ => .pure _) (.ofExcept _)
  | isAlive => exact .health_bind (.pure _)
  | healthBelow => exact threshold "<"
  | healthAbove => exact threshold ">"
  | roleEquals => exact .pure _
  | input phase =>
    exact .ite (.after (.ofExcept _) fun _ _ => .pure _)
      (.after (readParams_built _ _) fun _ _ => .pure _)

theorem lowerNamedCondition_built (name : String) (params : Params) (key : Value) :
    (ctx.lowerNamedCondition name params key).Built ctx names
      ((ConditionKind.ofName? name).any ConditionKind.usesHealth) := by
  unfold lowerNamedCondition
  cases ConditionKind.ofName? name with
  | none => exact .after (fallback_built _ _) fun _ _ => .pure _
  | some kind => exact .after (.aside rfl) fun _ _ => lowerConditionKind_built params key kind

theorem lowerConditionNode_built (node : Node) :
    (ctx.lowerConditionNode node).Built ctx names node.testsHealth := by
  refine .after (.ofExcept _) fun found hf => ?_
  have kind : kindName? (givenKinds node.params) = .ok found := hf
  rw [Node.testsHealth, kind]
  cases found with
  | some name => exact lowerNamedCondition_built _ _ _
  | none =>
    refine .after (readParams_built _ _) fun p _ => .ite ?_ ?_
    · exact .after (fallback_built _ _) fun _ _ => .pure _
    · dsimp only
      split
      next => exact .ofExcept _
      next => exact .after (.aside rfl) fun _ _ => .ofExcept _

theorem tests_of_name {name : String} (hn : IsName name) (rest : List String) :
    Tests (rest.foldl (· ++ ·) (name ++ " ")) := by
  have start := prefix_foldl (name ++ " ") rest
  rw [String.toList_append] at start
  exact .named hn start

theorem TestForm.tests {keys : List String} {text : String} (h : TestForm keys text) : Tests text := by
  cases h with
  | compared c hn hl => exact tests_of_name hn [_, _, _]
  | asked phase _ => exact .given (begins_foldl (by decide) [_, _, _, _])
  | holds => exact .given (by decide)
  | untracked => exact .given ⟨"true", by decide, by decide⟩

/-- Conditions that are joined begin like the first of them. -/
theorem combine_tests (useOr : Bool) {parts : List String} (h : ∀ part ∈ parts, Tests part) :
    Tests (combine useOr parts) := by
  have extend {first : String} (rest : String) (ht : Tests first) : Tests (first ++ rest) := by
    cases ht with
    | named hn hp =>
      refine .named hn ?_
      rw [String.toList_append]
      exact hp.trans (List.prefix_append _ _)
    | given begins => exact .given (begins.append rest)
  cases parts with
  | nil =>
    have holds : Tests "true" := .given (by decide)
    exact holds
  | cons first rest =>
    have start := h first List.mem_cons_self
    have given : (first :: rest).isEmpty ≠ true := by simp
    rw [combine, if_neg given]
    cases rest with
    | nil => rwa [String.intercalate_singleton]
    | cons second rest =>
      rw [String.intercalate_cons_cons, String.append_assoc]
      exact extend _ start

end Context

/-- The variables that an entity sets, in its events and in its modules. -/
def Entity.assigned (entity : Entity) : List String :=
  entity.events.filterMap (fun event => event.asNode.assigned?) ++
    entity.modules.flatMap fun module => module.nodes.filterMap Node.assigned?

namespace Context

/-- The code of a walk that starts at a node of the entity. -/
theorem Plans.built (named : ctx.Named) {path : Path} {module : Module} {start : Option Node}
    {walk : Walk} (h : ctx.Plans path module start walk) (hm : module ∈ ctx.entity.modules)
    (hs : ∀ node, start = some node → node ∈ module.nodes) :
    (ctx.lowerWalk walk).Built ctx ctx.entity.assigned (walk.visits.any Visit.usesHealth) := by
  have follow {module : Module} {node : Node} {ports : Ports} :
      ∀ next, module.successor? node ports = some next → next ∈ module.nodes :=
    fun _ hn => Module.successor?_mem hn
  have label {module : Module} {node : Node} (hm : module ∈ ctx.entity.modules)
      (hn : node ∈ module.nodes) : (ctx.lowerAction (some fun _ => Pure.pure ()) node.action
        node.params).Built ctx ctx.entity.assigned node.changesHealth :=
    label_built named node fun name ha => List.mem_append_right _
      (List.mem_flatMap.mpr ⟨module, hm, List.mem_filterMap.mpr ⟨node, hn, ha⟩⟩)
  induction h with
  | done => exact .pure _
  | cut => exact fallback_built _ _
  | @stop path module node _ role =>
    have idle : Visit.usesHealth ⟨module, node, path⟩ = false := by simp [Visit.usesHealth, role]
    rw [Walk.visits, List.any_cons, idle]
    exact .aside rfl
  | @pass path module node rest _ role _ ih =>
    have idle : Visit.usesHealth ⟨module, node, path⟩ = false := by
      rcases role with role | role <;> simp [Visit.usesHealth, role]
    rw [Walk.visits, List.any_cons, idle, Bool.false_or]
    refine .after (.aside rfl) fun _ _ => ?_
    split
    next => exact .after (.aside rfl) fun _ _ => ih hm follow
    next => exact ih hm follow
  | @branch path module node yes no _ role _ _ ihy ihn =>
    have own : Visit.usesHealth ⟨module, node, path⟩ = node.testsHealth := by
      simp [Visit.usesHealth, role]
    have other : Heading "else" := .opened (by decide)
    rw [Walk.visits, List.any_cons, own, List.any_append]
    refine .after (.aside rfl) fun _ _ => .bind (lowerConditionNode_built node) fun text ht => ?_
    have test : Heading ("if (" ++ text ++ ")") := .tests (lowerConditionNode_form named ht).tests rfl
    refine .bind (.block (by simpa using test) (ihy hm follow)) fun _ _ => ?_
    exact .block (by simpa using other) (ihn hm follow)
  | @act path module node rest _ role hc _ ih =>
    have own : Visit.usesHealth ⟨module, node, path⟩ = node.changesHealth := by
      simp [Visit.usesHealth, role]
    rw [Walk.visits, List.any_cons, own]
    refine .after (.aside rfl) fun _ _ => ?_
    rw [lowerAction_plain hc _ fun _ => Pure.pure ()]
    exact .bind (label hm (hs node rfl)) fun _ _ => ih hm follow
  | @refuse path module node _ _ rest _ role hc _ _ ih =>
    have own : Visit.usesHealth ⟨module, node, path⟩ = node.changesHealth := by
      simp [Visit.usesHealth, role]
    rw [Walk.visits, List.any_cons, own]
    refine .after (.aside rfl) fun _ _ => ?_
    rw [lowerAction_calls hc, bind_assoc]
    refine .bind (label hm (hs node rfl)) fun _ _ => ?_
    exact .after (fallback_built _ _) fun _ _ => ih hm follow
  | @call path module node _ called entry inlined rest _ role hc starts _ _ ihi ih =>
    have own : Visit.usesHealth ⟨module, node, path⟩ = node.changesHealth := by
      simp [Visit.usesHealth, role]
    obtain ⟨found, -, he⟩ := moduleStart_eq_ok_iff.mp starts
    have inner := ihi (List.mem_of_find?_eq_some found) fun n hn => by
      cases hn
      exact Module.entryNode?_mem he
    rw [Walk.visits, List.any_cons, own, List.any_append]
    refine .after (.aside rfl) fun _ _ => ?_
    rw [lowerAction_calls hc, bind_assoc]
    exact .bind (label hm (hs node rfl)) fun _ _ => .bind inner fun _ _ => ih hm follow

theorem traverse_built (named : ctx.Named) {module : Module} {start : Option Node} (budget : Nat)
    (hm : module ∈ ctx.entity.modules) (hs : ∀ node, start = some node → node ∈ module.nodes) :
    ∃ visits, (ctx.traverse budget [] module start).Makes visits ∧
      (ctx.traverse budget [] module start).Built ctx ctx.entity.assigned
        (visits.any Visit.usesHealth) := by
  have plans : ctx.Plans [] module start (ctx.plan budget [] module start) := planFrom_plans rfl
  exact ⟨_, plans.makes, plans.built named hm hs⟩

theorem runModule_built (named : ctx.Named) (budget : Nat) (id : String) :
    ∃ visits, (ctx.runModule budget id).Makes visits ∧
      (ctx.runModule budget id).Built ctx ctx.entity.assigned (visits.any Visit.usesHealth) := by
  unfold runModule planModule
  split
  next => exact ⟨[], fallback_makes _ _, fallback_built _ _⟩
  next module entry starts =>
    obtain ⟨found, -, he⟩ := moduleStart_eq_ok_iff.mp starts
    refine traverse_built named budget (List.mem_of_find?_eq_some found) fun node hn => ?_
    cases hn
    exact Module.entryNode?_mem he

theorem lowerStart_built (named : ctx.Named) (budget : Nat) :
    ∃ visits, (ctx.lowerStart budget).Makes visits ∧
      (ctx.lowerStart budget).Built ctx ctx.entity.assigned (visits.any Visit.usesHealth) := by
  unfold lowerStart
  split
  next => exact ⟨[], makes_nil (within_pure _), .pure _⟩
  next module found =>
    obtain ⟨visits, makes, built⟩ := traverse_built named budget (List.mem_of_find?_eq_some found)
      fun _ he => Module.entryNode?_mem he
    have said : (comment ("Module: " ++ module.label)).Makes [] :=
      makes_nil ((within_perform _).mpr rfl)
    exact ⟨[] ++ visits, said.bind fun _ => makes, .after (.comment _) fun _ _ => built⟩

/-- The code of an event's action, with that of the module that it runs. -/
theorem eventAction_built (named : ctx.Named) (budget : Nat) {event : Event}
    (he : event ∈ ctx.entity.events) :
    ∃ visits, (ctx.lowerAction (some (ctx.runModule budget)) event.action event.params).Makes visits ∧
      (ctx.lowerAction (some (ctx.runModule budget)) event.action event.params).Built ctx
        ctx.entity.assigned (event.asNode.changesHealth || visits.any Visit.usesHealth) := by
  have assigns : ∀ name ∈ event.asNode.assigned?, name ∈ ctx.entity.assigned := by
    intro name ha
    exact List.mem_append_left _ (List.mem_filterMap.mpr ⟨event, he, ha⟩)
  have label := label_built named event.asNode assigns
  cases hc : event.asNode.calledModule? with
  | none =>
    have plain : ctx.lowerAction (some (ctx.runModule budget)) event.action event.params =
        ctx.lowerAction (some fun _ => Pure.pure ()) event.action event.params :=
      lowerAction_plain hc _ _
    rw [plain]
    refine ⟨[], (label_isPlain _ _).makes, ?_⟩
    rw [List.any_nil, Bool.or_false]
    exact label
  | some id =>
    have calls : ctx.lowerAction (some (ctx.runModule budget)) event.action event.params =
        ctx.lowerAction (some fun _ => Pure.pure ()) event.action event.params >>= fun _ =>
          ctx.runModule budget id := lowerAction_calls hc _
    obtain ⟨visits, makes, built⟩ := runModule_built named budget id
    rw [calls]
    exact ⟨[] ++ visits, (label_isPlain _ _).makes.bind fun _ => makes,
      .bind label fun _ _ => built⟩

end Context

/-- The namespaces that calls of a service need. -/
def Context.needs (ctx : Context) (service : Service) : List String :=
  match ctx.config.serviceMode with
  | .context => []
  | .static => ctx.config.runtimeNamespace :: service.namespaces

/-- A call notes what its service needs, and nothing else. -/
theorem Context.call_effects (ctx : Context) (c : ServiceCall) :
    (ctx.call c).effects = (ctx.needs c.service).map .needNamespace := by
  unfold call needService needs
  cases ctx.config.serviceMode with
  | context => rfl
  | static => cases c <;> rfl

theorem Lowered.mapM_of_forall₂ {α β : Type} {l : List α} {f : α → Lowered β} {results : List β}
    (h : List.Forall₂ (fun a b => (f a).result = .ok b) l results) :
    l.mapM f = ⟨l.flatMap fun a => (f a).effects, .ok results⟩ := by
  induction h with
  | nil => rfl
  | @cons a b l results first _ ih =>
    rw [List.mapM_cons, bind_of_ok first, ih]
    simp [Bind.bind, Lowered.bind, Pure.pure, Lowered.pure]

theorem Context.cooldownGuard_effects (index : Nat) (event : Event) :
    (ctx.cooldownGuard index event).effects =
      if (ctx.cooldownTests index event).isEmpty then []
      else (ctx.needs .cooldown).map .needNamespace := by
  have gate (seconds : Binary64) : (do return [← ctx.call (.cooldown (ctx.cooldownKey index)
      (floatLiteral seconds))] : Lowered (List String)).effects =
        (ctx.needs .cooldown).map .needNamespace := by
    have called : (ctx.call (.cooldown (ctx.cooldownKey index) (floatLiteral seconds))).Succeeds :=
      Context.call_succeeds _
    obtain ⟨text, ht⟩ := called.ends
    rw [bind_of_ok ht, call_effects]
    exact List.append_nil _
  unfold cooldownGuard cooldownTests
  cases ((event.triggerParams.lookup "cooldown").getD .null).number? with
  | error fault => rfl
  | ok found =>
    rw [bind_of_ok (result_ofExcept _)]
    cases found with
    | none => rfl
    | some seconds =>
      dsimp only
      split
      next => exact gate seconds
      next => rfl

/-- What the tests around an event note: what their conditions do, and what a cooldown needs. -/
theorem Context.Guards.effects {index : Nat} {event : Event} {tests : List String}
    (h : ctx.Guards index event tests) :
    (ctx.guards index event).effects =
      event.conditions.flatMap (fun c => (ctx.lowerCondition c).effects) ++
        if (ctx.cooldownTests index event).isEmpty then []
        else (ctx.needs .cooldown).map .needNamespace := by
  obtain ⟨parts, hp, -⟩ := h
  have conditions : ctx.conditionGuard event =
      ⟨event.conditions.flatMap fun c => (ctx.lowerCondition c).effects,
        .ok (if event.conditions.isEmpty then [] else [combine event.usesOr parts])⟩ := by
    unfold conditionGuard
    split
    next none =>
      rw [List.isEmpty_iff.mp none]
      rfl
    next =>
      rw [mapM_of_forall₂ hp]
      simp [Bind.bind, Lowered.bind, Pure.pure, Lowered.pure]
  rw [← cooldownGuard_effects, guards, conditions, bind_of_ok rfl, effects_bind]
  cases (ctx.cooldownGuard index event).result <;> simp

/-- What a piece of code can be. -/
def Piece.Said (ctx : Context) (names : List String) : Piece → Prop
  | line text => Phrase ctx names text ∨
      ∃ c : ServiceCall, text = c.render ctx.config.serviceMode ++ ";"
  | openBlock (some text) => Heading text
  | _ => True

namespace Lowered

variable {α β : Type} {used : Bool} {x : Lowered α}

/-- All that is written is a known statement, a call or a known header. -/
theorem Built.said (h : x.Built ctx names used) : ∀ piece ∈ x.pieces, piece.Said ctx names := by
  have all : x.Within fun e => ∀ piece, e.piece? = some piece → piece.Said ctx names := by
    have written {piece : Piece} (hp : piece.Said ctx names) : (perform (.write piece)).Within
        fun e => ∀ piece, e.piece? = some piece → piece.Said ctx names := by
      refine (within_perform _).mpr fun other ho => ?_
      cases ho
      exact hp
    induction h with
    | pure => exact within_pure _
    | ofExcept => exact within_ofExcept _
    | @aside e he =>
      refine (within_perform _).mpr fun piece hp => ?_
      cases e with
      | write => cases he
      | _ => cases hp
    | health => exact ((within_perform _).mpr fun piece hp => by cases hp).bind fun _ => within_pure _
    | line phrase => exact written (.inl phrase)
    | comment => exact written trivial
    | suspend => exact written trivial
    | call c =>
      refine (within_bind _ _).mpr ⟨(Context.call_isSilent c).mono fun e he piece hp => ?_,
        fun text ht => ?_⟩
      · simp [Effect.isSilent, hp] at he
      · rw [Context.call_result ht]
        exact written (.inr ⟨c, rfl⟩)
    | bind _ _ ih ih' => exact (within_bind _ _).mpr ⟨ih, ih'⟩
    | @block header _ _ hh _ ih =>
      have opens : (Piece.openBlock header).Said ctx names := by
        cases header with
        | none => trivial
        | some text => exact hh text rfl
      exact (written opens).bind fun _ => ih.bind fun _ => written trivial
    | indented _ ih =>
      have enters : Piece.indent.Said ctx names := trivial
      exact (written enters).bind fun _ => ih.bind fun _ => written trivial
  intro piece hp
  obtain ⟨e, he, own⟩ := List.mem_filterMap.mp hp
  exact all e he piece own

/-- A call that stands as a statement. -/
theorem callStatement_effects (ctx : Context) (c : ServiceCall) :
    (do statement (← ctx.call c) : Lowered Unit).effects =
      (ctx.needs c.service).map .needNamespace ++
        [Effect.write (.line (c.render ctx.config.serviceMode ++ ";"))] := by
  have called : (ctx.call c).Succeeds := Context.call_succeeds c
  obtain ⟨text, ht⟩ := called.ends
  rw [bind_of_ok ht, Context.call_effects, Context.call_result ht]
  rfl

theorem perform_close_effects {body : Lowered Unit} {a : Unit} (h : body.result = .ok a) (e : Effect) :
    (do perform e; body; perform (.write .close) : Lowered Unit).effects =
      e :: (body.effects ++ [Effect.write .close]) := by
  rw [bind_of_ok (result_perform e), bind_of_ok h]
  rfl

/-- The health field is used exactly as told. -/
theorem Built.usesHealth (h : x.Built ctx names used) {a : α} (ha : x.result = .ok a) :
    x.effects.any Effect.isHealthUse = used := by
  have enclosed {body : Lowered Unit} {piece : Piece}
      (hr : (do perform (.write piece); body; perform (.write .close) : Lowered Unit).result = .ok ()) :
      body.result = .ok () ∧ (do perform (.write piece); body; perform (.write .close) :
        Lowered Unit).effects.any Effect.isHealthUse = body.effects.any Effect.isHealthUse := by
    obtain ⟨_, -, hr⟩ := bind_result_ok hr
    obtain ⟨_, hb, -⟩ := bind_result_ok hr
    rw [perform_close_effects hb]
    simp [hb, Effect.isHealthUse]
  induction h with
  | pure => rfl
  | ofExcept => rfl
  | @aside e he =>
    cases e with
    | useHealth => cases he
    | _ => rfl
  | health => rfl
  | line => rfl
  | comment => rfl
  | suspend => rfl
  | call c =>
    rw [callStatement_effects]
    simp [Effect.isHealthUse]
  | bind _ _ ih ih' =>
    obtain ⟨b, hb, hf⟩ := bind_result_ok ha
    rw [bind_of_ok hb, List.any_append, ih hb, ih' b hb hf]
  | block _ _ ih =>
    obtain ⟨hb, same⟩ := enclosed ha
    exact same.trans (ih hb)
  | indented _ ih =>
    obtain ⟨hb, same⟩ := enclosed ha
    exact same.trans (ih hb)

end Lowered

end GraphScript
