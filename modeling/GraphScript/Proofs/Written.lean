import GraphScript.Proofs.Compile
import GraphScript.Proofs.Statement

namespace GraphScript

open Lowered

/-- Whether an action is named at all. -/
def Node.acts (node : Node) : Bool :=
  node.action.getD "" != ""

/-- Whether the action of a node is to wait. -/
def Node.waits (node : Node) : Bool :=
  node.action.bind ActionKind.ofName? == some .wait

def Visit.waits (v : Visit) : Bool :=
  v.node.role == .action && v.node.waits

theorem Visit.waits_of_action {v : Visit} (h : v.node.role = .action) : v.waits = v.node.waits := by
  simp [waits, h]

theorem Visit.waits_of_other {v : Visit} (h : v.node.role ≠ .action) : v.waits = false := by
  simp [waits, h]

theorem fallback_writes {ctx : Context} (entity : String) (reason : Fallback) :
    (fallback entity reason).Writes ctx false false := by
  refine writes_after rfl fun _ _ => ?_
  split
  next => exact writes_comment _
  next => exact IsSilent.writes (within_pure ())

namespace Context

variable {ctx : Context}

/-- An action writes something if it is named, and waits if that is what it is for. -/
theorem label_writes (named : ctx.Named) (node : Node) :
    (ctx.lowerAction (some fun _ => Pure.pure ()) node.action node.params).Writes ctx node.waits
      node.acts := by
  unfold lowerAction Node.waits Node.acts
  cases node.action with
  | none => exact IsSilent.writes (within_pure ())
  | some name =>
    by_cases empty : name = ""
    · subst empty
      exact IsSilent.writes (within_pure ())
    · have given : (some name).getD "" != "" := by simpa using empty
      simp only [if_neg empty, given, Option.bind_some]
      cases ActionKind.ofName? name with
      | none => exact writes_after rfl fun _ _ => writes_comment _
      | some kind =>
        refine (perform_isSilent rfl).writes_bind fun _ _ => ?_
        rw [Option.some_beq_some]
        exact lowerActionKind_writes named node.params kind

/-- A walk that starts at a node of the entity waits where it visits an action that does. -/
theorem Plans.writes (named : ctx.Named) {path : Path} {module : Module} {start : Option Node}
    {walk : Walk} (h : ctx.Plans path module start walk) (hm : module ∈ ctx.entity.modules)
    (hs : ∀ node, start = some node → node ∈ module.nodes) :
    (ctx.lowerWalk walk).Writes ctx (walk.visits.any Visit.waits) false := by
  have follow {module : Module} {node : Node} {ports : Ports} :
      ∀ next, module.successor? node ports = some next → next ∈ module.nodes :=
    fun _ hn => Module.successor?_mem hn
  -- what is visited is in the module that is walked, so its keys are among those of the entity
  induction h with
  | done => exact IsSilent.writes (within_pure ())
  | cut => exact fallback_writes _ _
  | @stop path module node _ role =>
    have idle : Visit.waits ⟨module, node, path⟩ = false := Visit.waits_of_other (by simp [role])
    rw [Walk.visits, List.any_cons, idle]
    exact fun _ _ => ⟨.empty, ⟨rfl, trivial, rfl⟩, fun hf => by cases hf⟩
  | @pass path module node rest _ role _ ih =>
    have idle : Visit.waits ⟨module, node, path⟩ = false :=
      Visit.waits_of_other (by rcases role with role | role <;> simp [role])
    rw [Walk.visits, List.any_cons, idle, Bool.false_or]
    refine writes_after rfl fun _ _ => ?_
    split
    next => exact (perform_isSilent rfl).writes_bind fun _ _ => ih hm follow
    next => exact ih hm follow
  | @branch path module node yes no _ role _ _ ihy ihn =>
    have idle : Visit.waits ⟨module, node, path⟩ = false := Visit.waits_of_other (by simp [role])
    have other : ctx.Ordinary "else" := ordinary_join _ [] (by decide) rfl
    rw [Walk.visits, List.any_cons, idle, Bool.false_or, List.any_append]
    refine writes_after rfl fun _ _ => ?_
    refine (lowerConditionNode_isSilent node).writes_bind fun text ht => ?_
    have form := (lowerConditionNode_form named ht).mono (testKeys_of_node hm (hs node rfl) role)
    have test := ordinary_test form.expression
    refine (Writes.block (by simpa using test) (ihy hm follow)).bind fun _ _ => ?_
    exact Writes.block (by simpa using other) (ihn hm follow)
  | @act path module node rest _ role hc _ ih =>
    have own : Visit.waits ⟨module, node, path⟩ = node.waits := Visit.waits_of_action role
    rw [Walk.visits, List.any_cons, own]
    refine writes_after rfl fun _ _ => ?_
    rw [lowerAction_plain hc _ fun _ => Pure.pure ()]
    exact (label_writes named node).bare.bind fun _ _ => ih hm follow
  | @refuse path module node _ _ rest _ role hc _ _ ih =>
    have own : Visit.waits ⟨module, node, path⟩ = node.waits := Visit.waits_of_action role
    rw [Walk.visits, List.any_cons, own]
    refine writes_after rfl fun _ _ => ?_
    rw [lowerAction_calls hc, bind_assoc]
    refine (label_writes named node).bare.bind fun _ _ => ?_
    exact (fallback_writes _ _).bind fun _ _ => ih hm follow
  | @call path module node _ called entry inlined rest _ role hc starts _ _ ihi ih =>
    have own : Visit.waits ⟨module, node, path⟩ = node.waits := Visit.waits_of_action role
    obtain ⟨found, -, he⟩ := moduleStart_eq_ok_iff.mp starts
    have inner := ihi (List.mem_of_find?_eq_some found) fun n hn => by
      cases hn
      exact Module.entryNode?_mem he
    rw [Walk.visits, List.any_cons, own, List.any_append]
    refine writes_after rfl fun _ _ => ?_
    rw [lowerAction_calls hc, bind_assoc]
    exact (label_writes named node).bare.bind fun _ _ => inner.bind fun _ _ => ih hm follow

/-- What a walk writes, said of the visits that were made. -/
theorem Plans.writes_visits (named : ctx.Named) {path : Path} {module : Module}
    {start : Option Node} {walk : Walk} (h : ctx.Plans path module start walk)
    (hm : module ∈ ctx.entity.modules) (hs : ∀ node, start = some node → node ∈ module.nodes) :
    (ctx.lowerWalk walk).Writes ctx ((ctx.lowerWalk walk).visits.any Visit.waits) false := by
  intro a ha
  rw [h.makes.all a ha]
  exact h.writes named hm hs a ha

theorem runModule_writes (named : ctx.Named) (budget : Nat) (id : String) :
    (ctx.runModule budget id).Writes ctx ((ctx.runModule budget id).visits.any Visit.waits)
      false := by
  unfold runModule planModule
  split
  next reason _ =>
    intro a ha
    have made : (ctx.lowerWalk (.cut reason)).visits = [] := (fallback_makes _ _).all a ha
    rw [made]
    exact fallback_writes _ _ a ha
  next module entry starts =>
    obtain ⟨found, -, he⟩ := moduleStart_eq_ok_iff.mp starts
    refine Plans.writes_visits named (planFrom_plans rfl) (List.mem_of_find?_eq_some found) ?_
    intro node hn
    cases hn
    exact Module.entryNode?_mem he

theorem lowerStart_writes (named : ctx.Named) (budget : Nat) :
    (ctx.lowerStart budget).Writes ctx ((ctx.lowerStart budget).visits.any Visit.waits) false := by
  unfold lowerStart
  split
  next => exact IsSilent.writes (within_pure ())
  next module found =>
    intro a ha
    obtain ⟨_, hc, hr⟩ := bind_result_ok ha
    have said : (comment ("Module: " ++ module.label)).visits = [] := rfl
    rw [visits_of_ok hc, said, List.nil_append]
    refine (writes_comment _).bind (fun _ _ => ?_) a ha
    exact Plans.writes_visits named (planFrom_plans rfl) (List.mem_of_find?_eq_some found)
      fun _ he => Module.entryNode?_mem he

/-- What an event writes: it waits if its action does, or if the module that it runs does. -/
theorem eventAction_writes (named : ctx.Named) (budget : Nat) (event : Event) :
    (ctx.lowerAction (some (ctx.runModule budget)) event.action event.params).Writes ctx
      (event.asNode.waits ||
        (ctx.lowerAction (some (ctx.runModule budget)) event.action event.params).visits.any
          Visit.waits) event.asNode.acts := by
  have label := label_writes named event.asNode
  cases hc : event.asNode.calledModule? with
  | none =>
    have plain : ctx.lowerAction (some (ctx.runModule budget)) event.action event.params =
        ctx.lowerAction (some fun _ => Pure.pure ()) event.action event.params :=
      lowerAction_plain hc _ _
    rw [plain]
    intro a ha
    rw [(label_isPlain _ _).makes.all a ha, List.any_nil, Bool.or_false]
    exact label a ha
  | some id =>
    have calls : ctx.lowerAction (some (ctx.runModule budget)) event.action event.params =
        ctx.lowerAction (some fun _ => Pure.pure ()) event.action event.params >>= fun _ =>
          ctx.runModule budget id := lowerAction_calls hc _
    rw [calls]
    intro a ha
    obtain ⟨_, hl, hr⟩ := bind_result_ok ha
    rw [visits_of_ok hl, (label_isPlain _ _).makes.all _ hl, List.nil_append]
    exact label.bind (fun _ _ => runModule_writes named budget id) a ha

end Context

end GraphScript
