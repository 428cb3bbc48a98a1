import GraphScript.Proofs.Plan
import Mathlib.Data.List.TakeWhile

namespace GraphScript

/-- A node in its module. -/
structure Place where
  module : Module
  node : Node

/-- What can be observed of a run. -/
inductive Observation where
  | performed (place : Place)
  | tested (place : Place)
  /-- The code says that something is left out here. -/
  | diagnosed (reason : Fallback)

namespace Observation

/-- Whether the code ends a branch of the graph here. -/
def isCut : Observation → Bool
  | diagnosed reason => reason.endsBranch
  | _ => false

end Observation

/-- Whether a node runs a module. -/
def Node.runsModule (node : Node) : Bool :=
  node.action.bind ActionKind.ofName? == some .runModule

/-- What an action does by itself. To run a module is nothing beside the walk of the module. -/
def Place.acts (place : Place) : List Observation :=
  if place.node.runsModule then [] else [.performed place]

/-- Statements. What an action becomes is not looked into. -/
inductive Code where
  | skip
  | action (place : Place)
  | branch (place : Place) (yes no : Code)
  | diagnostic (reason : Fallback)
  | seq (first second : Code)

namespace Code

/-- The text of statements. A call of a module is only labelled, what it runs follows it. -/
def lower (ctx : Context) : Code → Lowered Unit
  | skip => pure ()
  | action place => ctx.lowerAction (some fun _ => pure ()) place.node.action place.node.params
  | branch place yes no => do
    let expression ← ctx.lowerConditionNode place.node
    Lowered.block (some ("if (" ++ expression ++ ")")) (yes.lower ctx)
    Lowered.block (some "else") (no.lower ctx)
  | diagnostic reason => Lowered.fallback ctx.entity.id reason
  | seq first second => do
    first.lower ctx
    second.lower ctx

/-- Writes statements. -/
def render (ctx : Context) (w : Writer) (code : Code) : Writer :=
  w.run (code.lower ctx).pieces

/-- Executes statements; `asked` counts the answers that are used up. -/
def execute (answers : Nat → Bool) : Code → Nat → List Observation × Nat
  | skip, asked => ([], asked)
  | action place, asked => (place.acts, asked)
  | branch place yes no, asked =>
    let (rest, used) :=
      if answers asked then yes.execute answers (asked + 1) else no.execute answers (asked + 1)
    (.tested place :: rest, used)
  | diagnostic reason, asked => ([.diagnosed reason], asked)
  | seq first second, asked =>
    let (before, asked) := first.execute answers asked
    let (after, asked) := second.execute answers asked
    (before ++ after, asked)

/-- What is observed when statements are executed from the start. -/
def observed (answers : Nat → Bool) (code : Code) : List Observation :=
  (code.execute answers 0).1

end Code

/-- Where a walk through graphs is: in each module that is running, the innermost first, the node
that comes next. -/
structure Position where
  frames : List (Module × Option Node)
  asked : Nat

namespace Context

/-- The module that a node runs, at its entry. -/
def entered (ctx : Context) (node : Node) : List (Module × Option Node) :=
  match node.calledModule?.bind ctx.entity.module? with
  | some called => [(called, called.entryNode?)]
  | none => []

/-- One step of a walk through graphs, with what is observed; after the last there is none. -/
def advance (ctx : Context) (answers : Nat → Bool) (p : Position) :
    Option (List Observation × Position) :=
  match p.frames with
  | [] => none
  | (_, none) :: callers => some ([], ⟨callers, p.asked⟩)
  | (module, some node) :: callers =>
    let next (ports : Ports) := (module, module.successor? node ports) :: callers
    match node.role with
    | .stop => some ([], ⟨callers, p.asked⟩)
    | .condition =>
      some ([.tested ⟨module, node⟩], ⟨next (if answers p.asked then .yes else .no), p.asked + 1⟩)
    | .action => some (Place.acts ⟨module, node⟩, ⟨ctx.entered node ++ next .flow, p.asked⟩)
    | _ => some ([], ⟨next .flow, p.asked⟩)

/-- A walk through graphs goes from one position to another, and this is observed on the way. -/
inductive Walks (ctx : Context) (answers : Nat → Bool) :
    Position → List Observation → Position → Prop
  | stay {p} : Walks ctx answers p [] p
  | step {p q r before after} : ctx.advance answers p = some (before, q) →
      Walks ctx answers q after r → Walks ctx answers p (before ++ after) r

variable {ctx : Context} {answers : Nat → Bool}

theorem Walks.trans {p q r : Position} {before after : List Observation}
    (h : ctx.Walks answers p before q) (h' : ctx.Walks answers q after r) :
    ctx.Walks answers p (before ++ after) r := by
  induction h with
  | stay => exact h'
  | step ha _ ih => rw [List.append_assoc]; exact .step ha (ih h')

/-- Executing code is like walking from some frames until the others are left: up to the first cut,
and to the end when there is none. -/
def Matches (ctx : Context) (answers : Nat → Bool) (frames callers : List (Module × Option Node))
    (code : Code) : Prop :=
  ∀ asked,
    (∃ q, ctx.Walks answers ⟨frames, asked⟩
      ((code.execute answers asked).1.takeWhile fun o => !o.isCut) q) ∧
    ((∀ o ∈ (code.execute answers asked).1, o.isCut = false) →
      ctx.Walks answers ⟨frames, asked⟩ (code.execute answers asked).1
        ⟨callers, (code.execute answers asked).2⟩)

theorem matches_skip (frames : List (Module × Option Node)) :
    ctx.Matches answers frames frames .skip :=
  fun _ => ⟨⟨_, .stay⟩, fun _ => .stay⟩

theorem matches_diagnostic {reason : Fallback} (h : reason.endsBranch)
    (frames callers : List (Module × Option Node)) :
    ctx.Matches answers frames callers (.diagnostic reason) := by
  intro asked
  have hcut : (Observation.diagnosed reason).isCut = true := h
  refine ⟨⟨⟨frames, asked⟩, ?_⟩, fun clean => ?_⟩
  · rw [Code.execute, List.takeWhile_cons_of_neg (by simp [hcut])]
    exact .stay
  · have := clean (.diagnosed reason) (by simp [Code.execute])
    rw [hcut] at this
    cases this

theorem Matches.seq {frames between callers : List (Module × Option Node)} {first second : Code}
    (h : ctx.Matches answers frames between first) (h' : ctx.Matches answers between callers second) :
    ctx.Matches answers frames callers (.seq first second) := by
  intro asked
  obtain ⟨cut, whole⟩ := h asked
  obtain ⟨cut', whole'⟩ := h' (first.execute answers asked).2
  simp only [Code.execute]
  refine ⟨?_, fun clean => ?_⟩
  · by_cases clean : ∀ o ∈ (first.execute answers asked).1, o.isCut = false
    · rw [List.takeWhile_append_of_pos fun o ho => by simp [clean o ho]]
      obtain ⟨q, hq⟩ := cut'
      exact ⟨q, (whole clean).trans hq⟩
    · rw [List.takeWhile_append, if_neg]
      · exact cut
      · intro hl
        have he := List.takeWhile_eq_self_iff.mp ((List.takeWhile_prefix _).eq_of_length hl)
        exact clean fun o ho => by simpa using he o ho
  · exact (whole fun o ho => clean o (List.mem_append_left _ ho)).trans
      (whole' fun o ho => clean o (List.mem_append_right _ ho))

/-- A step at which nothing is observed. -/
theorem Matches.after_silent {frames between callers : List (Module × Option Node)} {code : Code}
    (h : ∀ asked, ctx.advance answers ⟨frames, asked⟩ = some ([], ⟨between, asked⟩))
    (h' : ctx.Matches answers between callers code) : ctx.Matches answers frames callers code := by
  intro asked
  obtain ⟨⟨q, cut⟩, whole⟩ := h' asked
  exact ⟨⟨q, .step (h asked) cut⟩, fun clean => .step (h asked) (whole clean)⟩

theorem matches_action {frames between : List (Module × Option Node)} {place : Place}
    (h : ∀ asked, ctx.advance answers ⟨frames, asked⟩ = some (place.acts, ⟨between, asked⟩)) :
    ctx.Matches answers frames between (.action place) := by
  intro asked
  have walk : ctx.Walks answers ⟨frames, asked⟩ place.acts ⟨between, asked⟩ := by
    simpa using Walks.step (h asked) .stay
  have clean : ∀ o ∈ place.acts, (!o.isCut) = true := by
    intro o ho
    unfold Place.acts at ho
    split at ho
    next => cases ho
    next => cases List.mem_singleton.mp ho; rfl
  refine ⟨⟨⟨between, asked⟩, ?_⟩, fun _ => walk⟩
  rw [Code.execute, List.takeWhile_eq_self_iff.mpr clean]
  exact walk

theorem matches_branch {module : Module} {node : Node} {callers : List (Module × Option Node)}
    {yes no : Code} (role : node.role = .condition)
    (hy : ctx.Matches answers ((module, module.successor? node .yes) :: callers) callers yes)
    (hn : ctx.Matches answers ((module, module.successor? node .no) :: callers) callers no) :
    ctx.Matches answers ((module, some node) :: callers) callers
      (.branch ⟨module, node⟩ yes no) := by
  intro asked
  have step : ctx.advance answers ⟨(module, some node) :: callers, asked⟩ =
      some ([.tested ⟨module, node⟩],
        ⟨(module, module.successor? node (if answers asked then .yes else .no)) :: callers,
          asked + 1⟩) := by
    simp only [advance, role]
  cases ha : answers asked with
  | true =>
    obtain ⟨⟨q, cut⟩, whole⟩ := hy (asked + 1)
    simp only [ha, if_true] at step
    simp only [Code.execute, ha, if_true, List.mem_cons, forall_eq_or_imp]
    exact ⟨⟨q, .step step cut⟩, fun clean => .step step (whole clean.2)⟩
  | false =>
    obtain ⟨⟨q, cut⟩, whole⟩ := hn (asked + 1)
    simp only [ha, Bool.false_eq_true, if_false] at step
    simp only [Code.execute, ha, Bool.false_eq_true, if_false, List.mem_cons, forall_eq_or_imp]
    exact ⟨⟨q, .step step cut⟩, fun clean => .step step (whole clean.2)⟩

end Context

/-- The statements of a plan. -/
def Walk.code : Walk → Code
  | done => .skip
  | cut reason => .diagnostic reason
  | stop _ => .skip
  | pass _ rest => rest.code
  | perform v inlined rest => .seq (.action ⟨v.module, v.node⟩) (.seq inlined.code rest.code)
  | branch v yes no => .branch ⟨v.module, v.node⟩ yes.code no.code

namespace Context

variable {ctx : Context} {path : Path} {module : Module} {start : Option Node} {walk : Walk}

/-- A plan is lowered to its statements. -/
theorem Plans.sameCode (h : ctx.Plans path module start walk) :
    Lowered.SameCode (ctx.lowerWalk walk) (walk.code.lower ctx) := by
  induction h with
  | done => exact .refl _
  | cut _ => exact .refl _
  | stop => exact .skip rfl fun _ => pure ()
  | pass _ _ _ ih =>
    refine (Lowered.SameCode.skip rfl _).trans ?_
    split
    next => exact (Lowered.SameCode.skip rfl _).trans ih
    next => exact ih
  | branch _ _ _ _ hy hn =>
    refine (Lowered.SameCode.skip rfl _).trans (.bind (.refl _) fun expression => ?_)
    exact .bind (.block _ hy) fun _ => .block _ hn
  | act _ _ hc _ ih =>
    refine (Lowered.SameCode.skip rfl _).trans ?_
    rw [lowerAction_plain hc _ fun _ => pure ()]
    exact .bind (.refl _) fun _ => ih
  | @refuse path module node id reason rest _ _ hc _ _ ih =>
    refine (Lowered.SameCode.skip rfl _).trans ?_
    rw [lowerAction_calls hc, bind_assoc]
    exact .bind (.refl _) fun _ => .bind (.refl _) fun _ => ih
  | call _ _ hc _ _ _ hi ih =>
    refine (Lowered.SameCode.skip rfl _).trans ?_
    rw [lowerAction_calls hc, bind_assoc]
    exact .bind (.refl _) fun _ => .bind hi fun _ => ih

/-- The statements of a plan match the walk that it plans. -/
theorem Plans.code_matches (answers : Nat → Bool) (h : ctx.Plans path module start walk)
    (callers : List (Module × Option Node)) :
    ctx.Matches answers ((module, start) :: callers) callers walk.code := by
  induction h generalizing callers with
  | done => exact .after_silent (fun _ => rfl) (matches_skip callers)
  | cut ends => exact matches_diagnostic ends _ _
  | stop _ role =>
    exact .after_silent (fun _ => by simp only [advance, role]) (matches_skip callers)
  | pass _ role _ ih =>
    refine .after_silent (fun _ => ?_) (ih callers)
    rcases role with role | role <;> simp only [advance, role]
  | branch _ role _ _ hy hn => exact matches_branch role (hy callers) (hn callers)
  | act _ role hc _ ih =>
    refine .seq (matches_action fun _ => ?_) (.seq (matches_skip _) (ih callers))
    simp only [advance, role, entered, hc, Option.bind_none, List.nil_append]
  | @refuse path module node _ _ _ _ role _ hs _ ih =>
    have acted : ctx.Matches answers ((module, some node) :: callers)
        (ctx.entered node ++ (module, module.successor? node .flow) :: callers)
        (.action ⟨module, node⟩) :=
      matches_action fun _ => by simp only [advance, role]
    exact acted.seq (.seq (matches_diagnostic (moduleStart_error_endsBranch hs) _ _) (ih callers))
  | call _ role hc hs _ _ hi ih =>
    obtain ⟨found, -, hentry⟩ := moduleStart_eq_ok_iff.mp hs
    refine .seq (matches_action fun _ => ?_) (.seq (hi _) (ih callers))
    simp only [advance, role, entered, hc, Option.bind_some, found, hentry, List.singleton_append]

/-- Traversal keeps the meaning of the graph. There are statements that are written as the traversal
writes. For all answers, what happens when they are executed happens in the walk through the graph,
up to the first cut; and without a cut the walk ends after exactly that. -/
theorem traverse_keeps_meaning (ctx : Context) (budget : Nat) (path : Path) (module : Module)
    (start : Option Node) :
    ∃ code : Code,
      (∀ w : Writer, code.render ctx w = w.run (ctx.traverse budget path module start).pieces) ∧
      (code.lower ctx).result = (ctx.traverse budget path module start).result ∧
      ∀ answers : Nat → Bool,
        (∃ q, ctx.Walks answers ⟨[(module, start)], 0⟩
          ((code.observed answers).takeWhile fun o => !o.isCut) q) ∧
        ((∀ o ∈ code.observed answers, o.isCut = false) →
          ∃ asked, ctx.Walks answers ⟨[(module, start)], 0⟩ (code.observed answers) ⟨[], asked⟩) := by
  have plans : ctx.Plans path module start (ctx.plan budget path module start) :=
    planFrom_plans rfl
  have same := plans.sameCode
  refine ⟨(ctx.plan budget path module start).code, fun w => ?_, same.result.symm, ?_⟩
  · rw [Code.render, ← same.pieces]
    rfl
  · intro answers
    obtain ⟨cut, whole⟩ := plans.code_matches answers [] 0
    exact ⟨cut, fun clean => ⟨_, whole clean⟩⟩

end Context

end GraphScript
