import GraphScript.Lowering.Walk
import GraphScript.Proofs.Lowered

namespace GraphScript

namespace Fallback

/-- Whether a decision ends a branch of a walk. -/
def endsBranch : Fallback → Bool
  | cycle _ _ _ => true
  | depthLimit _ _ => true
  | budgetExhausted _ _ => true
  | missingModule _ => true
  | recursiveModule _ => true
  | missingEntry _ => true
  | _ => false

end Fallback

/-- The step that a visit adds to its path. -/
def Visit.step (v : Visit) : String × String :=
  (v.module.id, v.node.id)

/-- The path with which a walk goes on after a visit. -/
def Visit.pathAfter (v : Visit) : Path :=
  v.path ++ [v.step]

/-- What the rounds keep does not depend on the notes. -/
theorem settleNoting_result {σ : Type} {form : Form σ σ} {rounds : Nat} {data kept : Params}
    (h : (settleNoting form rounds data).result = .ok kept) :
    kept = (settle form.fields rounds data).2 := by
  induction rounds generalizing data with
  | zero =>
    cases h
    rfl
  | succ rounds ih =>
    unfold settleNoting at h
    obtain ⟨_, -, h⟩ := Lowered.bind_result_ok h
    unfold settle
    cases bad : malformed form.fields data with
    | nil =>
      rw [bad] at h
      cases h
      rfl
    | cons first rest =>
      rw [bad] at h
      obtain ⟨_, -, h⟩ := Lowered.bind_result_ok h
      exact ih h

theorem readParams_result {σ : Type} {form : Form σ σ} {raw : Params} {p : σ}
    (h : (readParams form raw).result = .ok p) : p = (form.coerce raw).2 := by
  obtain ⟨data, hd, h⟩ := Lowered.bind_result_ok h
  cases h
  rw [settleNoting_result hd]
  rfl

theorem ActionKind.ofName?_empty : ofName? "" = none := by
  decide +kernel

theorem Node.calledModule?_eq_some {node : Node} {id : String} (h : node.calledModule? = some id) :
    ∃ name, node.action = some name ∧ ActionKind.ofName? name = some .runModule ∧
      id = (RunModuleParams.form.coerce node.params).2.moduleId ∧ id ≠ "" := by
  unfold calledModule? at h
  split at h
  next hk =>
    obtain ⟨name, ha, hn⟩ := Option.bind_eq_some_iff.mp hk
    simp only at h
    split at h
    next => cases h
    next hid =>
      cases h
      exact ⟨name, ha, hn, rfl, hid⟩
  next => cases h

namespace Context

/-- An action that runs a module is lowered as its label, followed by what it runs. -/
theorem lowerAction_calls {ctx : Context} {node : Node} {id : String}
    (h : node.calledModule? = some id) (run : String → Lowered Unit) :
    ctx.lowerAction (some run) node.action node.params =
      (do ctx.lowerAction (some fun _ => pure ()) node.action node.params; run id) := by
  obtain ⟨name, ha, hk, hid, hne⟩ := Node.calledModule?_eq_some h
  have hname : name ≠ "" := by
    rintro rfl
    cases hk
  simp only [lowerAction, ha, hname, if_false, hk, lowerActionKind, bind_assoc]
  refine congrArg _ (funext fun _ => ?_)
  refine Lowered.bind_congr_ok fun p hp => ?_
  have hm : p.moduleId = id := by rw [readParams_result hp, hid]
  simp only [lowerRunModule, hm, if_neg hne, bind_assoc, pure_bind]

/-- For any other action it does not matter how modules are run. -/
theorem lowerAction_plain {ctx : Context} {node : Node} (h : node.calledModule? = none)
    (run other : String → Lowered Unit) :
    ctx.lowerAction (some run) node.action node.params =
      ctx.lowerAction (some other) node.action node.params := by
  unfold lowerAction
  split
  next => rfl
  next name ha =>
    split
    next => rfl
    next =>
    split
    next => rfl
    next kind hk =>
      refine congrArg _ (funext fun _ => ?_)
      cases kind with
      | runModule =>
        refine Lowered.bind_congr_ok fun p hp => ?_
        have hm : p.moduleId = "" := by
          rw [readParams_result hp]
          simpa [Node.calledModule?, ha, hk] using h
        simp only [lowerRunModule, hm, if_true]
      | _ => rfl

/-- Whether a walk may go from a path to a node: the node is not on the path, and the path has room. -/
def Admits (ctx : Context) (v : Visit) : Prop :=
  v.step ∉ v.path ∧ v.path.length < ctx.config.maxTraversalDepth

/-- The plans of walks that start at a node after a path. -/
inductive Plans (ctx : Context) : Path → Module → Option Node → Walk → Prop
  | done {path module} : Plans ctx path module none .done
  | cut {path module node reason} : reason.endsBranch →
      Plans ctx path module (some node) (.cut reason)
  | stop {path module node} : ctx.Admits ⟨module, node, path⟩ → node.role = .stop →
      Plans ctx path module (some node) (.stop ⟨module, node, path⟩)
  | pass {path module node rest} : ctx.Admits ⟨module, node, path⟩ →
      node.role = .entry ∨ node.role = .other →
      Plans ctx (path ++ [(module.id, node.id)]) module (module.successor? node .flow) rest →
      Plans ctx path module (some node) (.pass ⟨module, node, path⟩ rest)
  | branch {path module node yes no} : ctx.Admits ⟨module, node, path⟩ → node.role = .condition →
      Plans ctx (path ++ [(module.id, node.id)]) module (module.successor? node .yes) yes →
      Plans ctx (path ++ [(module.id, node.id)]) module (module.successor? node .no) no →
      Plans ctx path module (some node) (.branch ⟨module, node, path⟩ yes no)
  | act {path module node rest} : ctx.Admits ⟨module, node, path⟩ → node.role = .action →
      node.calledModule? = none →
      Plans ctx (path ++ [(module.id, node.id)]) module (module.successor? node .flow) rest →
      Plans ctx path module (some node) (.perform ⟨module, node, path⟩ .done rest)
  | refuse {path module node id reason rest} : ctx.Admits ⟨module, node, path⟩ →
      node.role = .action → node.calledModule? = some id →
      ctx.moduleStart (path ++ [(module.id, node.id)]) id = .error reason →
      Plans ctx (path ++ [(module.id, node.id)]) module (module.successor? node .flow) rest →
      Plans ctx path module (some node) (.perform ⟨module, node, path⟩ (.cut reason) rest)
  | call {path module node id called entry inlined rest} : ctx.Admits ⟨module, node, path⟩ →
      node.role = .action → node.calledModule? = some id →
      ctx.moduleStart (path ++ [(module.id, node.id)]) id = .ok (called, entry) →
      Plans ctx (path ++ [(module.id, node.id)]) called (some entry) inlined →
      Plans ctx (path ++ [(module.id, node.id)]) module (module.successor? node .flow) rest →
      Plans ctx path module (some node) (.perform ⟨module, node, path⟩ inlined rest)

/-- Why a module cannot be run: it is not there, it is run already, or it has no entry. -/
theorem moduleStart_error_cases {ctx : Context} {path : Path} {id : String} {reason : Fallback}
    (h : ctx.moduleStart path id = .error reason) :
    reason = .missingModule id ∨ reason = .recursiveModule id ∨ reason = .missingEntry id := by
  unfold moduleStart at h
  split at h
  next => cases h; exact .inl rfl
  next =>
    split at h
    next => cases h; exact .inr (.inl rfl)
    next =>
      split at h
      next => cases h; exact .inr (.inr rfl)
      next => cases h

theorem moduleStart_error_endsBranch {ctx : Context} {path : Path} {id : String} {reason : Fallback}
    (h : ctx.moduleStart path id = .error reason) : reason.endsBranch := by
  rcases moduleStart_error_cases h with rfl | rfl | rfl <;> rfl

/-- The modules that can be run from a place are those of the entity that have an entry and are not
on the path; what was run before and is left again does not matter. -/
theorem moduleStart_eq_ok_iff {ctx : Context} {path : Path} {id : String} {module : Module}
    {entry : Node} : ctx.moduleStart path id = .ok (module, entry) ↔
      ctx.entity.module? id = some module ∧ module.id ∉ path.map Prod.fst ∧
        module.entryNode? = some entry := by
  have onPath (m : Module) :
      (path.any fun step => step.1 == m.id) = true ↔ m.id ∈ path.map Prod.fst := by
    simp [List.any_eq_true]
  unfold moduleStart
  cases ctx.entity.module? id with
  | none => simp
  | some found =>
    simp only [onPath]
    by_cases hm : found.id ∈ path.map Prod.fst
    · simp only [if_pos hm, reduceCtorEq, Option.some.injEq, false_iff]
      rintro ⟨rfl, fresh, -⟩
      exact fresh hm
    · simp only [if_neg hm]
      cases he : found.entryNode? with
      | none =>
        simp only [reduceCtorEq, Option.some.injEq, false_iff]
        rintro ⟨rfl, -, hs⟩
        cases he.symm.trans hs
      | some start =>
        simp only [Except.ok.injEq, Prod.mk.injEq, Option.some.injEq]
        constructor
        · rintro ⟨rfl, rfl⟩
          exact ⟨rfl, hm, he⟩
        · rintro ⟨rfl, -, hs⟩
          exact ⟨rfl, Option.some.inj (he.symm.trans hs)⟩

/-- Every plan keeps to the rules, whatever the budget. -/
theorem planFrom_plans {ctx : Context} {depth budget : Nat} {path : Path} {module : Module}
    {start : Option Node} (room : depth = ctx.config.maxTraversalDepth - path.length) :
    ctx.Plans path module start (ctx.planFrom depth budget path module start).1 := by
  induction depth generalizing budget path module start with
  | zero =>
    cases start with
    | none => rw [planFrom]; exact .done
    | some node =>
      rw [planFrom]
      split
      next => exact .cut rfl
      next => exact .cut rfl
  | succ depth ih =>
    cases start with
    | none => rw [planFrom]; exact .done
    | some node =>
      have below : depth = ctx.config.maxTraversalDepth -
          (path ++ [(module.id, node.id)]).length := by
        rw [List.length_append, List.length_singleton]
        omega
      rw [planFrom.eq_def]
      simp only
      split
      next => exact .cut rfl
      next fresh =>
        have admitted : ctx.Admits ⟨module, node, path⟩ :=
          ⟨fun hm => fresh (List.contains_iff_mem.mpr hm), by change path.length < _; omega⟩
        cases budget with
        | zero => exact .cut rfl
        | succ budget =>
          cases role : node.role with
          | stop => exact .stop admitted role
          | condition => exact .branch admitted role (ih below) (ih below)
          | entry => exact .pass admitted (.inl role) (ih below)
          | other => exact .pass admitted (.inr role) (ih below)
          | action =>
            cases hc : node.calledModule? with
            | none => exact .act admitted role hc (ih below)
            | some id =>
              cases hs : ctx.moduleStart (path ++ [(module.id, node.id)]) id with
              | error reason =>
                simp only [hs]
                exact .refuse admitted role hc hs (ih below)
              | ok found =>
                obtain ⟨called, entry⟩ := found
                simp only [hs]
                exact .call admitted role hc hs (ih below) (ih below)

end Context

end GraphScript
