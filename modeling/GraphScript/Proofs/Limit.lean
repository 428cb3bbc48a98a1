import GraphScript.Proofs.Visit

namespace GraphScript

namespace Context

/-- Plans a walk from a node, as if there were no budget. -/
def wholePlan (ctx : Context) : Nat → Path → Module → Option Node → Walk
  | _, _, _, none => .done
  | depth, path, module, some node =>
    let step := (module.id, node.id)
    if path.contains step then .cut (.cycle node.id module.id module.label)
    else
      match depth with
      | 0 => .cut (.depthLimit ctx.config.maxTraversalDepth module.id)
      | depth + 1 =>
        let visit : Visit := ⟨module, node, path⟩
        let path := path ++ [step]
        match node.role with
        | .stop => .stop visit
        | .condition =>
          .branch visit (wholePlan ctx depth path module (module.successor? node .yes))
            (wholePlan ctx depth path module (module.successor? node .no))
        | .action =>
          let inlined :=
            match node.calledModule? with
            | none => .done
            | some id =>
              match ctx.moduleStart path id with
              | .error reason => .cut reason
              | .ok (called, entry) => wholePlan ctx depth path called (some entry)
          .perform visit inlined (wholePlan ctx depth path module (module.successor? node .flow))
        | _ => .pass visit (wholePlan ctx depth path module (module.successor? node .flow))

end Context

namespace Walk

/-- The end of a branch for which a node was left, under a budget that is spent. -/
def exhausted (cap : Nat) (v : Visit) : Walk :=
  .cut (.budgetExhausted cap v.module.id)

/-- Cuts a plan where a budget is spent, and tells what is left of it. -/
def limit (cap : Nat) : Walk → Nat → Walk × Nat
  | done, budget => (.done, budget)
  | cut reason, budget => (.cut reason, budget)
  | stop v, 0 => (exhausted cap v, 0)
  | stop v, budget + 1 => (.stop v, budget)
  | pass v _, 0 => (exhausted cap v, 0)
  | pass v rest, budget + 1 =>
    let (rest, budget) := rest.limit cap budget
    (.pass v rest, budget)
  | perform v _ _, 0 => (exhausted cap v, 0)
  | perform v inlined rest, budget + 1 =>
    let (inlined, budget) := inlined.limit cap budget
    let (rest, budget) := rest.limit cap budget
    (.perform v inlined rest, budget)
  | branch v _ _, 0 => (exhausted cap v, 0)
  | branch v yes no, budget + 1 =>
    let (yes, budget) := yes.limit cap budget
    let (no, budget) := no.limit cap budget
    (.branch v yes no, budget)

/-- What is left of a budget is what was there less the nodes of the plan. -/
theorem limit_left (cap : Nat) (w : Walk) (budget : Nat) :
    (w.limit cap budget).2 = budget - w.visits.length := by
  induction w generalizing budget with
  | done => simp [limit, visits]
  | cut => simp [limit, visits]
  | stop v => cases budget <;> simp [limit, visits]
  | pass v rest ih =>
    cases budget with
    | zero => simp [limit]
    | succ budget => simp [limit, visits, ih]
  | perform v inlined rest hi hr =>
    cases budget with
    | zero => simp [limit]
    | succ budget =>
      simp only [limit, visits, hr, hi, List.length_cons, List.length_append]
      omega
  | branch v yes no hy hn =>
    cases budget with
    | zero => simp [limit]
    | succ budget =>
      simp only [limit, visits, hn, hy, List.length_cons, List.length_append]
      omega

/-- A plan for which the budget is enough is not cut. -/
theorem limit_of_enough {cap : Nat} {w : Walk} {budget : Nat} (h : w.visits.length ≤ budget) :
    (w.limit cap budget).1 = w := by
  induction w generalizing budget with
  | done => rfl
  | cut => rfl
  | stop v =>
    cases budget with
    | zero => simp [visits] at h
    | succ budget => rfl
  | pass v rest ih =>
    cases budget with
    | zero => simp [visits] at h
    | succ budget => simp [limit, ih (by simpa [visits] using h)]
  | perform v inlined rest hi hr =>
    cases budget with
    | zero => simp [visits] at h
    | succ budget =>
      simp only [visits, List.length_cons, List.length_append] at h
      have first : inlined.visits.length ≤ budget := by omega
      have second : rest.visits.length ≤ budget - inlined.visits.length := by omega
      simp only [limit, limit_left, hi first, hr second]
  | branch v yes no hy hn =>
    cases budget with
    | zero => simp [visits] at h
    | succ budget =>
      simp only [visits, List.length_cons, List.length_append] at h
      have first : yes.visits.length ≤ budget := by omega
      have second : no.visits.length ≤ budget - yes.visits.length := by omega
      simp only [limit, limit_left, hy first, hn second]

/-- No branch of a plan ends for lack of budget. -/
def isWhole : Walk → Bool
  | done => true
  | cut (.budgetExhausted _ _) => false
  | cut _ => true
  | stop _ => true
  | pass _ rest => rest.isWhole
  | perform _ inlined rest => inlined.isWhole && rest.isWhole
  | branch _ yes no => yes.isWhole && no.isWhole

end Walk

namespace Context

variable {ctx : Context}

/-- Planning under a budget cuts the whole plan. -/
theorem planFrom_eq_limit (ctx : Context) (depth budget : Nat) (path : Path) (module : Module)
    (start : Option Node) :
    ctx.planFrom depth budget path module start =
      (ctx.wholePlan depth path module start).limit ctx.config.maxEmittedNodes budget := by
  induction depth generalizing budget path module start with
  | zero =>
    cases start with
    | none => rw [planFrom, wholePlan]; rfl
    | some node =>
      rw [planFrom, wholePlan]
      split
      next => rfl
      next => rfl
  | succ depth ih =>
    cases start with
    | none => rw [planFrom, wholePlan]; rfl
    | some node =>
      rw [planFrom.eq_def, wholePlan.eq_def]
      simp only
      split
      next => rfl
      next =>
        cases budget with
        | zero =>
          cases node.role <;> rfl
        | succ budget =>
          cases role : node.role with
          | stop => rfl
          | condition => simp only [ih, Walk.limit]
          | entry => simp only [ih, Walk.limit]
          | other => simp only [ih, Walk.limit]
          | action =>
            cases hc : node.calledModule? with
            | none => simp only [ih, Walk.limit]
            | some id =>
              cases hs : ctx.moduleStart (path ++ [(module.id, node.id)]) id with
              | error reason => simp only [hs, ih, Walk.limit]
              | ok found => simp only [hs, ih, Walk.limit]

theorem wholePlan_plans {depth : Nat} {path : Path} {module : Module} {start : Option Node}
    (room : depth = ctx.config.maxTraversalDepth - path.length) :
    ctx.Plans path module start (ctx.wholePlan depth path module start) := by
  have h : ctx.Plans path module start (ctx.planFrom depth
      (ctx.wholePlan depth path module start).visits.length path module start).1 :=
    planFrom_plans room
  rwa [planFrom_eq_limit, Walk.limit_of_enough (Nat.le_refl _)] at h

theorem moduleStart_error_isWhole {path : Path} {id : String} {reason : Fallback}
    (h : ctx.moduleStart path id = .error reason) : (Walk.cut reason).isWhole = true := by
  rcases moduleStart_error_cases h with rfl | rfl | rfl <;> rfl

theorem wholePlan_isWhole (depth : Nat) (path : Path) (module : Module) (start : Option Node) :
    (ctx.wholePlan depth path module start).isWhole = true := by
  induction depth generalizing path module start with
  | zero =>
    cases start with
    | none => rw [wholePlan]; rfl
    | some node =>
      rw [wholePlan]
      split
      next => rfl
      next => rfl
  | succ depth ih =>
    cases start with
    | none => rw [wholePlan]; rfl
    | some node =>
      rw [wholePlan.eq_def]
      simp only
      split
      next => rfl
      next =>
        cases role : node.role with
        | stop => rfl
        | condition => simp only [Walk.isWhole, ih, Bool.and_self]
        | entry => simp only [Walk.isWhole, ih]
        | other => simp only [Walk.isWhole, ih]
        | action =>
          cases hc : node.calledModule? with
          | none => simp only [Walk.isWhole, ih, Bool.and_self]
          | some id =>
            cases hs : ctx.moduleStart (path ++ [(module.id, node.id)]) id with
            | error reason =>
              simp only [hs, Walk.isWhole, ih, Bool.and_true]
              exact moduleStart_error_isWhole hs
            | ok found => simp only [hs, Walk.isWhole, ih, Bool.and_self]

end Context

end GraphScript
