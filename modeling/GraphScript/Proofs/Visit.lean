import GraphScript.Proofs.Plain

namespace GraphScript

/-- The visits of a plan, in order. -/
def Walk.visits : Walk → List Visit
  | done => []
  | cut _ => []
  | stop v => [v]
  | pass v rest => v :: rest.visits
  | perform v inlined rest => v :: (inlined.visits ++ rest.visits)
  | branch v yes no => v :: (yes.visits ++ no.visits)

namespace Lowered

variable {α β : Type}

/-- A lowering makes these visits, or the first of them when a fault ends it. -/
structure Makes (x : Lowered α) (visits : List Visit) : Prop where
  isPrefix : x.visits <+: visits
  all : ∀ a, x.result = .ok a → x.visits = visits

theorem visits_of_ok {x : Lowered α} {a : α} (h : x.result = .ok a) (f : α → Lowered β) :
    (x >>= f).visits = x.visits ++ (f a).visits := by
  rw [bind_of_ok h]
  exact List.filterMap_append

theorem visits_of_error {x : Lowered α} {fault : Fault} (h : x.result = .error fault)
    (f : α → Lowered β) : (x >>= f).visits = x.visits := by
  rw [bind_of_error h]
  rfl

theorem Makes.bind {x : Lowered α} {f : α → Lowered β} {first second : List Visit}
    (h : x.Makes first) (h' : ∀ a, (f a).Makes second) : (x >>= f).Makes (first ++ second) := by
  cases hx : x.result with
  | error fault =>
    refine ⟨?_, fun b hb => ?_⟩
    · rw [visits_of_error hx]
      exact h.isPrefix.trans (List.prefix_append _ _)
    · rw [bind_of_error hx] at hb
      cases hb
  | ok a =>
    have he := h.all a hx
    refine ⟨?_, fun b hb => ?_⟩
    · rw [visits_of_ok hx, he]
      exact List.prefix_append_right_inj _ |>.mpr (h' a).isPrefix
    · rw [visits_of_ok hx, he, (h' a).all b]
      rwa [bind_of_ok hx] at hb

theorem Makes.block {body : Lowered Unit} {visits : List Visit} (header : Option String)
    (h : body.Makes visits) : (block header body).Makes visits := by
  have opened : (perform (.write (.openBlock header))).Makes [] := ⟨List.prefix_rfl, fun _ _ => rfl⟩
  have closed : (perform (.write .close)).Makes [] := ⟨List.prefix_rfl, fun _ _ => rfl⟩
  have whole := opened.bind fun _ => h.bind fun _ => closed
  rwa [List.append_nil, List.nil_append] at whole

theorem makes_visit (v : Visit) : (perform (.visit v)).Makes [v] :=
  ⟨List.prefix_rfl, fun _ _ => rfl⟩

theorem visits_eq_nil_of_within {x : Lowered α} (h : x.Within fun e => e.visit? = none) :
    x.visits = [] :=
  List.filterMap_eq_nil_iff.mpr h

theorem makes_nil {x : Lowered α} (h : x.Within fun e => e.visit? = none) : x.Makes [] := by
  have hv := visits_eq_nil_of_within h
  exact ⟨hv ▸ List.prefix_rfl, fun _ _ => hv⟩

end Lowered

theorem Effect.visit?_of_isLeaf {config : Config} {e : Effect} (h : e.isLeaf config = true) : e.visit? = none := by
  cases e with
  | visit v => cases h
  | _ => rfl

theorem Lowered.IsPlain.within_visit {α : Type} {config : Config} {x : Lowered α}
    (h : x.IsPlain config) :
    x.Within fun e => e.visit? = none :=
  h.within (fun _ => Effect.visit?_of_isLeaf) (fun _ => rfl) rfl rfl

theorem Lowered.fallback_makes (entity : String) (reason : Fallback) :
    (fallback entity reason).Makes [] := by
  refine makes_nil ((within_bind _ _).mpr ⟨(within_perform _).mpr rfl, fun _ _ => ?_⟩)
  split
  next => exact (within_perform _).mpr rfl
  next => exact within_pure _

theorem Lowered.IsPlain.makes {α : Type} {config : Config} {x : Lowered α} (h : x.IsPlain config) :
    x.Makes [] :=
  makes_nil h.within_visit

namespace Context

variable {ctx : Context}

/-- The label of an action, without the module that it runs. -/
theorem label_isPlain (action : Option String) (params : Params) :
    (ctx.lowerAction (some fun _ => pure ()) action params).IsPlain ctx.config :=
  lowerAction_isPlain action params fun run hr id => by
    cases hr
    exact .pure _

/-- The code of a plan visits what the plan visits. -/
theorem Plans.makes {path : Path} {module : Module} {start : Option Node} {walk : Walk}
    (h : ctx.Plans path module start walk) : (ctx.lowerWalk walk).Makes walk.visits := by
  induction h with
  | done => exact ⟨List.prefix_rfl, fun _ _ => rfl⟩
  | cut => exact Lowered.fallback_makes _ _
  | stop => exact Lowered.makes_visit _
  | pass _ _ _ ih =>
    refine (Lowered.makes_visit _).bind fun _ => ?_
    split
    next => exact (Lowered.makes_nil ((Lowered.within_perform _).mpr rfl)).bind fun _ => ih
    next => exact ih
  | branch _ _ _ _ hy hn =>
    refine (Lowered.makes_visit _).bind fun _ => ?_
    refine (lowerConditionNode_isSilent _).isPlain.makes.bind fun _ => ?_
    exact (hy.block _).bind fun _ => hn.block _
  | act _ _ hc _ ih =>
    refine (Lowered.makes_visit _).bind fun _ => ?_
    rw [lowerAction_plain hc _ fun _ => pure ()]
    exact (label_isPlain _ _).makes.bind fun _ => ih
  | refuse _ _ hc _ _ ih =>
    refine (Lowered.makes_visit _).bind fun _ => ?_
    rw [lowerAction_calls hc, bind_assoc]
    exact (label_isPlain _ _).makes.bind fun _ => (Lowered.fallback_makes _ _).bind fun _ => ih
  | call _ _ hc _ _ _ hi ih =>
    refine (Lowered.makes_visit _).bind fun _ => ?_
    rw [lowerAction_calls hc, bind_assoc]
    exact (label_isPlain _ _).makes.bind fun _ => hi.bind fun _ => ih

end Context

end GraphScript
