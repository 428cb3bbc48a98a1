import GraphScript.Proofs.Bodies
import GraphScript.Proofs.Limit
import GraphScript.Proofs.Setting
import Mathlib.Tactic.Choose

namespace GraphScript

/-- Whether an effect tells that a branch ended for lack of budget. -/
def Effect.isExhaustion : Effect → Bool
  | fallback _ (.budgetExhausted _ _) => true
  | _ => false

theorem Effect.isExhaustion_of_isLeaf {config : Config} {e : Effect} (h : e.isLeaf config = true) :
    e.isExhaustion = false := by
  cases e with
  | fallback entity reason =>
    cases reason with
    | budgetExhausted => cases h
    | _ => rfl
  | _ => rfl

namespace Lowered

variable {α β : Type}

/-- No branch of a lowering ends for lack of budget. -/
abbrev IsClean (x : Lowered α) : Prop :=
  x.Within fun e => e.isExhaustion = false

theorem IsPlain.isClean {config : Config} {x : Lowered α} (h : x.IsPlain config) : x.IsClean :=
  h.within (fun _ => Effect.isExhaustion_of_isLeaf) (fun _ => rfl) rfl rfl

/-- What is done under a budget that is not enough: the same as without one up to the visit for which
nothing is left, and no visit from there on. -/
structure CutShort (whole : List Effect) (budget : Nat) (actual : List Effect) : Prop where
  split : ∃ shared v rest e after, whole = shared ++ .visit v :: rest ∧ actual = shared ++ e :: after ∧
    (shared.filterMap Effect.visit?).length = budget ∧ e.isExhaustion = true ∧
    after.filterMap Effect.visit? = []

/-- A lowering under a budget against the same lowering without one. With `set` the rest of the budget
is put into the result. -/
structure Metered (set : Nat → α → α) (whole : Lowered α) (budget : Nat) (x : Lowered α) :
    Prop where
  clean : whole.IsClean
  enough : whole.visits.length ≤ budget →
    x = ⟨whole.effects, whole.result.map (set (budget - whole.visits.length))⟩
  short : budget < whole.visits.length → CutShort whole.effects budget x.effects

theorem visit?_of_isExhaustion {e : Effect} (h : e.isExhaustion = true) : e.visit? = none := by
  cases e with
  | fallback => rfl
  | _ => cases h

theorem CutShort.append {whole actual more others : List Effect} {budget : Nat}
    (h : CutShort whole budget actual) (silent : others.filterMap Effect.visit? = []) :
    CutShort (whole ++ more) budget (actual ++ others) := by
  obtain ⟨shared, v, rest, e, after, rfl, rfl, hs, he, ha⟩ := h.split
  exact ⟨shared, v, rest ++ more, e, after ++ others, by simp, by simp, hs, he, by simp [ha, silent]⟩

theorem CutShort.prepend {whole actual : List Effect} {budget left : Nat} (first : List Effect)
    (h : CutShort whole left actual)
    (hb : budget = (first.filterMap Effect.visit?).length + left) :
    CutShort (first ++ whole) budget (first ++ actual) := by
  obtain ⟨shared, v, rest, e, after, rfl, rfl, hs, he, ha⟩ := h.split
  exact ⟨first ++ shared, v, rest, e, after, by simp, by simp, by simp [hs, hb], he, ha⟩

variable {set : Nat → α → α} {set' : Nat → β → β} {whole x : Lowered α} {budget : Nat}

/-- Under a budget the first visits are made. -/
theorem Metered.visits_eq (h : Metered set whole budget x) :
    x.visits = whole.visits.take budget := by
  by_cases hb : whole.visits.length ≤ budget
  · rw [h.enough hb, List.take_of_length_le hb]
    rfl
  · obtain ⟨shared, v, rest, e, after, hw, hx, hs, he, ha⟩ := (h.short (by omega)).split
    simp only [visits, hw, hx, List.filterMap_append, List.filterMap_cons,
      visit?_of_isExhaustion he, ha, List.append_nil]
    rw [← hs, List.take_left]

theorem Metered.length_visits (h : Metered set whole budget x)
    (short : budget < whole.visits.length) : x.visits.length = budget := by
  rw [h.visits_eq, List.length_take]
  omega

/-- A branch ends for lack of budget exactly when a visit is left out. -/
theorem Metered.exhausts_iff (h : Metered set whole budget x) :
    (∃ e ∈ x.effects, e.isExhaustion = true) ↔ budget < whole.visits.length := by
  constructor
  · rintro ⟨e, he, hx⟩
    refine Nat.lt_of_not_le fun hb => ?_
    rw [h.enough hb] at he
    exact Bool.false_ne_true ((h.clean e he).symm.trans hx)
  · intro hb
    obtain ⟨shared, v, rest, e, after, hw, hx, hs, he, ha⟩ := (h.short hb).split
    exact ⟨e, by simp [hx], he⟩

theorem Metered.bind {f g : α → Lowered β} (h : Metered set whole budget x)
    (clean : ∀ a, whole.result = .ok a → (g a).IsClean)
    (next : ∀ a, whole.result = .ok a → whole.visits.length ≤ budget →
      Metered set' (g a) (budget - whole.visits.length) (f (set (budget - whole.visits.length) a)))
    (spent : budget < whole.visits.length → ∀ a, x.result = .ok a → (f a).visits = []) :
    Metered set' (whole >>= g) budget (x >>= f) := by
  have hclean : (whole >>= g).IsClean := (within_bind _ _).mpr ⟨h.clean, clean⟩
  by_cases hb : whole.visits.length ≤ budget
  · have hx := h.enough hb
    cases hw : whole.result with
    | error fault =>
      have hx' : x.result = .error fault := by rw [hx, hw]; rfl
      rw [bind_of_error hw] at hclean ⊢
      rw [bind_of_error hx']
      have he : x.effects = whole.effects := by rw [hx]
      exact ⟨hclean, fun _ => by rw [he]; rfl, fun hs => absurd hs (Nat.not_lt.mpr hb)⟩
    | ok a =>
      have hx' : x.result = .ok (set (budget - whole.visits.length) a) := by rw [hx, hw]; rfl
      have he : x.effects = whole.effects := by rw [hx]
      have hn := next a hw hb
      have hv := visits_of_ok hw g
      refine ⟨hclean, fun enough => ?_, fun short => ?_⟩
      · rw [hv, List.length_append] at enough
        rw [bind_of_ok hx', hv, bind_of_ok hw, he, hn.enough (by omega), List.length_append,
          Nat.sub_sub]
      · rw [hv, List.length_append] at short
        rw [bind_of_ok hx', bind_of_ok hw, he]
        refine (hn.short (by omega)).prepend _ ?_
        change budget = whole.visits.length + _
        omega
  · have hb' : budget < whole.visits.length := by omega
    refine ⟨hclean, fun enough => ?_, fun _ => ?_⟩
    · have hle : whole.visits.length ≤ (whole >>= g).visits.length := by
        cases hw : whole.result with
        | ok a => rw [visits_of_ok hw, List.length_append]; omega
        | error fault => exact Nat.le_of_eq (congrArg _ (visits_of_error hw g).symm)
      omega
    · obtain ⟨more, hm⟩ : ∃ more, (whole >>= g).effects = whole.effects ++ more :=
        ⟨_, effects_bind whole g⟩
      rw [hm, effects_bind x f]
      refine (h.short hb').append ?_
      cases hx : x.result with
      | ok a => exact spent hb' a hx
      | error fault => rfl

/-- The rest of the budget is not part of the result. -/
abbrev keep : Nat → α → α :=
  fun _ a => a

theorem map_keep (r : Except Fault α) (n : Nat) : r.map (keep n) = r := by
  cases r <;> rfl

/-- What visits no node is the same under every budget. -/
theorem metered_of_makes_nil (clean : x.IsClean) (h : x.visits = []) (budget : Nat) :
    Metered keep x budget x :=
  ⟨clean, fun _ => by rw [map_keep], fun hb => by simp [h] at hb⟩

theorem IsPlain.metered {config : Config} (h : x.IsPlain config) (budget : Nat) :
    Metered keep x budget x :=
  metered_of_makes_nil h.isClean (visits_eq_nil_of_within h.within_visit) budget

/-- A lowering that visits nothing, and what follows it. -/
theorem IsPlain.metered_bind {config : Config} {f g : α → Lowered β} (h : x.IsPlain config)
    (next : ∀ a, Metered set' (g a) budget (f a)) : Metered set' (x >>= g) budget (x >>= f) := by
  have hv := visits_eq_nil_of_within h.within_visit
  refine (h.metered budget).bind (fun a _ => (next a).clean) (fun a _ _ => ?_) fun hb => ?_
  · simpa [hv] using next a
  · simp [hv] at hb

/-- One lowering after another, of which the first makes known visits. -/
theorem Metered.seq {whole x : Lowered Unit} {next y : Lowered β} {visits : List Visit}
    (h : Metered keep whole budget x) (hm : whole.Makes visits)
    (h' : Metered set' next (budget - visits.length) y) :
    Metered set' (whole >>= fun _ => next) budget (x >>= fun _ => y) := by
  refine h.bind (fun _ _ => h'.clean) (fun a ha _ => ?_) fun hb _ _ => ?_
  · rwa [hm.all a ha]
  · have hle := hm.isPrefix.length_le
    have hz : budget - visits.length = 0 := by omega
    rw [h'.visits_eq, hz, List.take_zero]

theorem Metered.block {body x : Lowered Unit} (header : Option String)
    (h : Metered keep body budget x) : Metered keep (block header body) budget (block header x) := by
  have closes : ∀ n, Metered keep (Lowered.perform (.write .close)) n (.perform (.write .close)) :=
    metered_of_makes_nil ((within_perform _).mpr rfl) rfl
  have opens : (Lowered.perform (.write (.openBlock header))).visits = [] := rfl
  refine (metered_of_makes_nil ((within_perform _).mpr rfl) opens budget).bind
    (fun _ _ => (within_bind _ _).mpr ⟨h.clean, fun _ _ => (closes 0).clean⟩) (fun _ _ _ => ?_)
    fun hb => by simp [opens] at hb
  rw [opens]
  exact h.bind (fun _ _ => (closes 0).clean) (fun _ _ _ => closes _) fun _ _ _ => rfl

/-- A visit for which there is budget. -/
theorem Metered.visit {whole x : Lowered β} (v : Visit) (h : Metered set' whole budget x) :
    Metered set' (Lowered.perform (.visit v) >>= fun _ => whole) (budget + 1)
      (Lowered.perform (.visit v) >>= fun _ => x) := by
  have first : Metered keep (Lowered.perform (.visit v)) (budget + 1) (.perform (.visit v)) :=
    ⟨(within_perform _).mpr rfl, fun _ => rfl, fun hb => by simp [visits, Effect.visit?] at hb⟩
  exact first.seq (makes_visit v) h

/-- A visit for which the budget is spent. -/
theorem metered_exhausted {whole : Lowered β} {x : Lowered β} (v : Visit) (clean : whole.IsClean)
    {entity : String} {cap : Nat} {id : String}
    (h : x.effects = (fallback entity (.budgetExhausted cap id)).effects) :
    Metered set' (Lowered.perform (.visit v) >>= fun _ => whole) 0 x := by
  refine ⟨(within_bind _ _).mpr ⟨(within_perform _).mpr rfl, fun _ _ => clean⟩, fun hb => ?_,
    fun _ => ?_⟩
  · rw [visits_of_ok (result_perform _)] at hb
    simp [visits, Effect.visit?] at hb
  · rw [h, bind_of_ok (result_perform _)]
    exact ⟨[], v, whole.effects, _, _, rfl, rfl, rfl, rfl, rfl⟩

theorem CutShort.filter {whole actual : List Effect} {budget : Nat} (h : CutShort whole budget actual) :
    CutShort (whole.filter fun e => e.piece?.isNone) budget
      (actual.filter fun e => e.piece?.isNone) := by
  obtain ⟨shared, v, rest, e, after, rfl, rfl, hs, he, ha⟩ := h.split
  have kept : e.piece?.isNone = true := by
    cases e with
    | fallback => rfl
    | _ => cases he
  have visited : (Effect.visit v).piece?.isNone = true := rfl
  simp only [List.filter_append, List.filter_cons, kept, visited, if_true]
  exact ⟨_, v, _, e, _, rfl, rfl, by rw [filterMap_visit?_filter, hs], he,
    by rw [filterMap_visit?_filter, ha]⟩

theorem Metered.capture {whole x : Lowered Unit} (h : Metered keep whole budget x) :
    Metered keep whole.capture budget x.capture := by
  refine ⟨h.clean.capture, fun enough => ?_, fun short => ?_⟩
  · rw [visits_capture] at enough
    rw [h.enough enough, map_keep, map_keep]
  · rw [visits_capture] at short
    exact (h.short short).filter

theorem Metered.observe (h : Metered set whole budget x) :
    Metered (fun left r => (r.1, set left r.2)) whole.observe budget x.observe := by
  refine ⟨h.clean.observe, fun enough => ?_, h.short⟩
  rw [h.enough enough]
  unfold Lowered.observe
  cases whole.result <;> rfl

/-- A budget that does not matter any more is only put into the result. -/
theorem metered_map {x : Lowered α} (clean : x.IsClean) (silent : x.visits = []) (budget : Nat) :
    Metered set x budget (set budget <$> x) := by
  refine ⟨clean, fun _ => ?_, fun hb => by simp [silent] at hb⟩
  rw [← bind_pure_comp, silent]
  cases hx : x.result with
  | ok a =>
    rw [bind_of_ok hx]
    exact congrArg (mk · _) (List.append_nil _)
  | error fault =>
    rw [bind_of_error hx]
    rfl

end Lowered

namespace Context

variable {ctx : Context}

open Lowered

theorem fallback_isClean {entity : String} {reason : Fallback}
    (h : (Walk.cut reason).isWhole = true) : (fallback entity reason).IsClean := by
  have hr : (Effect.fallback entity reason).isExhaustion = false := by
    cases reason with
    | budgetExhausted => cases h
    | _ => rfl
  refine (within_bind _ _).mpr ⟨(within_perform _).mpr hr, fun _ _ => ?_⟩
  split
  next => exact (within_perform _).mpr rfl
  next => exact within_pure _

theorem fallback_metered (entity : String) {reason : Fallback} (budget : Nat)
    (h : (Walk.cut reason).isWhole = true) :
    Metered keep (fallback entity reason) budget (fallback entity reason) :=
  metered_of_makes_nil (fallback_isClean h) ((fallback_makes entity reason).all () (by
    unfold fallback
    cases reason.comment? <;> rfl)) budget

/-- A plan that starts with a visit is cut there or in what follows. -/
theorem metered_of_visit {cap : Nat} {walk : Walk} {v : Visit} {whole : Lowered Unit}
    {rest : Nat → Lowered Unit} (after : ∀ left, Metered keep whole left (rest left))
    (hw : ctx.lowerWalk walk = Lowered.perform (.visit v) >>= fun _ => whole)
    (zero : (walk.limit cap 0).1 = .exhausted cap v)
    (succ : ∀ left, ctx.lowerWalk (walk.limit cap (left + 1)).1 =
      Lowered.perform (.visit v) >>= fun _ => rest left) (budget : Nat) :
    Metered keep (ctx.lowerWalk walk) budget (ctx.lowerWalk (walk.limit cap budget).1) := by
  rw [hw]
  cases budget with
  | zero =>
    rw [zero]
    exact metered_exhausted v (after 0).clean rfl
  | succ left =>
    rw [succ]
    exact (after left).visit v

/-- The code of a plan that a budget cuts. -/
theorem Plans.metered {path : Path} {module : Module} {start : Option Node} {walk : Walk}
    (h : ctx.Plans path module start walk) (hw : walk.isWhole = true) (cap budget : Nat) :
    Metered keep (ctx.lowerWalk walk) budget (ctx.lowerWalk (walk.limit cap budget).1) := by
  have label (node : Node) :
      (ctx.lowerAction (some fun _ => Pure.pure ()) node.action node.params).IsPlain ctx.config :=
    label_isPlain _ _
  induction h generalizing budget with
  | done => exact metered_of_makes_nil (within_pure _) rfl budget
  | cut => exact fallback_metered _ budget hw
  | stop =>
    have after (left : Nat) : Metered keep (Pure.pure () : Lowered Unit) left (Pure.pure ()) :=
      metered_of_makes_nil (within_pure _) rfl left
    exact metered_of_visit after rfl rfl (fun _ => rfl) budget
  | @pass _ _ node rest _ _ _ ih =>
    have after (left : Nat) : Metered keep
        (if node.role = .other then
          Lowered.note "traversal" .debug
            ("Node " ++ node.id ++ " has unknown kind " ++ Text.quoted node.kind ++ ", passing through")
            >>= fun _ => ctx.lowerWalk rest
        else ctx.lowerWalk rest) left
        (if node.role = .other then
          Lowered.note "traversal" .debug
            ("Node " ++ node.id ++ " has unknown kind " ++ Text.quoted node.kind ++ ", passing through")
            >>= fun _ => ctx.lowerWalk (rest.limit cap left).1
        else ctx.lowerWalk (rest.limit cap left).1) := by
      split
      next =>
        have noted (text : String) : (Lowered.note "traversal" .debug text).IsPlain ctx.config :=
          .perform rfl
        exact (noted _).metered_bind fun _ => ih hw left
      next => exact ih hw left
    exact metered_of_visit after rfl rfl (fun _ => rfl) budget
  | @branch _ _ node yes no _ _ hp _ hy hn =>
    obtain ⟨wy, wn⟩ := Bool.and_eq_true_iff.mp hw
    have condition : (ctx.lowerConditionNode node).IsPlain ctx.config :=
      (lowerConditionNode_isSilent node).isPlain
    have after (left : Nat) := condition.metered_bind fun text =>
      ((hy wy left).block (some ("if (" ++ text ++ ")"))).seq (hp.makes.block _)
        ((hn wn (left - yes.visits.length)).block (some "else"))
    refine metered_of_visit after rfl rfl (fun left => ?_) budget
    simp only [Walk.limit, Walk.limit_left, lowerWalk]
  | @act _ _ node rest _ _ hc _ ih =>
    have after (left : Nat) := (label node).metered_bind fun _ => ih hw left
    refine metered_of_visit after ?_ rfl (fun left => ?_) budget
    · rw [lowerWalk, lowerAction_plain hc]
    · simp only [Walk.limit, lowerWalk]
  | @refuse _ _ node id reason rest _ _ hc hs _ ih =>
    have wr := moduleStart_error_isWhole hs
    have ws : rest.isWhole = true := (Bool.and_eq_true_iff.mp hw).2
    have after (left : Nat) := (label node).metered_bind fun _ =>
      (fallback_metered ctx.entity.id left wr).seq (fallback_makes _ _) (ih ws left)
    refine metered_of_visit after ?_ rfl (fun left => ?_) budget
    · rw [lowerWalk, lowerAction_calls hc, bind_assoc]
      rfl
    · simp only [Walk.limit, lowerWalk]
      rw [lowerAction_calls hc, bind_assoc]
  | @call _ _ node _ _ _ inlined rest _ _ hc _ hp _ hi ih =>
    obtain ⟨wi, wr⟩ := Bool.and_eq_true_iff.mp hw
    have after (left : Nat) := (label node).metered_bind fun _ =>
      (hi wi left).seq hp.makes (ih wr (left - inlined.visits.length))
    refine metered_of_visit after ?_ rfl (fun left => ?_) budget
    · rw [lowerWalk, lowerAction_calls hc, bind_assoc]
    · simp only [Walk.limit, Walk.limit_left, lowerWalk]
      rw [lowerAction_calls hc, bind_assoc]

/-- The context under another budget. -/
def capped (ctx : Context) (cap : Nat) : Context :=
  { ctx with config := { ctx.config with maxEmittedNodes := cap } }

section Capped

variable (ctx : Context) (cap : Nat)

theorem of_capped (entity : Entity) (config : Config) :
    Context.of entity { config with maxEmittedNodes := cap } =
      (Context.of entity config).capped cap := by
  have own := (of_fields entity config).2
  calc Context.of entity { config with maxEmittedNodes := cap }
      = (Context.of entity config).limited config.maxTraversalDepth cap :=
        of_limited config.maxTraversalDepth cap entity config
    _ = (Context.of entity config).limited (Context.of entity config).config.maxTraversalDepth cap := by
        rw [own]
    _ = (Context.of entity config).capped cap := rfl

theorem lowerAction_capped (inline : Inline) (action : Option String) (params : Params) :
    (ctx.capped cap).lowerAction inline action params = ctx.lowerAction inline action params :=
  lowerAction_limited ctx ctx.config.maxTraversalDepth cap inline action params

theorem lowerWalk_capped (walk : Walk) : (ctx.capped cap).lowerWalk walk = ctx.lowerWalk walk :=
  lowerWalk_limited ctx ctx.config.maxTraversalDepth cap walk

theorem wholePlan_capped (depth : Nat) (path : Path) (module : Module) (start : Option Node) :
    (ctx.capped cap).wholePlan depth path module start = ctx.wholePlan depth path module start := by
  induction depth generalizing path module start with
  | zero => cases start <;> rfl
  | succ depth ih =>
    cases start with
    | none => rfl
    | some node =>
      have starts (path : Path) (id : String) :
          (ctx.capped cap).moduleStart path id = ctx.moduleStart path id := rfl
      rw [wholePlan.eq_def, wholePlan.eq_def ctx]
      simp only [ih, starts]

end Capped

/-- The code of a walk from the start, under every budget. -/
theorem traverse_metered (module : Module) (start : Option Node) (cap budget : Nat) :
    Metered keep (ctx.lowerWalk (ctx.wholePlan ctx.config.maxTraversalDepth [] module start)) budget
      ((ctx.capped cap).traverse budget [] module start) := by
  have room : ctx.config.maxTraversalDepth = ctx.config.maxTraversalDepth - ([] : Path).length := rfl
  unfold traverse plan
  rw [planFrom_eq_limit, lowerWalk_capped, wholePlan_capped]
  exact (wholePlan_plans room).metered (wholePlan_isWhole _ _ _ _) _ _

theorem runModule_metered (ctx : Context) (id : String) : ∃ whole, ∀ cap budget,
    Metered keep whole budget ((ctx.capped cap).runModule budget id) := by
  have starts (cap : Nat) : (ctx.capped cap).moduleStart [] id = ctx.moduleStart [] id := rfl
  unfold runModule planModule
  simp only [starts]
  cases hs : ctx.moduleStart [] id with
  | error reason =>
    exact ⟨Lowered.fallback ctx.entity.id reason,
      fun cap budget => fallback_metered _ budget (moduleStart_error_isWhole hs)⟩
  | ok found => exact ⟨_, fun cap budget => traverse_metered found.1 (some found.2) cap budget⟩

/-- The action of an event, under every budget. -/
theorem eventAction_metered (ctx : Context) (event : Event) : ∃ whole, ∀ cap budget,
    Metered keep whole budget ((ctx.capped cap).lowerAction
      (some ((ctx.capped cap).runModule budget)) event.action event.params) := by
  let label := ctx.lowerAction (some fun _ => Pure.pure ()) event.action event.params
  have plain : label.IsPlain ctx.config := label_isPlain _ _
  cases hc : event.asNode.calledModule? with
  | none =>
    refine ⟨label, fun cap budget => ?_⟩
    have same : ctx.lowerAction (some ((ctx.capped cap).runModule budget)) event.action event.params =
        label := lowerAction_plain hc _ _
    rw [lowerAction_capped, same]
    exact plain.metered budget
  | some id =>
    obtain ⟨whole, hw⟩ := runModule_metered ctx id
    refine ⟨label >>= fun _ => whole, fun cap budget => ?_⟩
    have calls : ctx.lowerAction (some ((ctx.capped cap).runModule budget)) event.action event.params =
        label >>= fun _ => (ctx.capped cap).runModule budget id := lowerAction_calls hc _
    rw [lowerAction_capped, calls]
    exact plain.metered_bind fun _ => hw cap budget

/-- An event, under every budget. -/
theorem addEvent_metered (ctx : Context) (index : Nat) (event : Event) (b : Bodies) :
    ∃ whole, ∀ cap budget, Metered Bodies.withBudget whole budget
      ((ctx.capped cap).addEvent index event (b.withBudget budget)) := by
  cases ht : Trigger.ofName? (Text.trim event.trigger) with
  | none =>
    let counted : Bodies :=
      { b with unhandled := Bodies.countUnhandled (Text.trim event.trigger) b.unhandled }
    refine ⟨(do
      Lowered.fallback ctx.entity.id (.unhandledTrigger (Text.trim event.trigger))
      return counted), fun cap budget => ?_⟩
    have counting : (Lowered.fallback ctx.entity.id
        (.unhandledTrigger (Text.trim event.trigger))).IsPlain ctx.config := fallback_isPlain rfl
    rw [addEvent_of_unhandled ht]
    exact counting.metered_bind fun _ => metered_map (within_pure counted) rfl budget
  | some trigger =>
    obtain ⟨whole, hw⟩ := eventAction_metered ctx event
    refine ⟨whole.capture.observe >>= fun r => ctx.finishEvent index event trigger r.2.1 b,
      fun cap budget => ?_⟩
    have finished (pieces : List Piece) (left : Nat) :
        Metered Bodies.withBudget (ctx.finishEvent index event trigger pieces b) left
          ((ctx.capped cap).finishEvent index event trigger pieces (b.withBudget left)) := by
      have plain : (ctx.finishEvent index event trigger pieces b).IsPlain ctx.config :=
        finishEvent_isPlain _ _ _ _ _
      rw [finishEvent_withBudget]
      exact metered_map plain.isClean (visits_eq_nil_of_within plain.within_visit) left
    rw [addEvent_of_trigger ht]
    refine (hw cap budget).capture.observe.bind (fun r _ => (finished r.2.1 0).clean) (fun ⟨_, pieces, _⟩ hr _ => ?_)
      fun _ r _ => visits_eq_nil_of_within (finishEvent_isPlain _ _ _ _ _).within_visit
    obtain ⟨rfl, -⟩ := observe_result_ok hr
    exact finished pieces _

/-- Events one after another, under every budget. -/
theorem addEvents_metered (ctx : Context) (index : Nat) (events : List Event) (b : Bodies) :
    ∃ whole, ∀ cap budget, Metered Bodies.withBudget whole budget
      ((ctx.capped cap).addEvents index events (b.withBudget budget)) := by
  induction events generalizing index b with
  | nil => exact ⟨Pure.pure b, fun cap budget => metered_map (within_pure b) rfl budget⟩
  | cons event events ih =>
    obtain ⟨first, hf⟩ := addEvent_metered ctx index event b
    choose rest hr using ih (index + 1)
    refine ⟨first >>= rest, fun cap budget => ?_⟩
    refine (hf cap budget).bind (fun c _ => (hr c cap 0).clean) (fun c _ _ => hr c cap _)
      fun short c hc => ?_
    -- The budget is spent, so the events that follow start with none.
    have left := addEvent_budget hc
    rw [(hf cap budget).length_visits short] at left
    have none : c = c.withBudget 0 := by
      rw [show (0 : Nat) = c.budget by rw [left]; exact (Nat.sub_self budget).symm]
      rfl
    rw [none, (hr c cap 0).visits_eq, List.take_zero]

theorem lowerStart_metered (ctx : Context) : ∃ whole, ∀ cap budget,
    Metered keep whole budget ((ctx.capped cap).lowerStart budget) := by
  have starts (cap : Nat) : (ctx.capped cap).startModule? = ctx.startModule? := rfl
  unfold lowerStart
  simp only [starts]
  cases ctx.startModule? with
  | none => exact ⟨Pure.pure (), fun cap budget => metered_of_makes_nil (within_pure _) rfl budget⟩
  | some module =>
    have said : (Lowered.comment ("Module: " ++ module.label)).IsPlain ctx.config := .perform rfl
    exact ⟨Lowered.comment ("Module: " ++ module.label) >>= fun _ =>
        ctx.lowerWalk (ctx.wholePlan ctx.config.maxTraversalDepth [] module module.entryNode?),
      fun cap budget => said.metered_bind fun _ =>
        traverse_metered module module.entryNode? cap budget⟩

/-- All bodies, under every budget. -/
theorem bodies_metered (ctx : Context) : ∃ whole, ∀ cap,
    Metered Bodies.withBudget whole cap (ctx.capped cap).bodies := by
  obtain ⟨start, hs⟩ := lowerStart_metered ctx
  choose events he using addEvents_metered ctx 0 ctx.entity.events
  let begun (pieces : List Piece) : Bodies :=
    { Bodies.new 0 with start := (Writer.new 0).run pieces }
  refine ⟨start.capture.observe >>= fun r => events (begun r.2.1), fun cap => ?_⟩
  rw [bodies_eq]
  refine (hs cap cap).capture.observe.bind (fun r _ => (he (begun r.2.1) cap 0).clean)
    (fun ⟨_, pieces, _⟩ hr _ => ?_) fun short ⟨_, pieces, _⟩ hr => ?_
  · obtain ⟨rfl, -⟩ := observe_result_ok hr
    exact he (begun pieces) cap _
  · obtain ⟨rfl, -⟩ := observe_result_ok hr
    have visited := (hs cap cap).capture.length_visits short
    have left := he (begun pieces) cap (cap - ((ctx.capped cap).lowerStart cap).capture.visits.length)
    have none : cap - ((ctx.capped cap).lowerStart cap).capture.visits.length = 0 := by
      rw [visited, Nat.sub_self]
    exact left.visits_eq.trans (by rw [none, List.take_zero])

theorem finishClass_isClean (effects : List Effect) (b : Bodies) :
    (ctx.finishClass effects b).IsClean :=
  finishClass_within effects b IsPlain.isClean

theorem finishClass_visits (effects : List Effect) (b : Bodies) :
    (ctx.finishClass effects b).visits = [] :=
  visits_eq_nil_of_within (finishClass_within effects b IsPlain.within_visit)

/-- The class of an entity, under every budget. -/
theorem assemble_metered (ctx : Context) {whole : Lowered Bodies}
    (hw : ∀ cap, Metered Bodies.withBudget whole cap (ctx.capped cap).bodies) (cap : Nat) :
    Metered keep (whole.observe >>= fun r => ctx.finishClass r.1 r.2) cap
      (ctx.capped cap).assemble := by
  have finished (effects : List Effect) (b : Bodies) (left : Nat) :
      Metered keep (ctx.finishClass effects b) left
        ((ctx.capped cap).finishClass effects (b.withBudget left)) :=
    metered_of_makes_nil (finishClass_isClean effects b) (finishClass_visits effects b) left
  rw [assemble_eq]
  exact (hw cap).observe.bind (fun r _ => finishClass_isClean _ _) (fun r _ _ => finished r.1 r.2 _)
    fun _ r _ => finishClass_visits _ _

/-- The class around bodies makes the visits of the bodies. -/
theorem visits_observe_finishClass (bodies : Lowered Bodies) :
    (bodies.observe >>= fun r => ctx.finishClass r.1 r.2).visits = bodies.visits := by
  cases hb : bodies.observe.result with
  | ok r => rw [visits_of_ok hb, finishClass_visits, List.append_nil, visits_observe]
  | error fault => rw [visits_of_error hb, visits_observe]

end Context

theorem Effect.isExhaustion_iff {e : Effect} : e.isExhaustion = true ↔
    ∃ entity decision, e = .fallback entity decision ∧ decision.reason = "budget_exhausted" := by
  constructor
  · intro h
    cases e with
    | fallback entity decision =>
      cases decision with
      | budgetExhausted => exact ⟨entity, _, rfl, rfl⟩
      | _ => cases h
    | _ => cases h
  · rintro ⟨entity, decision, rfl, hr⟩
    cases decision with
    | budgetExhausted => rfl
    | _ => simp [Fallback.reason] at hr

/-- For every entity there is one list of visits, those that are made when the budget is large, such
that under each budget the first of them are made, as many as the budget allows. The budget that is
left is what was not spent on them, and the lack of budget is told exactly when some are left out. -/
theorem assemble_truncates (config : Config) (entity : Entity) :
    ∃ whole : List Visit, ∀ budget,
      (assemble { config with maxEmittedNodes := budget } entity).visits = whole.take budget ∧
      (∀ b, (Context.of entity { config with maxEmittedNodes := budget }).bodies.result = .ok b →
        b.budget + min budget whole.length = budget) ∧
      ((∃ e ∈ (assemble { config with maxEmittedNodes := budget } entity).effects,
        ∃ id decision, e = .fallback id decision ∧ decision.reason = "budget_exhausted") ↔
          budget < whole.length) := by
  cases hl : entity.hasLogic with
  | false =>
    refine ⟨[], fun budget => ?_⟩
    have none : (assemble { config with maxEmittedNodes := budget } entity).effects =
        [.note (.message "assembler" .debug ("Entity " ++ entity.id ++ " has no logic, skipped"))] := by
      simp only [assemble, hl]
      rfl
    refine ⟨by simp [Lowered.visits, none, Effect.visit?], fun b hb => ?_, by simp [none]⟩
    have ⟨he, hc⟩ := Context.of_fields entity { config with maxEmittedNodes := budget }
    rw [Context.bodies_budget hb, Context.bodies_visits_of_not_hasLogic (by rw [he, hl]), hc]
    simp
  | true =>
    let ctx := Context.of entity config
    obtain ⟨whole, hw⟩ := Context.bodies_metered ctx
    refine ⟨whole.visits, fun budget => ?_⟩
    have shaped := Context.assemble_metered ctx hw budget
    have same : (assemble { config with maxEmittedNodes := budget } entity).effects =
        (ctx.capped budget).assemble.effects := by
      simp only [assemble, hl, if_true, Context.of_capped]
      rw [Lowered.effects_bind]
      cases (ctx.capped budget).assemble.result <;> exact List.append_nil _
    refine ⟨?_, fun b hb => ?_, ?_⟩
    · rw [Lowered.visits, same]
      exact shaped.visits_eq.trans (by rw [Context.visits_observe_finishClass])
    · rw [Context.of_capped] at hb
      rw [Context.bodies_budget hb, (hw budget).visits_eq, List.length_take]
      change budget - _ + _ = budget
      omega
    · simp only [← Effect.isExhaustion_iff]
      rw [same, shaped.exhausts_iff, Context.visits_observe_finishClass]

end GraphScript
