import GraphScript.Proofs.ClassCode
import GraphScript.Proofs.Written

namespace GraphScript

open Lowered

/-- The names in the order in which they first appear, each with the number of times. -/
def tally (names : List String) : List (String × Nat) :=
  names.eraseDups.map fun name => (name, names.count name)

theorem eraseDups_append_singleton (names : List String) (name : String) :
    (names ++ [name]).eraseDups =
      if name ∈ names then names.eraseDups else names.eraseDups ++ [name] := by
  rw [List.eraseDups_append]
  split
  next seen => simp [List.removeAll, seen]
  next new => simp [List.removeAll, new, List.eraseDups_cons]

theorem nodup_eraseDups (names : List String) : names.eraseDups.Nodup := by
  induction names using List.reverseRecOn with
  | nil => exact List.nodup_nil
  | append_singleton names name ih =>
    rw [eraseDups_append_singleton]
    split
    next => exact ih
    next new => exact ih.append (List.nodup_singleton name) (by simpa using new)

theorem countUnhandled_of_mem {names : List String} (distinct : names.Nodup) (count : String → Nat)
    {name : String} (h : name ∈ names) :
    Bodies.countUnhandled name (names.map fun n => (n, count n)) =
      names.map fun n => (n, if n = name then count n + 1 else count n) := by
  induction names with
  | nil => cases h
  | cons first rest ih =>
    obtain ⟨new, distinct⟩ := List.nodup_cons.mp distinct
    rw [List.map_cons, Bodies.countUnhandled, List.map_cons]
    by_cases same : first = name
    · have others : rest.map (fun n => (n, count n)) =
          rest.map fun n => (n, if n = name then count n + 1 else count n) := by
        refine List.map_congr_left fun n hn => ?_
        have other : n ≠ name := by
          rintro rfl
          exact new (same ▸ hn)
        rw [if_neg other]
      rw [if_pos same, if_pos same, others]
    · rw [if_neg same, if_neg same, ih distinct (List.mem_of_ne_of_mem (Ne.symm same) h)]

theorem countUnhandled_of_not_mem {names : List String} (count : String → Nat) {name : String}
    (h : name ∉ names) :
    Bodies.countUnhandled name (names.map fun n => (n, count n)) =
      names.map (fun n => (n, count n)) ++ [(name, 1)] := by
  induction names with
  | nil => rfl
  | cons first rest ih =>
    obtain ⟨other, later⟩ := not_or.mp (mt List.mem_cons.mpr h)
    rw [List.map_cons, Bodies.countUnhandled, if_neg (Ne.symm other), ih later, List.cons_append]

theorem countUnhandled_tally (names : List String) (name : String) :
    Bodies.countUnhandled name (tally names) = tally (names ++ [name]) := by
  unfold tally
  by_cases seen : name ∈ names
  · rw [eraseDups_append_singleton, if_pos seen,
      countUnhandled_of_mem (nodup_eraseDups names) _ (List.mem_eraseDups.mpr seen)]
    refine List.map_congr_left fun n _ => ?_
    by_cases same : n = name
    · simp [same]
    · simp [same, Ne.symm same]
  · have others : names.eraseDups.map (fun n => (n, names.count n)) =
        names.eraseDups.map fun n => (n, (names ++ [name]).count n) := by
      refine List.map_congr_left fun n hn => ?_
      have different : n ≠ name := fun h => seen (h ▸ List.mem_eraseDups.mp hn)
      simp [Ne.symm different]
    rw [eraseDups_append_singleton, if_neg seen,
      countUnhandled_of_not_mem _ (mt List.mem_eraseDups.mp seen), List.map_append, ← others]
    simp [List.count_eq_zero_of_not_mem seen]

theorem sum_tally (names : List String) : ((tally names).map Prod.snd).sum = names.length := by
  have counted (name : String) (entries : List (String × Nat)) :
      ((Bodies.countUnhandled name entries).map Prod.snd).sum = (entries.map Prod.snd).sum + 1 := by
    induction entries with
    | nil => rfl
    | cons entry entries ih =>
      unfold Bodies.countUnhandled
      split
      next => simp only [List.map_cons, List.sum_cons]; omega
      next => simp only [List.map_cons, List.sum_cons, ih]; omega
  induction names using List.reverseRecOn with
  | nil => rfl
  | append_singleton names name ih =>
    rw [← countUnhandled_tally, counted, ih, List.length_append, List.length_singleton]

/-- The trigger of an event, if there is a method for it. -/
def Event.trigger? (event : Event) : Option Trigger :=
  Trigger.ofName? (Text.trim event.trigger)

/-- An event at its place, with the budget that is left for it. -/
structure Occasion where
  index : Nat
  event : Event
  budget : Nat

namespace Occasion

def action (ctx : Context) (o : Occasion) : Lowered Unit :=
  ctx.lowerAction (some (ctx.runModule o.budget)) o.event.action o.event.params

/-- How many nodes are visited for an event. -/
def spent (ctx : Context) (o : Occasion) : Nat :=
  if o.event.trigger?.isSome then (o.action ctx).visits.length else 0

/-- Whether an event waits, itself or in the modules that it runs. -/
def waits (ctx : Context) (o : Occasion) : Bool :=
  o.event.asNode.waits || (o.action ctx).visits.any Visit.waits

end Occasion

inductive Contribution where
  /-- An event whose trigger has no method. -/
  | unhandled (trigger : String)
  | nothing
  /-- A body in the method of a trigger. -/
  | inline (trigger : Trigger) (guards : List String) (body : Passage)
  /-- A routine, and a call of it in the method of a hook. -/
  | routine (guards : List String) (routine : RoutineCode)

namespace Contribution

/-- What is added to the method of a trigger. -/
def passage (trigger : Trigger) : Contribution → Passage
  | inline own guards body => if own = trigger then .guarded guards body else .empty
  | routine guards r => if .hook r.hook = trigger then .guarded guards (.line r.call) else .empty
  | _ => .empty

def routine? : Contribution → Option RoutineCode
  | routine _ r => some r
  | _ => none

def unhandled? : Contribution → Option String
  | unhandled trigger => some trigger
  | _ => none

end Contribution

/-- The bodies that begin with a passage and go on with contributions. -/
def BodyCode.of (start : Passage) (contributions : List Contribution) : BodyCode where
  start := .seq start (.concat (contributions.map (Contribution.passage .start)))
  hook h := .concat (contributions.map (Contribution.passage (.hook h)))
  routines := contributions.filterMap Contribution.routine?
  unhandled := tally (contributions.filterMap Contribution.unhandled?)

namespace Bodies

theorem target_withTarget (b : Bodies) (trigger other : Trigger) (w : Writer) :
    (b.withTarget trigger w).target other = if trigger = other then w else b.target other := by
  cases trigger with
  | start => cases other <;> rfl
  | hook h =>
    cases other with
    | start => cases h <;> rfl
    | hook k => cases h <;> cases k <;> rfl

theorem add_routines (b : Bodies) (trigger : Trigger) (guards : List String) (w : Writer) :
    (b.add trigger guards w).routines = b.routines := by
  cases trigger with
  | start => rfl
  | hook h => cases h <;> rfl

theorem add_unhandled (b : Bodies) (trigger : Trigger) (guards : List String) (w : Writer) :
    (b.add trigger guards w).unhandled = b.unhandled := by
  cases trigger with
  | start => rfl
  | hook h => cases h <;> rfl

/-- Adding a body to the method of a trigger writes it there, inside its guards. -/
theorem target_add (b : Bodies) (trigger other : Trigger) (guards : List String) (body : Passage) :
    (b.add trigger guards ((Writer.new 0).run body.pieces)).target other =
      if trigger = other then (b.target other).run (Passage.guarded guards body).pieces
      else b.target other := by
  unfold add
  dsimp only
  rw [Writer.run_guarded, target_withTarget]
  split
  next same => rw [same]
  next => rfl

/-- Bodies that were collected from contributions, with their routines numbered in order. -/
structure Collects (b : Bodies) (start : Passage) (contributions : List Contribution) : Prop where
  holds : b.Holds (.of start contributions)
  numbered : (contributions.filterMap Contribution.routine?).map RoutineCode.number =
    List.range b.routines.length

variable {b b' : Bodies} {start : Passage} {contributions : List Contribution}

theorem Collects.target (h : b.Collects start contributions) (trigger : Trigger) :
    b.target trigger = (Writer.new 0).run ((if trigger = .start then start.pieces else []) ++
      (Passage.concat (contributions.map (Contribution.passage trigger))).pieces) := by
  cases trigger with
  | start => exact h.holds.start
  | hook k => exact h.holds.hook k

theorem Collects.append (h : b.Collects start contributions) (c : Contribution)
    (targets : ∀ trigger, b'.target trigger = (b.target trigger).run (c.passage trigger).pieces)
    (routines : b'.routines = b.routines ++ c.routine?.toList.map RoutineCode.routine)
    (number : ∀ r, c.routine? = some r → r.number = b.routines.length)
    (unhandled : b'.unhandled = c.unhandled?.elim b.unhandled (countUnhandled · b.unhandled)) :
    b'.Collects start (contributions ++ [c]) := by
  have written (trigger : Trigger) :
      b'.target trigger = (Writer.new 0).run ((if trigger = .start then start.pieces else []) ++
        (Passage.concat ((contributions ++ [c]).map (Contribution.passage trigger))).pieces) := by
    rw [targets, h.target, ← Writer.run_append, List.append_assoc, Passage.pieces_concat,
      Passage.pieces_concat, List.map_append, List.flatMap_append, List.map_singleton,
      List.flatMap_singleton]
  refine ⟨⟨written .start, fun k => written (.hook k), ?_, ?_⟩, ?_⟩
  · rw [routines, h.holds.routines, BodyCode.of, BodyCode.of, ← List.map_append, List.filterMap_append]
    cases hc : c.routine? <;> simp [hc]
  · rw [unhandled, h.holds.unhandled, BodyCode.of, BodyCode.of, List.filterMap_append]
    cases hc : c.unhandled? with
    | none => simp [hc]
    | some name => simp [hc, countUnhandled_tally]
  · rw [routines, List.filterMap_append, List.map_append, h.numbered]
    cases hc : c.routine? with
    | none => simp [hc]
    | some r => simp [hc, number r hc, List.range_succ]

/-- A body that stands where its trigger says. -/
theorem Collects.inline (h : b.Collects start contributions) (trigger : Trigger)
    (guards : List String) (body : Passage) :
    (b.add trigger guards ((Writer.new 0).run body.pieces)).Collects start
      (contributions ++ [Contribution.inline trigger guards body]) := by
  refine h.append _ (fun other => ?_) ?_ (fun r hr => by cases hr) (add_unhandled b _ _ _)
  · rw [target_add, Contribution.passage, Writer.run_ite]
    rfl
  · rw [add_routines]
    exact (List.append_nil _).symm

/-- A body that waits, and the call that takes its place. -/
theorem Collects.routine (h : b.Collects start contributions) (guards : List String)
    (r : RoutineCode) (number : r.number = b.routines.length) :
    (({ b with routines := b.routines ++ [r.routine] } : Bodies).add (.hook r.hook) guards
      ((Writer.new 0).line r.call)).Collects start
        (contributions ++ [Contribution.routine guards r]) := by
  refine h.append _ (fun other => ?_) (add_routines _ _ _ _) (fun r' hr => ?_) (add_unhandled _ _ _ _)
  · have called : (Writer.new 0).line r.call = (Writer.new 0).run (Passage.line r.call).pieces := rfl
    rw [called, target_add, Contribution.passage, Writer.run_ite]
    cases other <;> rfl
  · cases hr
    exact number

end Bodies

namespace Context

variable {ctx : Context}

/-- The body that an event contributes: what its action writes. -/
structure Performs (ctx : Context) (o : Occasion) (body : Passage) : Prop where
  wrote : (o.action ctx).Wrote ctx (o.waits ctx) body
  filled : body.lines ≠ []

inductive Contributes (ctx : Context) (o : Occasion) : Contribution → Prop
  | unhandled (trigger : o.event.trigger? = none) :
      Contributes ctx o (.unhandled (Text.trim o.event.trigger))
  | nothing {trigger : Trigger} (handled : o.event.trigger? = some trigger)
      (idle : o.event.action.getD "" = "") : Contributes ctx o .nothing
  | inline {trigger : Trigger} {guards : List String} {body : Passage}
      (handled : o.event.trigger? = some trigger) (acts : o.event.action.getD "" ≠ "")
      (guarded : ctx.Guards o.index o.event guards) (performs : ctx.Performs o body)
      (here : trigger = .start ∨ o.waits ctx = false) :
      Contributes ctx o (.inline trigger guards body)
  | routine {guards : List String} {r : RoutineCode}
      (handled : o.event.trigger? = some (.hook r.hook)) (acts : o.event.action.getD "" ≠ "")
      (guarded : ctx.Guards o.index o.event guards) (performs : ctx.Performs o r.body)
      (waits : o.waits ctx = true) : Contributes ctx o (.routine guards r)

/-- The events of an entity at their places. -/
def occasionsFrom (ctx : Context) (index budget : Nat) : List Event → List Occasion
  | [] => []
  | event :: rest =>
    let o : Occasion := ⟨index, event, budget⟩
    o :: ctx.occasionsFrom (index + 1) (budget - o.spent ctx) rest

def occasions (ctx : Context) : List Occasion :=
  let budget := ctx.config.maxEmittedNodes
  ctx.occasionsFrom 0 (budget - (ctx.lowerStart budget).visits.length) ctx.entity.events

theorem occasionsFrom_events (index budget : Nat) (events : List Event) :
    (ctx.occasionsFrom index budget events).map (fun o => (o.event, o.index)) =
      events.zipIdx index := by
  induction events generalizing index budget with
  | nil => rfl
  | cons event events ih =>
    rw [occasionsFrom, List.map_cons, ih, List.zipIdx_cons]

theorem occasions_events :
    ctx.occasions.map (fun o => (o.event, o.index)) = ctx.entity.events.zipIdx :=
  occasionsFrom_events _ _ _

theorem occasions_map_event : ctx.occasions.map Occasion.event = ctx.entity.events := by
  rw [← List.zipIdx_map_fst 0 ctx.entity.events, ← occasions_events, List.map_map]
  rfl

theorem event_mem_of_occasion {o : Occasion} (h : o ∈ ctx.occasions) :
    o.event ∈ ctx.entity.events := by
  have placed : (o.event, o.index) ∈ ctx.entity.events.zipIdx := by
    rw [← occasions_events]
    exact List.mem_map.mpr ⟨o, h, rfl⟩
  exact List.fst_mem_of_mem_zipIdx placed

theorem lowerAction_idle {inline : Inline} {action : Option String} (h : action.getD "" = "")
    (params : Params) : ctx.lowerAction inline action params = Pure.pure () := by
  cases action with
  | none => rfl
  | some name =>
    have empty : name = "" := h
    rw [empty]
    rfl

theorem finishEvent_filled {index : Nat} {event : Event} {trigger : Trigger} {body : Passage}
    {b : Bodies} (filled : body.lines ≠ []) :
    ctx.finishEvent index event trigger body.pieces b =
      ctx.guards index event >>= fun guards =>
        Pure.pure ((b.settle trigger ((Writer.new 0).run body.pieces)).1.add trigger guards
          (b.settle trigger ((Writer.new 0).run body.pieces)).2) := by
  have written : ((Writer.new 0).run body.pieces).isEmpty = false := by
    rw [Writer.isEmpty_run]
    exact List.isEmpty_eq_false_iff.mpr filled
  unfold finishEvent
  simp only [written]
  rfl

theorem finishEvent_result {index : Nat} {event : Event} {trigger : Trigger} {body : Passage}
    {b b' : Bodies} (filled : body.lines ≠ [])
    (h : (ctx.finishEvent index event trigger body.pieces b).result = .ok b') :
    ∃ guards, ctx.Guards index event guards ∧
      b' = (b.settle trigger ((Writer.new 0).run body.pieces)).1.add trigger guards
        (b.settle trigger ((Writer.new 0).run body.pieces)).2 := by
  rw [finishEvent_filled filled] at h
  obtain ⟨guards, hg, h⟩ := bind_result_ok h
  cases h
  exact ⟨guards, guards_result hg, rfl⟩

/-- An event that wrote something contributes it where it belongs. -/
theorem finishEvent_contributes {o : Occasion} {trigger : Trigger} {body : Passage} {b b' : Bodies}
    {start : Passage} {contributions : List Contribution} (collected : b.Collects start contributions)
    (handled : o.event.trigger? = some trigger) (acts : o.event.action.getD "" ≠ "")
    (performs : ctx.Performs o body)
    (h : (ctx.finishEvent o.index o.event trigger body.pieces b).result = .ok b') :
    ∃ c, ctx.Contributes o c ∧ b'.Collects start (contributions ++ [c]) := by
  obtain ⟨guards, guarded, rfl⟩ := finishEvent_result performs.filled h
  cases trigger with
  | start =>
    exact ⟨.inline .start guards body, .inline handled acts guarded performs (.inl rfl),
      collected.inline .start guards body⟩
  | hook hook =>
    -- a hook must not wait, so a body that does moves to a routine
    have suspends : ((Writer.new 0).run body.pieces).suspends = o.waits ctx := by
      rw [Writer.suspends_run, performs.wrote.waits]
    cases hw : o.waits ctx with
    | false =>
      rw [hw] at suspends
      simp only [Bodies.settle, suspends]
      exact ⟨.inline (.hook hook) guards body, .inline handled acts guarded performs (.inr hw),
        collected.inline (.hook hook) guards body⟩
    | true =>
      let r : RoutineCode := ⟨hook, b.routines.length, body⟩
      rw [hw] at suspends
      simp only [Bodies.settle, suspends]
      exact ⟨.routine guards r, .routine handled acts guarded performs hw,
        collected.routine guards r rfl⟩

/-- An event leaves what it does not spend. -/
theorem addEvent_spent {index : Nat} {event : Event} {b b' : Bodies}
    (h : (ctx.addEvent index event b).result = .ok b') :
    b'.budget = b.budget - Occasion.spent ctx ⟨index, event, b.budget⟩ := by
  let o : Occasion := ⟨index, event, b.budget⟩
  cases ht : event.trigger? with
  | none =>
    rw [addEvent_of_unhandled ht] at h
    obtain ⟨_, -, h⟩ := bind_result_ok h
    cases h
    simp [Occasion.spent, ht]
  | some trigger =>
    rw [addEvent_of_trigger ht] at h
    obtain ⟨⟨effects, pieces, _⟩, ho, h⟩ := bind_result_ok h
    obtain ⟨rfl, -⟩ := observe_result_ok ho
    have visits : (o.action ctx).capture.visits = (o.action ctx).visits := visits_capture _
    have spent : o.spent ctx = (o.action ctx).visits.length := by
      simp [Occasion.spent, o, ht]
    rw [finishEvent_budget h, spent, ← visits]
    rfl

/-- What one event adds to the bodies. -/
theorem addEvent_contributes (named : ctx.Named) {index : Nat} {event : Event} {b b' : Bodies}
    {start : Passage} {contributions : List Contribution} (collected : b.Collects start contributions)
    (h : (ctx.addEvent index event b).result = .ok b') :
    ∃ c, ctx.Contributes ⟨index, event, b.budget⟩ c ∧ b'.Collects start (contributions ++ [c]) := by
  let o : Occasion := ⟨index, event, b.budget⟩
  cases ht : event.trigger? with
  | none =>
    rw [addEvent_of_unhandled ht] at h
    obtain ⟨_, -, h⟩ := bind_result_ok h
    cases h
    refine ⟨.unhandled (Text.trim event.trigger), .unhandled ht, ?_⟩
    refine collected.append _ (fun trigger => ?_) ?_ (fun r hr => by cases hr) rfl
    · cases trigger with
      | start => rfl
      | hook k => cases k <;> rfl
    · exact (List.append_nil _).symm
  | some trigger =>
    rw [addEvent_of_trigger ht] at h
    obtain ⟨⟨effects, pieces, _⟩, ho, h⟩ := bind_result_ok h
    obtain ⟨rfl, hc⟩ := observe_result_ok ho
    obtain ⟨rfl, ha⟩ := capture_result_ok hc
    -- what is spent shows in the budget only
    have spared : (b.spend (o.action ctx).capture.effects).Collects start contributions :=
      ⟨⟨collected.holds.start, collected.holds.hook, collected.holds.routines,
        collected.holds.unhandled⟩, collected.numbered⟩
    by_cases idle : event.action.getD "" = ""
    · rw [lowerAction_idle idle] at h
      cases h
      refine ⟨.nothing, .nothing ht idle, ?_⟩
      refine spared.append .nothing (fun trigger => rfl) ?_ (fun r hr => by cases hr) rfl
      exact (List.append_nil _).symm
    · have acts : event.asNode.acts = true := by simpa [Node.acts, Event.asNode] using idle
      obtain ⟨body, wrote, filled⟩ := eventAction_writes named b.budget event _ ha
      have performs : ctx.Performs o body := ⟨wrote, filled acts⟩
      rw [wrote.pieces] at h
      exact finishEvent_contributes (o := o) spared ht idle performs h

/-- What the events add to the bodies, one after another. -/
theorem addEvents_contribute (named : ctx.Named) {index : Nat} {events : List Event} {b b' : Bodies}
    {start : Passage} {contributions : List Contribution} (collected : b.Collects start contributions)
    (h : (ctx.addEvents index events b).result = .ok b') :
    ∃ further, List.Forall₂ ctx.Contributes (ctx.occasionsFrom index b.budget events) further ∧
      b'.Collects start (contributions ++ further) := by
  -- the next event meets the budget that the one before it left
  induction events generalizing index b contributions with
  | nil =>
    cases h
    exact ⟨[], .nil, by rwa [List.append_nil]⟩
  | cons event events ih =>
    obtain ⟨next, hn, h⟩ := bind_result_ok h
    obtain ⟨c, contributes, added⟩ := addEvent_contributes named collected hn
    obtain ⟨further, each, all⟩ := ih added h
    refine ⟨c :: further, .cons contributes (addEvent_spent hn ▸ each), ?_⟩
    rwa [List.append_assoc] at all

/-- What is done for an event beside writing. Its guards are lowered if it has something to guard. -/
def occasionEffects (ctx : Context) (o : Occasion) : List Effect :=
  match o.event.trigger? with
  | none => [.fallback ctx.entity.id (.unhandledTrigger (Text.trim o.event.trigger))]
  | some _ => (o.action ctx).capture.effects ++
      if o.event.asNode.acts then (ctx.guards o.index o.event).effects else []

theorem addEvent_effects (named : ctx.Named) {index : Nat} {event : Event} {b b' : Bodies}
    (h : (ctx.addEvent index event b).result = .ok b') :
    (ctx.addEvent index event b).effects = ctx.occasionEffects ⟨index, event, b.budget⟩ := by
  let o : Occasion := ⟨index, event, b.budget⟩
  unfold occasionEffects
  cases ht : event.trigger? with
  | none =>
    rw [addEvent_of_unhandled ht]
    rfl
  | some trigger =>
    rw [addEvent_of_trigger ht] at h ⊢
    obtain ⟨⟨effects, pieces, _⟩, ho, h⟩ := bind_result_ok h
    obtain ⟨rfl, hc⟩ := observe_result_ok ho
    obtain ⟨rfl, ha⟩ := capture_result_ok hc
    rw [bind_of_ok ho]
    refine congrArg ((o.action ctx).capture.effects ++ ·) ?_
    by_cases idle : event.action.getD "" = ""
    · have still : event.asNode.acts = false := by simpa [Node.acts, Event.asNode] using idle
      rw [if_neg (by simp [still]), lowerAction_idle idle]
      rfl
    · have acts : event.asNode.acts = true := by simpa [Node.acts, Event.asNode] using idle
      obtain ⟨body, wrote, filled⟩ := eventAction_writes named b.budget event _ ha
      rw [wrote.pieces] at h ⊢
      rw [finishEvent_filled (filled acts)] at h ⊢
      obtain ⟨guards, hg, -⟩ := bind_result_ok h
      rw [if_pos acts, bind_of_ok hg]
      exact List.append_nil _

theorem addEvents_effects (named : ctx.Named) {index : Nat} {events : List Event} {b b' : Bodies}
    (h : (ctx.addEvents index events b).result = .ok b') :
    (ctx.addEvents index events b).effects =
      (ctx.occasionsFrom index b.budget events).flatMap ctx.occasionEffects := by
  induction events generalizing index b with
  | nil => rfl
  | cons event events ih =>
    unfold addEvents at h ⊢
    obtain ⟨next, hn, h⟩ := bind_result_ok h
    rw [bind_of_ok hn, ih h, addEvent_effects named hn, addEvent_spent hn]
    rfl

theorem budget_after_start (ctx : Context) (budget : Nat) :
    ((Bodies.new budget).spend (ctx.lowerStart budget).capture.effects).budget =
      budget - (ctx.lowerStart budget).visits.length := by
  rw [← visits_capture]
  rfl

/-- What is done for the bodies beside writing: the walk of the first module, then the events. -/
theorem bodies_effects (named : ctx.Named) {b : Bodies} (h : ctx.bodies.result = .ok b) :
    ctx.bodies.effects = (ctx.lowerStart ctx.config.maxEmittedNodes).capture.effects ++
      ctx.occasions.flatMap ctx.occasionEffects := by
  rw [bodies_eq] at h ⊢
  obtain ⟨⟨effects, pieces, _⟩, ho, h⟩ := bind_result_ok h
  obtain ⟨rfl, -⟩ := observe_result_ok ho
  rw [bind_of_ok ho, addEvents_effects named h]
  change _ ++ List.flatMap _ (ctx.occasionsFrom 0 (Bodies.spend _ _).budget _) = _
  rw [budget_after_start]
  rfl

theorem addEvents_actions {index : Nat} {events : List Event} {b b' : Bodies}
    (h : (ctx.addEvents index events b).result = .ok b') :
    ∀ o ∈ ctx.occasionsFrom index b.budget events, o.event.trigger?.isSome = true →
      (o.action ctx).result = .ok () := by
  induction events generalizing index b with
  | nil => exact fun o ho => by cases ho
  | cons event events ih =>
    unfold addEvents at h
    obtain ⟨next, hn, h⟩ := bind_result_ok h
    rw [occasionsFrom]
    refine List.forall_mem_cons.mpr ⟨fun handled => ?_, ?_⟩
    · obtain ⟨trigger, ht⟩ := Option.isSome_iff_exists.mp handled
      rw [addEvent_of_trigger ht] at hn
      obtain ⟨⟨effects, pieces, _⟩, ho, -⟩ := bind_result_ok hn
      obtain ⟨-, hc⟩ := observe_result_ok ho
      exact (capture_result_ok hc).2
    · have rest := ih h
      rwa [addEvent_spent hn] at rest

/-- Where bodies were lowered, so were the walk of the first module and the actions of all events
that have a method. -/
theorem bodies_actions {b : Bodies} (h : ctx.bodies.result = .ok b) :
    (∃ u, (ctx.lowerStart ctx.config.maxEmittedNodes).result = .ok u) ∧
      ∀ o ∈ ctx.occasions, o.event.trigger?.isSome = true → (o.action ctx).result = .ok () := by
  rw [bodies_eq] at h
  obtain ⟨⟨effects, pieces, u⟩, ho, h⟩ := bind_result_ok h
  obtain ⟨rfl, hc⟩ := observe_result_ok ho
  have actions := addEvents_actions h
  change ∀ o ∈ ctx.occasionsFrom 0 (Bodies.spend _ _).budget _, _ at actions
  rw [budget_after_start] at actions
  exact ⟨⟨u, (capture_result_ok hc).2⟩, actions⟩

end Context

end GraphScript
