import GraphScript.Proofs.Assembly

namespace GraphScript

open Lowered

/-- The triggers that have a method. -/
def hookNames : List String :=
  ["OnStart", "OnUpdate", "OnCollision"]

theorem Trigger.ofName?_isNone (name : String) :
    (ofName? name).isNone = !hookNames.contains name := by
  unfold ofName?
  split
  next => rfl
  next => rfl
  next => rfl
  next start update collision =>
    have other : name ∉ hookNames := by
      rw [hookNames, List.mem_cons, List.mem_cons, List.mem_singleton]
      rintro (h | h | h)
      · exact start h
      · exact update h
      · exact collision h
    simp [other]

/-- The triggers of the events that have no method, one for each event. -/
def Entity.unhandled (entity : Entity) : List String :=
  (entity.events.map fun e => Text.trim e.trigger).filter fun name => !hookNames.contains name

namespace Context

variable {ctx : Context}

theorem lowerStart_pieces (budget : Nat) :
    (ctx.lowerStart budget).pieces =
      match ctx.entity.modules.find? fun m => m.entryNode?.isSome with
      | none => []
      | some module => .comment ("Module: " ++ module.label) ::
          (ctx.traverse budget [] module module.entryNode?).pieces := by
  unfold lowerStart startModule?
  cases ctx.entity.modules.find? fun m => m.entryNode?.isSome <;> rfl

theorem Contributes.unhandled?_eq {o : Occasion} {c : Contribution} (h : ctx.Contributes o c) :
    c.unhandled? = if hookNames.contains (Text.trim o.event.trigger) then none
      else some (Text.trim o.event.trigger) := by
  have named : o.event.trigger?.isNone = !hookNames.contains (Text.trim o.event.trigger) :=
    Trigger.ofName?_isNone _
  have known {trigger : Trigger} (handled : o.event.trigger? = some trigger) :
      hookNames.contains (Text.trim o.event.trigger) = true := by
    rw [handled] at named
    simpa using named
  cases h with
  | unhandled trigger =>
    rw [trigger] at named
    rw [if_neg (by simpa using named)]
    rfl
  | nothing handled _ =>
    rw [if_pos (known handled)]
    rfl
  | inline handled _ _ _ _ =>
    rw [if_pos (known handled)]
    rfl
  | routine handled _ _ _ _ =>
    rw [if_pos (known handled)]
    rfl

theorem unhandled_of_contributes {occasions : List Occasion} {contributions : List Contribution}
    (h : List.Forall₂ ctx.Contributes occasions contributions) :
    contributions.filterMap Contribution.unhandled? =
      (occasions.map fun o => Text.trim o.event.trigger).filter fun name =>
        !hookNames.contains name := by
  induction h with
  | nil => rfl
  | @cons o c _ _ first _ ih =>
    rw [List.filterMap_cons, List.map_cons, List.filter_cons, first.unhandled?_eq, ih]
    cases hookNames.contains (Text.trim o.event.trigger) <;> rfl

/-- The remarks of a class are about all events that have no method. -/
theorem Assembly.unhandled_eq (s : ctx.Assembly) :
    s.contributions.filterMap Contribution.unhandled? = ctx.entity.unhandled := by
  rw [unhandled_of_contributes s.contributes, Entity.unhandled, ← occasions_map_event, List.map_map]
  rfl

end Context

/-- The parts of a class that was assembled under settings that are in range. -/
theorem assemble_assembly {draft : Config.Draft} {config : Config} (valid : draft.check = .ok config)
    {entity : Entity} {a : Artifact} (h : (assemble config entity).result = .ok (some a)) :
    ∃ (w : Writer) (s : (Context.of entity config).Assembly),
      (Context.of entity config).classWriter.result = .ok w ∧
      a.source = w.render config.indent ++ "\n" ∧
      w = (Writer.new 0).run s.code.passage.pieces := by
  obtain ⟨w, hw, source⟩ := assemble_classWriter h
  obtain ⟨s, hs⟩ := Context.classWriter_assembly (Context.of_named valid entity) hw
  exact ⟨w, s, hw, source, hs⟩

/-- Each event of an entity contributes what belongs to it: a count in the remark about its trigger,
nothing if it does nothing, or its body inside its guards. The body stands in the method of its
trigger, or in a routine of its own with a guarded call in its place if it waits outside of the
start. All contributions are in the order of the events, and the start begins with the walk of the
first module that can be walked. -/
theorem assemble_places_events {draft : Config.Draft} {config : Config}
    (valid : draft.check = .ok config) {entity : Entity} {a : Artifact}
    (h : (assemble config entity).result = .ok (some a)) :
    ∃ (w : Writer) (s : (Context.of entity config).Assembly),
      (Context.of entity config).classWriter.result = .ok w ∧
      a.source = w.render config.indent ++ "\n" ∧
      w.lines.toList = s.code.passage.lines ∧
      (Context.of entity config).occasions.map (fun o => (o.event, o.index)) = entity.events.zipIdx ∧
      List.Forall₂ (Context.of entity config).Contributes (Context.of entity config).occasions
        s.contributions ∧
      (s.contributions.filterMap Contribution.routine?).map RoutineCode.number =
        List.range (s.contributions.filterMap Contribution.routine?).length ∧
      s.start.pieces =
        (match entity.modules.find? fun m => m.entryNode?.isSome with
        | none => []
        | some module => .comment ("Module: " ++ module.label) ::
            ((Context.of entity config).traverse config.maxEmittedNodes [] module
              module.entryNode?).pieces) ∧
      s.code.methods =
        [Context.awakeMethod] ++ Context.initializeMethods config ++
          (Context.startMethod (.seq s.start (.concat (s.contributions.map
            (Contribution.passage .start))))).unlessEmpty ++
          Method.unlessEmpty ⟨"void Update()", .concat (s.contributions.map
            (Contribution.passage (.hook .update)))⟩ ++
          Method.unlessEmpty ⟨"void OnCollisionEnter2D(Collision2D collision)",
            .concat (s.contributions.map (Contribution.passage (.hook .collision)))⟩ ++
          (Context.of entity config).damageMethods
            (Facts.none.after (Context.of entity config).bodies.effects) ++
          (s.contributions.filterMap Contribution.routine?).map RoutineCode.method ∧
      s.code.remarks = Context.remarks (tally entity.unhandled) ∧
      ((tally entity.unhandled).map Prod.snd).sum = entity.unhandled.length := by
  obtain ⟨w, s, hw, source, rfl⟩ := assemble_assembly valid h
  have ⟨he, hc⟩ := Context.of_fields entity config
  refine ⟨_, s, hw, source, Writer.lines_run _, ?_, s.contributes, s.numbered, ?_, ?_, ?_,
    sum_tally _⟩
  · rw [Context.occasions_events, he]
  · rw [← s.starts.pieces, Context.lowerStart_pieces, he, hc]
  · simp only [Context.Assembly.code, Context.classCode, BodyCode.of, hc, Hook.all,
      List.flatMap_cons, List.flatMap_nil, List.append_nil, List.append_assoc, List.cons_append]
    rfl
  · change Context.remarks (tally (s.contributions.filterMap Contribution.unhandled?)) = _
    rw [s.unhandled_eq, he]

/-- An entity with an event of each sort. -/
def busyEntity : Entity where
  id := "guard"
  name := "Guard"
  type := none
  texture := none
  role := none
  tags := []
  x := .null
  y := .null
  rotation := .null
  scaleX := .null
  scaleY := .null
  vars := [⟨none, "hp", "int", .int 3⟩]
  events :=
    [⟨none, " OnStart ", [], none, [], some "Wait", [("seconds", .int 1)]⟩,
     ⟨none, "OnUpdate", [("cooldown", .int 2)], none, [⟨"IsAlive", none, []⟩], some "RunModule",
       [("moduleId", .text "rest")]⟩,
     ⟨none, "OnUpdate", [], none, [], some "Attack", []⟩,
     ⟨none, "OnCollision", [], none, [], none, []⟩,
     ⟨none, "OnClick", [], none, [], some "Log", []⟩,
     ⟨none, "OnClick", [], none, [], some "Log", []⟩]
  modules :=
    [.make "rest" "" none
      [⟨"in", "Entry", none, []⟩, ⟨"nap", "Action", some "Wait", [("seconds", .int 2)]⟩]
      [⟨none, some "in", some "out", some "nap", none⟩]]

/-- An entity with logic is assembled if no integer in it is too large. -/
theorem assemble_of_fits (config : Config) {entity : Entity} (logic : entity.hasLogic = true)
    (fits : Value.AllBounded entity.integers) :
    ∃ a, (assemble config entity).result = .ok (some a) := by
  obtain ⟨made, hm⟩ := (assemble_succeeds config (Entity.bounded_of_integers fits)).ends
  have own := assemble_entityId hm
  cases made with
  | none => simp [logic] at own
  | some a => exact ⟨a, hm⟩

theorem busyEntity_assembles (config : Config) :
    ∃ a, (assemble config busyEntity).result = .ok (some a) :=
  assemble_of_fits config rfl (Value.allBounded_of_small (by decide))

theorem assemble_places_events_busy :
    ∃ config a, Config.Draft.default.check = .ok config ∧
      (assemble config busyEntity).result = .ok (some a) ∧
      ∃ s : (Context.of busyEntity config).Assembly, s.contributions.length = 6 ∧
        s.code.remarks = Context.remarks [("OnClick", 2)] := by
  obtain ⟨config, valid⟩ : ∃ config, Config.Draft.default.check = .ok config := ⟨_, rfl⟩
  obtain ⟨a, ha⟩ := busyEntity_assembles config
  obtain ⟨w, s, -, -, -, events, contributes, -, -, -, remarks, -⟩ := assemble_places_events valid ha
  refine ⟨config, a, valid, ha, s, ?_, remarks⟩
  rw [← contributes.length_eq, ← List.length_map, events]
  rfl

end GraphScript
