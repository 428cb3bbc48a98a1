import GraphScript.Proofs.Placement

namespace GraphScript

open CSharp

theorem neutral_waitText {seconds : String} (h : Unmarked seconds) :
    Neutral (Passage.waitText seconds) :=
  neutral_join [.given _, .part _ h.neutral, .given _, .given _] rfl

namespace Context

variable {ctx : Context}

/-- What an ordinary passage holds is contained, line by line. -/
theorem Harmless.contained (harmless : ctx.Harmless) {p : Passage} (h : p.IsOrdinary ctx) :
    ∀ line ∈ p.lines, Contained line.text := by
  have brace : Neutral "\x7b" ∧ Neutral "\x7d" := by decide
  induction p with
  | empty => simp [Passage.lines]
  | line text =>
    refine List.forall_mem_singleton.mpr ?_
    rcases h with rfl | ordinary
    · exact Neutral.contained (by decide)
    · exact (ordinary.neutral harmless).contained
  | comment text => exact List.forall_mem_singleton.mpr (contained_comment text)
  | wait seconds => exact List.forall_mem_singleton.mpr (neutral_waitText h).contained
  | block header body ih =>
    obtain ⟨top, inside⟩ := h
    rw [Passage.lines]
    refine List.forall_mem_append.mpr ⟨fun line hl => ?_, List.forall_mem_cons.mpr
      ⟨brace.1.contained, List.forall_mem_append.mpr ⟨fun line hl => ?_,
        List.forall_mem_singleton.mpr brace.2.contained⟩⟩⟩
    · obtain ⟨text, ht, rfl⟩ := List.mem_map.mp hl
      exact ((top text (Option.mem_toList.mp ht)).neutral harmless).contained
    · obtain ⟨inner, hi, rfl⟩ := List.mem_map.mp hl
      exact ih inside inner hi
  | under test statement =>
    obtain ⟨rfl, ordinary⟩ := h
    have hit : Neutral hitLine := by decide
    exact List.forall_mem_cons.mpr ⟨hit.contained,
      List.forall_mem_singleton.mpr (ordinary.neutral harmless).contained⟩
  | seq first second ih ih' =>
    exact List.forall_mem_append.mpr ⟨ih h.1, ih' h.2⟩

theorem of_harmless {config : Config} {entity : Entity}
    (keys : ∀ key ∈ entity.inputKeys, Neutral (Key.member key))
    (settings : ∀ text ∈ config.givenTexts, Neutral text) : (Context.of entity config).Harmless := by
  have ⟨he, hc⟩ := of_fields entity config
  exact ⟨by rwa [he], by rwa [hc]⟩

end Context

/-- Under the default settings each line of a class is one line, and as code it completes the
literals and closes the parentheses that it opens, if the keys that the entity asks for do so. -/
theorem assemble_contained {config : Config} (valid : Config.Draft.default.check = .ok config)
    {entity : Entity} (keys : ∀ key ∈ entity.inputKeys, Neutral (Key.member key)) {a : Artifact}
    (h : (assemble config entity).result = .ok (some a)) :
    ∃ w : Writer, (Context.of entity config).classWriter.result = .ok w ∧
      a.source = w.render config.indent ++ "\n" ∧ ∀ line ∈ w.lines.toList, Contained line.text := by
  have settings : ∀ text ∈ config.givenTexts, Neutral text := by
    cases valid
    decide
  obtain ⟨w, s, hw, source, rfl⟩ := assemble_assembly valid h
  refine ⟨_, hw, source, ?_⟩
  rw [Writer.lines_run]
  exact (Context.of_harmless keys settings).contained (s.isOrdinary (Context.of_named valid entity))

/-- An entity that asks for a key. -/
def pressedEntity (name key : String) : Entity where
  id := name
  name := name
  type := none
  texture := none
  role := none
  tags := []
  x := .null
  y := .null
  rotation := .null
  scaleX := .null
  scaleY := .null
  vars := [⟨none, name, "string", .text name⟩]
  events :=
    [⟨none, "OnUpdate", [], none, [⟨"InputDown", some key, []⟩], some "Log",
      [("message", .text name)]⟩]
  modules := []

theorem pressedEntity_assembles (config : Config) (name key : String) :
    ∃ a, (assemble config (pressedEntity name key)).result = .ok (some a) := by
  have none : (pressedEntity name key).integers = [] := rfl
  refine assemble_of_fits config rfl fun n hn => ?_
  rw [none] at hn
  cases hn

/-- The busy entity, which also asks for a key. -/
def askingEntity (key : String) : Entity :=
  { busyEntity with
    events := ⟨none, "OnUpdate", [], none, [⟨"InputDown", some key, []⟩], some "Log", []⟩ ::
      busyEntity.events }

theorem askingEntity_assembles (config : Config) (key : String) :
    ∃ a, (assemble config (askingEntity key)).result = .ok (some a) := by
  have same : (askingEntity key).integers = busyEntity.integers := rfl
  refine assemble_of_fits config rfl ?_
  rw [same]
  exact Value.allBounded_of_small (by decide)

/-- The class of an entity that asks for a key, with what is found in its lines. -/
theorem pressedEntity_source {draft : Config.Draft} {name key : String} {found : Config → Writer → Bool}
    (h : (do
      let config ← draft.check.toOption
      let w ← (Context.of (pressedEntity name key) config).classWriter.result.toOption
      return found config w) = some true) :
    ∃ config a w, draft.check = .ok config ∧
      (assemble config (pressedEntity name key)).result = .ok (some a) ∧
      (Context.of (pressedEntity name key) config).classWriter.result = .ok w ∧
      a.source = w.render config.indent ++ "\n" ∧ found config w = true := by
  have given {ε α : Type} {x : Except ε α} {a : α} (h : x.toOption = some a) : x = .ok a := by
    cases x with
    | error => cases h
    | ok => rw [Option.some.inj h]
  obtain ⟨config, valid, h⟩ := Option.bind_eq_some_iff.mp h
  obtain ⟨w, written, h⟩ := Option.bind_eq_some_iff.mp h
  obtain ⟨a, ha⟩ := pressedEntity_assembles config name key
  obtain ⟨w', hw, source⟩ := assemble_classWriter ha
  obtain rfl : w = w' := Except.ok.inj ((given written).symm.trans hw)
  exact ⟨config, a, w, given valid, ha, hw, source, Option.some.inj h⟩

/-- A text that tries to end a literal, a comment and a block. -/
def hostileText : String := "\");\n\x7d // \\ ("

theorem assemble_contained_hostile :
    ∃ config a, Config.Draft.default.check = .ok config ∧
      (assemble config (pressedEntity hostileText "KeyW")).result = .ok (some a) ∧
      ∃ w : Writer,
        (Context.of (pressedEntity hostileText "KeyW") config).classWriter.result = .ok w ∧
        a.source = w.render config.indent ++ "\n" ∧
        ∀ line ∈ w.lines.toList, Contained line.text := by
  obtain ⟨config, valid⟩ : ∃ config, Config.Draft.default.check = .ok config := ⟨_, rfl⟩
  obtain ⟨a, ha⟩ := pressedEntity_assembles config hostileText "KeyW"
  have keys : ∀ key ∈ (pressedEntity hostileText "KeyW").inputKeys, Neutral (Key.member key) := by
    decide
  exact ⟨config, a, valid, ha, assemble_contained valid keys ha⟩

/-- A key can end the test that it is placed in, and the line. -/
def hostileKey : String := "A))\nApplication.Quit();//"

theorem hostileKey_not_contained :
    ∃ config a w, Config.Draft.default.check = .ok config ∧
      (assemble config (pressedEntity "door" hostileKey)).result = .ok (some a) ∧
      (Context.of (pressedEntity "door" hostileKey) config).classWriter.result = .ok w ∧
      a.source = w.render config.indent ++ "\n" ∧
      ∃ line ∈ w.lines.toList, ¬Contained line.text := by
  -- the line of the test holds the break that is in the key
  have breaks : (do
      let config ← Config.Draft.default.check.toOption
      let w ← (Context.of (pressedEntity "door" hostileKey) config).classWriter.result.toOption
      return w.lines.toList.any fun line => line.text.toList.any lineBreaks.contains) = some true := by
    decide +kernel
  obtain ⟨config, a, w, valid, ha, hw, source, breaks⟩ := pressedEntity_source breaks
  obtain ⟨line, hl, breaks⟩ := List.any_eq_true.mp breaks
  obtain ⟨c, hc, broken⟩ := List.any_eq_true.mp breaks
  exact ⟨config, a, w, valid, ha, hw, source, line, hl, fun contained =>
    contained.unbroken c hc (List.contains_iff_mem.mp broken)⟩

end GraphScript
