import GraphScript.Proofs.Faultless
import Mathlib.Logic.Relation

namespace GraphScript

/-- The fields that hold objects. -/
def objectFields : List String :=
  ["scenes", "entities", "variables", "events", "conditions", "modules", "nodes", "edges"]

/-- The fields that hold lists. -/
def listFields : List String :=
  "tags" :: "assets" :: objectFields

/-- The fields that hold parameters. -/
def mapFields : List String :=
  ["params", "triggerParams", "trigger_params"]

/-- The fields that hold neither. -/
def plainFields : List String :=
  ["id", "name", "type", "value", "key", "trigger", "conditionLogic", "condition_logic", "action", "kind",
   "fromNodeId", "from_node_id", "fromPort", "from_port", "toNodeId", "to_node_id", "toPort", "to_port",
   "entryNodeId", "entry_node_id", "texture", "role", "x", "y", "rotation", "scaleX", "scale_x", "scaleY",
   "scale_y", "sceneId", "scene_id", "formatVersion", "format_version", "activeSceneId",
   "active_scene_id", "projectType", "project_type"]

/-- The names of all fields of all models. -/
def fieldNames : List String :=
  plainFields ++ mapFields ++ listFields

mutual

/-- One change in an object, or in an object inside it. The name of a field decides what may change
there, whichever model the object is read as; parameters, tags, assets and plain fields are not changed
inside. -/
inductive Edit : Value → Value → Prop
  | field {name : String} {v v' : Value} (before after : List (Value × Value)) : Revised name v v' →
      Edit (.map (before ++ (.text name, v) :: after)) (.map (before ++ (.text name, v') :: after))
  | foreign {key : String} (before after : List (Value × Value)) (value : Value) : key ∉ fieldNames →
      Edit (.map (before ++ after)) (.map (before ++ (.text key, value) :: after))

/-- One change of the value of a field. -/
inductive Revised : String → Value → Value → Prop
  | list {name : String} : name ∈ listFields → Revised name .null (.list [])
  | map {name : String} : name ∈ mapFields → Revised name .null (.map [])
  | item {name : String} {v v' : Value} (before after : List Value) : name ∈ objectFields → Edit v v' →
      Revised name (.list (before ++ v :: after)) (.list (before ++ v' :: after))

end

theorem objectFields_subset : objectFields ⊆ listFields :=
  fun _ h => List.mem_cons_of_mem _ (List.mem_cons_of_mem _ h)

theorem not_mapFields_of_list {name : String} (h : name ∈ listFields) : name ∉ mapFields := by
  have apart : listFields.all (fun name => !mapFields.contains name) = true := by decide +kernel
  simpa using List.all_eq_true.mp apart name h

theorem not_revised_of_plain {name : String} (h : name ∈ plainFields) {v v' : Value} :
    ¬Revised name v v' := by
  have apart : plainFields.all (fun name => !listFields.contains name && !mapFields.contains name) = true := by
    decide +kernel
  obtain ⟨list, map⟩ : name ∉ listFields ∧ name ∉ mapFields := by
    simpa using List.all_eq_true.mp apart name h
  intro revised
  cases revised with
  | list h => exact list h
  | map h => exact map h
  | item _ _ h => exact list (objectFields_subset h)

/-- A function of a field that no change of the field touches. -/
structure Steady {β : Type} (name : String) (f : Value → β) : Prop where
  known : name ∈ fieldNames
  revised : ∀ v v', Revised name v v' → f v = f v'

/-- A function of documents that no change touches. -/
def Tolerant {β : Type} (f : Value → β) : Prop :=
  ∀ v v', Edit v v' → f v = f v'

theorem Value.find?_append (key : String) (before after : List (Value × Value)) :
    find? key (before ++ after) = (find? key before).or (find? key after) := by
  induction before with
  | nil => rfl
  | cons entry rest ih =>
    obtain ⟨k, v⟩ := entry
    cases k with
    | text k =>
      rw [List.cons_append, find?, find?]
      split
      next => rfl
      next => exact ih
    | _ => exact ih

/-- Objects whose fields are the same up to one change in each. -/
def Alike (entries entries' : List (Value × Value)) : Prop :=
  ∀ name ∈ fieldNames, Value.find? name entries = Value.find? name entries' ∨
    ∃ v v', Value.find? name entries = some v ∧ Value.find? name entries' = some v' ∧ Revised name v v'

/-- What a change does to the fields of an object. -/
theorem Edit.alike {v v' : Value} (h : Edit v v') :
    ∃ entries entries', v = .map entries ∧ v' = .map entries' ∧ Alike entries entries' := by
  cases h with
  | @field changed v v' before after revised =>
    refine ⟨_, _, rfl, rfl, fun name _ => ?_⟩
    rw [Value.find?_append, Value.find?_append, Value.find?, Value.find?]
    by_cases same : changed = name
    · subst same
      rw [if_pos rfl, if_pos rfl]
      cases Value.find? changed before with
      | some found => exact .inl rfl
      | none => exact .inr ⟨v, v', rfl, rfl, revised⟩
    · rw [if_neg same, if_neg same]
      exact .inl rfl
  | @foreign key before after value foreign =>
    refine ⟨_, _, rfl, rfl, fun name known => ?_⟩
    have other : key ≠ name := fun same => foreign (same ▸ known)
    rw [Value.find?_append, Value.find?_append, Value.find?, if_neg other]
    exact .inl rfl

theorem Alike.isSome_find? {entries entries' : List (Value × Value)} (alike : Alike entries entries')
    {key : String} (known : key ∈ fieldNames) :
    (Value.find? key entries).isSome = (Value.find? key entries').isSome := by
  rcases alike key known with same | ⟨v, v', found, found', -⟩
  · rw [same]
  · rw [found, found']
    rfl

/-- A steady function has the same value on the field of both objects, if the field is there. -/
theorem Alike.map_find? {β : Type} {entries entries' : List (Value × Value)}
    (alike : Alike entries entries') {key : String} {f : Value → β} (h : Steady key f) :
    (Value.find? key entries).map f = (Value.find? key entries').map f := by
  rcases alike key h.known with same | ⟨v, v', found, found', revised⟩
  · rw [same]
  · rw [found, found', Option.map_some, Option.map_some, h.revised v v' revised]

namespace Steady

variable {β : Type} {name : String} {f : Value → β}

theorem plain (h : name ∈ plainFields) (f : Value → β) : Steady name f :=
  ⟨List.mem_append_left _ (List.mem_append_left _ h), fun _ _ revised => absurd revised (not_revised_of_plain h)⟩

theorem map (h : name ∈ mapFields) (empty : f .null = f (.map [])) : Steady name f := by
  refine ⟨List.mem_append_left _ (List.mem_append_right _ h), fun v v' revised => ?_⟩
  cases revised with
  | list other => exact absurd h (not_mapFields_of_list other)
  | map => exact empty
  | item _ _ other => exact absurd h (not_mapFields_of_list (objectFields_subset other))

theorem list (h : name ∈ listFields) (empty : f .null = f (.list []))
    (inside : name ∈ objectFields → ∀ before after v v', Edit v v' →
      f (.list (before ++ v :: after)) = f (.list (before ++ v' :: after))) : Steady name f := by
  refine ⟨List.mem_append_right _ h, fun v v' revised => ?_⟩
  cases revised with
  | list => exact empty
  | map other => exact absurd other (not_mapFields_of_list h)
  | item before after object edit => exact inside object before after _ _ edit

end Steady

namespace Checked

variable {α β : Type}

/-- What is accepted. -/
def good? : Checked α → Option α
  | good a => some a
  | bad _ => none

@[simp] theorem good?_under (step : String) (x : Checked α) : (x.under step).good? = x.good? := by
  cases x <;> rfl

/-- Two results that accept the same; the complaints may differ. -/
def Agree (x y : Checked α) : Prop :=
  x.good? = y.good?

theorem Agree.refl (x : Checked α) : x.Agree x :=
  rfl

theorem Agree.under {x y : Checked α} (h : x.Agree y) (step step' : String) :
    (x.under step).Agree (y.under step') := by
  rw [Agree, good?_under, good?_under]
  exact h

theorem Agree.ap {f g : Checked (α → β)} {x y : Checked α} (hf : f.Agree g) (hx : x.Agree y) :
    (f.ap x).Agree (g.ap y) := by
  have split (f : Checked (α → β)) (x : Checked α) : (f.ap x).good? = f.good?.bind x.good?.map := by
    cases f <;> cases x <;> rfl
  rw [Agree, split, split, hf, hx]

theorem Agree.fmap {x y : Checked α} (h : x.Agree y) (f : α → β) : (f <$> x).Agree (f <$> y) :=
  (Agree.refl (good f)).ap h

theorem Agree.seq {f g : Checked (α → β)} {x y : Checked α} (hf : f.Agree g) (hx : x.Agree y) :
    (f <*> x).Agree (g <*> y) :=
  hf.ap hx

theorem Agree.map {x y : Checked α} (h : x.Agree y) (f : α → β) : (x.map f).Agree (y.map f) := by
  have split (x : Checked α) : (x.map f).good? = x.good?.map f := by
    cases x <;> rfl
  rw [Agree, split, split, h]

/-- A reader of objects that no change touches. -/
def IsTolerant (read : Value → Checked α) : Prop :=
  Tolerant fun v => (read v).good?

theorem isTolerant_model (title : String) {read : List (Value × Value) → Checked α}
    (h : ∀ entries entries', Alike entries entries' → (read entries).Agree (read entries')) :
    IsTolerant (model title read) := by
  intro v v' edit
  obtain ⟨entries, entries', rfl, rfl, alike⟩ := edit.alike
  exact h entries entries' alike

theorem items_agree {read : Value → Checked α} {v v' : Value} (h : (read v).Agree (read v'))
    (before after : List Value) (position : Nat) :
    (items read position (before ++ v :: after)).Agree (items read position (before ++ v' :: after)) := by
  induction before generalizing position with
  | nil => exact ((h.under _ _).map _).ap (.refl _)
  | cons item before ih => exact (Agree.refl _).ap (ih (position + 1))

section

variable {name : String}

theorem steady_params (h : name ∈ mapFields) : Steady name fun v => (params v).good? :=
  .map h rfl

theorem steady_listOf (h : name ∈ listFields) {read : Value → Checked α}
    (inside : name ∈ objectFields → IsTolerant read) : Steady name fun v => (listOf read v).good? :=
  .list h rfl fun object before after v v' edit => items_agree (inside object v v' edit) before after 0

end

theorem good?_required (entries : List (Value × Value)) (key : String) (read : Value → Checked α) :
    (required entries key read).good? = ((Value.find? key entries).map fun v => (read v).good?).getD none := by
  unfold required
  cases Value.find? key entries with
  | none => rfl
  | some v => exact good?_under key (read v)

theorem good?_field_cons (entries : List (Value × Value)) (key : String) (rest : List String) (default : α)
    (read : Value → Checked α) :
    (field entries (key :: rest) default read).good? =
      ((Value.find? key entries).map fun v => (read v).good?).getD
        (field entries rest default read).good? := by
  unfold field presentIn?
  rw [List.findSome?_cons]
  cases Value.find? key entries with
  | none => rfl
  | some v => exact good?_under key (read v)

section

variable {entries entries' : List (Value × Value)} (alike : Alike entries entries')

include alike

theorem agree_required (key : String) {read : Value → Checked α}
    (h : Steady key fun v => (read v).good?) :
    (required entries key read).Agree (required entries' key read) := by
  rw [Agree, good?_required, good?_required, alike.map_find? h]

theorem agree_field {keys : List String} (default : α) {read : Value → Checked α}
    (h : ∀ key ∈ keys, Steady key fun v => (read v).good?) :
    (field entries keys default read).Agree (field entries' keys default read) := by
  induction keys with
  | nil => exact .refl _
  | cons key rest ih =>
    obtain ⟨first, others⟩ := List.forall_mem_cons.mp h
    rw [Agree, good?_field_cons, good?_field_cons, alike.map_find? first, ih others]

end

end Checked

open Checked

section

variable {entries entries' : List (Value × Value)} (alike : Alike entries entries')

include alike

theorem agree_plain {α : Type} {keys : List String} (h : keys ⊆ plainFields) (default : α)
    (read : Value → Checked α) : (field entries keys default read).Agree (field entries' keys default read) :=
  agree_field alike default fun _ hk => .plain (h hk) _

theorem agree_params {keys : List String} (h : keys ⊆ mapFields) :
    (field entries keys [] params).Agree (field entries' keys [] params) :=
  agree_field alike [] fun _ hk => steady_params (h hk)

theorem agree_list {α : Type} {key : String} (h : key ∈ listFields) {read : Value → Checked α}
    (inside : key ∈ objectFields → IsTolerant read) :
    (field entries [key] [] (listOf read)).Agree (field entries' [key] [] (listOf read)) := by
  refine agree_field alike [] fun name hk => ?_
  cases List.mem_singleton.mp hk
  exact steady_listOf h inside

end

theorem Node.isTolerant : IsTolerant Node.ofValue :=
  isTolerant_model _ fun _ _ alike =>
    ((((agree_required alike "id" (.plain (by decide) _)).fmap _).seq
      (agree_plain alike (by decide) _ _)).seq
      (agree_plain alike (by decide) _ _)).seq (agree_params alike (by decide))

theorem Edge.isTolerant : IsTolerant Edge.ofValue :=
  isTolerant_model _ fun _ _ alike =>
    (((((agree_plain alike (by decide) _ _).fmap _).seq
      (agree_plain alike (by decide) _ _)).seq
      (agree_plain alike (by decide) _ _)).seq
      (agree_plain alike (by decide) _ _)).seq (agree_plain alike (by decide) _ _)

theorem Module.isTolerant : IsTolerant Module.ofValue :=
  isTolerant_model _ fun _ _ alike =>
    (((((agree_plain alike (by decide) _ _).fmap _).seq
      (agree_plain alike (by decide) _ _)).seq
      (agree_plain alike (by decide) _ _)).seq
      (agree_list alike (by decide) fun _ => Node.isTolerant)).seq
      (agree_list alike (by decide) fun _ => Edge.isTolerant)

theorem Variable.isTolerant : IsTolerant Variable.ofValue :=
  isTolerant_model _ fun _ _ alike =>
    ((((agree_plain alike (by decide) _ _).fmap _).seq
      (agree_plain alike (by decide) _ _)).seq
      (agree_plain alike (by decide) _ _)).seq (agree_plain alike (by decide) _ _)

theorem Condition.isTolerant : IsTolerant Condition.ofValue :=
  isTolerant_model _ fun _ _ alike =>
    (((agree_plain alike (by decide) _ _).fmap _).seq
      (agree_plain alike (by decide) _ _)).seq (agree_params alike (by decide))

theorem Event.isTolerant : IsTolerant Event.ofValue :=
  isTolerant_model _ fun _ _ alike =>
    (((((((agree_plain alike (by decide) _ _).fmap _).seq
      (agree_plain alike (by decide) _ _)).seq
      (agree_params alike (by decide))).seq
      (agree_plain alike (by decide) _ _)).seq
      (agree_list alike (by decide) fun _ => Condition.isTolerant)).seq
      (agree_plain alike (by decide) _ _)).seq (agree_params alike (by decide))

section

variable {entries entries' : List (Value × Value)} (alike : Alike entries entries')

include alike

theorem Entity.agree : (Entity.ofEntries entries).Agree (Entity.ofEntries entries') := by
  have text {keys : List String} (h : keys ⊆ plainFields) := agree_plain alike h none optionalText
  have free {keys : List String} (h : keys ⊆ plainFields) := agree_plain alike h .null any
  exact ((((((((((((((agree_required alike "id" (.plain (by decide) _)).fmap _).seq
    (agree_plain alike (by decide) _ _)).seq
    (text (by decide))).seq (text (by decide))).seq (text (by decide))).seq
    (agree_list alike (by decide) fun object => absurd object (by decide))).seq
    (free (by decide))).seq (free (by decide))).seq (free (by decide))).seq (free (by decide))).seq
    (free (by decide))).seq
    (agree_list alike (by decide) fun _ => Variable.isTolerant)).seq
    (agree_list alike (by decide) fun _ => Event.isTolerant)).seq
    (agree_list alike (by decide) fun _ => Module.isTolerant)

theorem Scene.agree : (Scene.ofEntries entries).Agree (Scene.ofEntries entries') :=
  ((((agree_plain alike (by decide) _ _).fmap _).seq
    (agree_plain alike (by decide) _ _)).seq
    (agree_plain alike (by decide) _ _)).seq
    (agree_list alike (by decide) fun _ => isTolerant_model _ fun _ _ => Entity.agree)

theorem Project.agree : (Project.ofEntries entries).Agree (Project.ofEntries entries') :=
  (((((agree_plain alike (by decide) _ _).fmap _).seq
    (agree_plain alike (by decide) _ _)).seq
    (agree_plain alike (by decide) _ _)).seq
    (agree_list alike (by decide) fun _ => isTolerant_model _ fun _ _ => Scene.agree)).seq
    (agree_list alike (by decide) fun object => absurd object (by decide))

end

namespace Shape

theorem isMap_cons (key : String) (shape : Value → Bool) (rest : List (String × (Value → Bool)))
    (entries : List (Value × Value)) :
    isMap ((key, shape) :: rest) (.map entries) =
      (((Value.find? key entries).map shape).getD true && isMap rest (.map entries)) := by
  unfold isMap
  dsimp only
  rw [List.all_cons]
  cases Value.find? key entries <;> rfl

theorem tolerant_isMap {known : List (String × (Value → Bool))}
    (h : ∀ entry ∈ known, Steady entry.1 entry.2) : Tolerant (isMap known) := by
  intro v v' edit
  obtain ⟨entries, entries', rfl, rfl, alike⟩ := edit.alike
  induction known with
  | nil => rfl
  | cons entry rest ih =>
    obtain ⟨first, others⟩ := List.forall_mem_cons.mp h
    rw [isMap_cons, isMap_cons, alike.map_find? first, ih others]

theorem tolerant_hasKey {key : String} (known : key ∈ fieldNames) : Tolerant (hasKey key) := by
  intro v v' edit
  obtain ⟨entries, entries', rfl, rfl, alike⟩ := edit.alike
  exact alike.isSome_find? known

theorem steady_isMapOrNull {name : String} (h : name ∈ mapFields) : Steady name isMapOrNull :=
  .map h rfl

theorem steady_isListOrNull {name : String} (h : name ∈ listFields) {item : Value → Bool}
    (inside : name ∈ objectFields → Tolerant item) : Steady name (isListOrNull item) := by
  refine .list h rfl fun object before after v v' edit => ?_
  unfold isListOrNull
  dsimp only
  rw [List.all_append, List.all_append, List.all_cons, List.all_cons, inside object v v' edit]

/-- A check of a key and then of the known keys. -/
theorem tolerant_and {f g : Value → Bool} (hf : Tolerant f) (hg : Tolerant g) :
    Tolerant fun v => f v && g v := by
  intro v v' edit
  dsimp only
  rw [hf v v' edit, hg v v' edit]

theorem tolerant_isVariable : Tolerant isVariable := by
  refine tolerant_isMap ?_
  simp only [List.forall_mem_cons]
  exact ⟨.plain (by decide) _, .plain (by decide) _, .plain (by decide) _, List.forall_mem_nil _⟩

theorem tolerant_isCondition : Tolerant isCondition := by
  refine tolerant_isMap ?_
  simp only [List.forall_mem_cons]
  exact ⟨.plain (by decide) _, .plain (by decide) _, steady_isMapOrNull (by decide), List.forall_mem_nil _⟩

theorem tolerant_isEvent : Tolerant isEvent := by
  refine tolerant_isMap ?_
  simp only [List.forall_mem_cons]
  exact ⟨.plain (by decide) _, .plain (by decide) _, steady_isMapOrNull (by decide),
    .plain (by decide) _, steady_isListOrNull (by decide) fun _ => tolerant_isCondition,
    .plain (by decide) _, steady_isMapOrNull (by decide), List.forall_mem_nil _⟩

theorem tolerant_isNode : Tolerant isNode := by
  refine tolerant_and (tolerant_hasKey (by decide)) (tolerant_isMap ?_)
  simp only [List.forall_mem_cons]
  exact ⟨.plain (by decide) _, .plain (by decide) _, .plain (by decide) _, steady_isMapOrNull (by decide),
    List.forall_mem_nil _⟩

theorem tolerant_isEdge : Tolerant isEdge := by
  refine tolerant_isMap ?_
  simp only [List.forall_mem_cons]
  exact ⟨.plain (by decide) _, .plain (by decide) _, .plain (by decide) _, .plain (by decide) _,
    .plain (by decide) _, List.forall_mem_nil _⟩

theorem tolerant_isModule : Tolerant isModule := by
  refine tolerant_isMap ?_
  simp only [List.forall_mem_cons]
  exact ⟨.plain (by decide) _, .plain (by decide) _, .plain (by decide) _,
    steady_isListOrNull (by decide) fun _ => tolerant_isNode,
    steady_isListOrNull (by decide) fun _ => tolerant_isEdge, List.forall_mem_nil _⟩

theorem tolerant_isEntity : Tolerant isEntity := by
  refine tolerant_and (tolerant_hasKey (by decide)) (tolerant_isMap ?_)
  simp only [List.forall_mem_cons]
  exact ⟨.plain (by decide) _, .plain (by decide) _, .plain (by decide) _, .plain (by decide) _,
    steady_isListOrNull (by decide) fun object => absurd object (by decide),
    steady_isListOrNull (by decide) fun _ => tolerant_isVariable,
    steady_isListOrNull (by decide) fun _ => tolerant_isEvent,
    steady_isListOrNull (by decide) fun _ => tolerant_isModule, List.forall_mem_nil _⟩

theorem tolerant_isScene : Tolerant isScene := by
  refine tolerant_isMap ?_
  simp only [List.forall_mem_cons]
  exact ⟨.plain (by decide) _, .plain (by decide) _, .plain (by decide) _,
    steady_isListOrNull (by decide) fun _ => tolerant_isEntity, List.forall_mem_nil _⟩

theorem tolerant_isProject : Tolerant isProject := by
  refine tolerant_and (tolerant_hasKey (by decide)) (tolerant_isMap ?_)
  simp only [List.forall_mem_cons]
  exact ⟨.plain (by decide) _, .plain (by decide) _, .plain (by decide) _,
    steady_isListOrNull (by decide) fun _ => tolerant_isScene,
    steady_isListOrNull (by decide) fun object => absurd object (by decide), List.forall_mem_nil _⟩

theorem tolerant_isEntityList : Tolerant isEntityList := by
  have scenes : Tolerant fun v => !hasKey "scenes" v := fun v v' edit =>
    congrArg (! ·) (tolerant_hasKey (by decide) v v' edit)
  refine tolerant_and (tolerant_and (tolerant_hasKey (by decide)) scenes) (tolerant_isMap ?_)
  simp only [List.forall_mem_cons]
  exact ⟨steady_isListOrNull (by decide) fun _ => tolerant_isEntity, List.forall_mem_nil _⟩

theorem tolerant_isPayload : Tolerant isPayload := by
  intro v v' edit
  unfold isPayload
  rw [tolerant_isProject v v' edit, tolerant_isEntityList v v' edit, tolerant_isEntity v v' edit]

end Shape

theorem Checked.toOption_orReject {α : Type} (x : Checked α) (title : String) :
    (x.orReject title).toOption = x.good? := by
  cases x <;> rfl

theorem Checked.toOption_orReject_map {α β : Type} (x : Checked α) (title : String) (f : α → β) :
    (do return f (← x.orReject title) : Except Rejection β).toOption = x.good?.map f := by
  cases x <;> rfl

theorem Alike.alone {v v' : Value} (revised : Revised "entities" v v') :
    Alike [(.text "entities", v)] [(.text "entities", v')] := by
  intro name _
  unfold Value.find?
  split
  next same => exact .inr ⟨v, v', rfl, rfl, same ▸ revised⟩
  next => exact .inl rfl

theorem Project.ofPayload_alike {entries entries' : List (Value × Value)}
    (alike : Alike entries entries') :
    (ofPayload entries).toOption = (ofPayload entries').toOption := by
  have scenes : (Value.find? "scenes" entries).isSome = (Value.find? "scenes" entries').isSome :=
    alike.isSome_find? (by decide)
  unfold ofPayload
  rw [scenes]
  split
  next => rw [toOption_orReject, toOption_orReject, Project.agree alike]
  next =>
    rcases alike "entities" (by decide) with same | ⟨v, v', found, found', revised⟩
    · rw [same]
      split
      next => rfl
      next => rw [toOption_orReject_map, toOption_orReject_map, Entity.agree alike]
    · rw [found, found']
      dsimp only
      rw [toOption_orReject_map, toOption_orReject_map, Scene.agree (.alone revised)]

/-- The project of a document, if there is one. -/
theorem toOption_parsePayload (checkShape : Bool) (source : Option String)
    (entries : List (Value × Value)) :
    (parsePayload checkShape source (.map entries)).toOption =
      if checkShape = true → Shape.isPayload (.map entries) = true then (Project.ofPayload entries).toOption
      else none := by
  split
  next passes =>
    rw [parsePayload_of_shape passes]
    cases Project.ofPayload entries with
    | ok => rfl
    | error rejection =>
      dsimp only
      cases rejection.fault? <;> rfl
  next fails =>
    obtain ⟨rfl, wrong⟩ := Classical.not_imp.mp fails
    rw [parsePayload_of_not_shape (Bool.eq_false_of_not_eq_true wrong)]
    rfl

theorem parsePayload_edit {document document' : Value} (edit : Edit document document')
    (checkShape : Bool) (source : Option String) :
    (parsePayload checkShape source document).toOption =
      (parsePayload checkShape source document').toOption := by
  have shape := Shape.tolerant_isPayload document document' edit
  obtain ⟨entries, entries', rfl, rfl, alike⟩ := edit.alike
  rw [toOption_parsePayload, toOption_parsePayload, shape, Project.ofPayload_alike alike]

/-- Null or empty lists and parameters in the objects of a document, and keys that no model knows,
change neither whether a document is a project nor which one. -/
theorem parsePayload_tolerant {document document' : Value}
    (edits : Relation.ReflTransGen Edit document document') (checkShape : Bool) (source : Option String) :
    (parsePayload checkShape source document).toOption =
      (parsePayload checkShape source document').toOption := by
  induction edits with
  | refl => rfl
  | tail _ edit same => exact same.trans (parsePayload_edit edit checkShape source)

/-- An event with its parameters and further keys. -/
def gateEvent (params : Value) (further : List (Value × Value)) : Value :=
  .map ((.text "trigger", .text "OnStart") :: (.text "params", params) :: further)

/-- A project of one entity with its tags and one event. -/
def gateProject (tags event : Value) : Value :=
  .map [(.text "scenes", .list [.map [(.text "entities", .list [.map
    [(.text "id", .text "gate"), (.text "tags", tags), (.text "events", .list [event])]])]])]

theorem parsePayload_tolerant_gate :
    Relation.ReflTransGen Edit (gateProject .null (gateEvent .null []))
      (gateProject (.list []) (gateEvent (.map []) [(.text "color", .int 7)])) ∧
    (parsePayload true none (gateProject .null (gateEvent .null []))).toOption.isSome = true ∧
    (parsePayload true none (gateProject .null (gateEvent .null []))).toOption =
      (parsePayload true none
        (gateProject (.list []) (gateEvent (.map []) [(.text "color", .int 7)]))).toOption := by
  have inScene {entity entity' : Value} (edit : Edit entity entity') :
      Edit (.map [(.text "scenes", .list [.map [(.text "entities", .list [entity])]])])
        (.map [(.text "scenes", .list [.map [(.text "entities", .list [entity'])]])]) :=
    .field [] [] (.item [] [] (by decide) (.field [] [] (.item [] [] (by decide) edit)))
  have inEvent {event event' : Value} (edit : Edit event event') :
      Edit (gateProject .null event) (gateProject .null event') :=
    inScene (.field [(.text "id", .text "gate"), (.text "tags", .null)] [] (.item [] [] (by decide) edit))
  have params : Edit (gateEvent .null []) (gateEvent (.map []) []) :=
    .field [(.text "trigger", .text "OnStart")] [] (.map (by decide))
  have color : Edit (gateEvent (.map []) []) (gateEvent (.map []) [(.text "color", .int 7)]) :=
    .foreign [(.text "trigger", .text "OnStart"), (.text "params", .map [])] [] (.int 7) (by decide)
  have tags (event : Value) : Edit (gateProject .null event) (gateProject (.list []) event) :=
    inScene (.field [(.text "id", .text "gate")] [(.text "events", .list [event])] (.list (by decide)))
  have edits := ((Relation.ReflTransGen.single (inEvent params)).tail (inEvent color)).tail (tags _)
  exact ⟨edits, by decide +kernel, parsePayload_tolerant edits true none⟩

end GraphScript
