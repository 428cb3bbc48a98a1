import GraphScript.Proofs.Faultless
import GraphScript.Script.Project

namespace GraphScript

/-- A payload that is a list of entities. -/
def listed (items : List Value) : Value :=
  .map [(.text "entities", .list items)]

/-- A payload that is a project with one scene of entities. -/
def staged (items : List Value) : Value :=
  .map [(.text "scenes", .list [listed items])]

namespace Shape

variable {entries : List (Value × Value)} {items : List Value}

theorem isPayload_listed : isPayload (listed items) = items.all isEntity := by
  have project : isProject (listed items) = false := rfl
  have entity : isEntity (listed items) = false := rfl
  rw [isPayload, project, entity, Bool.or_false, Bool.false_or]
  exact Bool.and_true _

theorem isPayload_staged : isPayload (staged items) = items.all isEntity := by
  have list : isEntityList (staged items) = false := rfl
  have entity : isEntity (staged items) = false := rfl
  rw [isPayload, list, entity, Bool.or_false, Bool.or_false]
  simp [isProject, staged, listed, hasKey, isMap, Value.find?, isListOrNull, isScene]

/-- Without the keys of the other two, a payload is an entity. -/
theorem isPayload_of_no_keys (noScenes : Value.find? "scenes" entries = none)
    (noEntities : Value.find? "entities" entries = none) :
    isPayload (.map entries) = isEntity (.map entries) := by
  have project : isProject (.map entries) = false := by
    rw [isProject, hasKey, noScenes]
    rfl
  have list : isEntityList (.map entries) = false := by
    rw [isEntityList, hasKey, noEntities]
    rfl
  rw [isPayload, project, list]
  rfl

end Shape

namespace Project

variable {entries : List (Value × Value)}

/-- A project of one unnamed scene. -/
def ofEntities (entities : List Entity) : Project :=
  ofScene (.ofEntities entities)

/-- A payload gives the project of some entities, or it is rejected with the faults of theirs. -/
def IsReadAs (entries : List (Value × Value)) : Checked (List Entity) → Prop
  | .good entities => ofPayload entries = .ok (ofEntities entities)
  | .bad issues =>
    ∃ rejection, ofPayload entries = .error rejection ∧
      rejection.fault? = issues.findSome? Issue.fault

theorem findSome?_under (step : String) (issues : List Issue) :
    (issues.map (Issue.under step)).findSome? Issue.fault = issues.findSome? Issue.fault := by
  rw [List.findSome?_map]
  rfl

theorem scene_ofEntries (items : List Value) :
    Scene.ofEntries [(.text "entities", .list items)] =
      ((Checked.items Entity.ofValue 0 items).under "entities").map Scene.ofEntities := by
  show (Scene.mk none none "" <$> (Checked.items Entity.ofValue 0 items).under "entities") = _
  cases Checked.items Entity.ofValue 0 items <;> rfl

theorem listed_isReadAs (items : List Value) :
    IsReadAs [(.text "entities", .list items)] (Checked.items Entity.ofValue 0 items) := by
  have read : ofPayload [(.text "entities", .list items)] =
      ((Scene.ofEntries [(.text "entities", .list items)]).orReject Scene.title >>= fun scene =>
        return ofScene scene) := rfl
  rw [scene_ofEntries] at read
  cases all : Checked.items Entity.ofValue 0 items with
  | good entities =>
    rw [all] at read
    exact read
  | bad issues =>
    rw [all] at read
    exact ⟨_, read, findSome?_under "entities" issues⟩

theorem project_ofEntries (items : List Value) :
    Project.ofEntries [(.text "scenes", .list [listed items])] =
      (((Scene.ofEntries [(.text "entities", .list items)]).under "0").under "scenes").map ofScene := by
  show (Project.mk none none none <$>
    ((Checked.map List.cons ((Scene.ofEntries [(.text "entities", .list items)]).under "0")).ap
      (.good [])).under "scenes" <*> .good []) = _
  cases Scene.ofEntries [(.text "entities", .list items)] <;> rfl

theorem staged_isReadAs (items : List Value) :
    IsReadAs [(.text "scenes", .list [listed items])] (Checked.items Entity.ofValue 0 items) := by
  have read : ofPayload [(.text "scenes", .list [listed items])] =
      (Project.ofEntries [(.text "scenes", .list [listed items])]).orReject title := rfl
  rw [project_ofEntries, scene_ofEntries] at read
  cases all : Checked.items Entity.ofValue 0 items with
  | good entities =>
    rw [all] at read
    exact read
  | bad issues =>
    rw [all] at read
    refine ⟨_, read, ?_⟩
    show ((((issues.map (Issue.under "entities")).map (Issue.under "0")).map
      (Issue.under "scenes")).findSome? Issue.fault) = _
    rw [findSome?_under, findSome?_under, findSome?_under]

theorem entity_isReadAs (noScenes : Value.find? "scenes" entries = none)
    (noEntities : Value.find? "entities" entries = none) :
    IsReadAs entries (Checked.items Entity.ofValue 0 [.map entries]) := by
  have read : ofPayload entries = ((Entity.ofEntries entries).orReject Entity.title >>= fun entity =>
      return ofScene (.ofEntities [entity])) := by
    rw [ofPayload, noScenes, noEntities]
    rfl
  have items : Checked.items Entity.ofValue 0 [.map entries] =
      ((Entity.ofEntries entries).under "0").map fun entity => [entity] := by
    show (Checked.map List.cons ((Entity.ofEntries entries).under (toString 0))).ap (.good []) = _
    cases Entity.ofEntries entries <;> rfl
  rw [items]
  cases one : Entity.ofEntries entries with
  | good entity =>
    rw [one] at read
    exact read
  | bad issues =>
    rw [one] at read
    exact ⟨_, read, (findSome?_under "0" issues).symm⟩

end Project

/-- Two results that come to the same: both are projects with the same entities, and so with the same
artifacts, or both are refusals, and none of the two or both stop at a fault. -/
inductive Agree : Except PayloadIssue Project → Except PayloadIssue Project → Prop where
  | accepted {p q : Project} (entities : p.entities = q.entities)
    (artifacts : ∀ config wanted, compileProject config wanted p = compileProject config wanted q) :
    Agree (.ok p) (.ok q)
  | refused {i j : PayloadIssue} (faults : (∃ f, i = .fault f) ↔ ∃ f, j = .fault f) :
    Agree (.error i) (.error j)

section

variable {checkShape : Bool} {source other : Option String} {entries others : List (Value × Value)}
  {read : Checked (List Entity)}

theorem agree_of_isReadAs (first : Project.IsReadAs entries read)
    (second : Project.IsReadAs others read)
    (shape : Shape.isPayload (.map entries) = Shape.isPayload (.map others))
    (writable : (Value.map entries).isWritable = (Value.map others).isWritable) :
    Agree (parsePayload checkShape source (.map entries))
      (parsePayload checkShape other (.map others)) := by
  by_cases passes : checkShape = true → Shape.isPayload (.map entries) = true
  · rw [parsePayload_of_shape passes, parsePayload_of_shape (by rwa [← shape])]
    cases read with
    | good entities =>
      rw [first, second]
      exact .accepted rfl fun _ _ => rfl
    | bad issues =>
      obtain ⟨rejection, rejected, same⟩ := first
      obtain ⟨rejection', rejected', same'⟩ := second
      rw [rejected, rejected']
      dsimp only
      rw [same, same']
      cases issues.findSome? Issue.fault with
      | some f => exact .refused Iff.rfl
      | none =>
        exact .refused (iff_of_false (fun ⟨_, stop⟩ => by cases stop) (fun ⟨_, stop⟩ => by cases stop))
  · obtain ⟨rfl, wrong⟩ := Classical.not_imp.mp passes
    have wrong : Shape.isPayload (.map entries) = false := Bool.eq_false_iff.mpr wrong
    rw [parsePayload_of_not_shape wrong, parsePayload_of_not_shape (by rwa [← shape]), writable]
    cases (Value.map others).isWritable with
    | true =>
      exact .refused (iff_of_false (fun ⟨_, stop⟩ => by cases stop) (fun ⟨_, stop⟩ => by cases stop))
    | false => exact .refused Iff.rfl

/-- A payload is accepted if it passes the check of its shape and all its entities can be read. -/
theorem parsePayload_eq_ok_iff (h : Project.IsReadAs entries read) {project : Project} :
    parsePayload checkShape source (.map entries) = .ok project ↔
      (checkShape = true → Shape.isPayload (.map entries) = true) ∧
        ∃ entities, read = .good entities ∧ project = Project.ofEntities entities := by
  by_cases passes : checkShape = true → Shape.isPayload (.map entries) = true
  · rw [parsePayload_of_shape passes, and_iff_right passes]
    cases read with
    | good entities =>
      rw [h]
      constructor
      · intro accepted
        cases accepted
        exact ⟨entities, rfl, rfl⟩
      · rintro ⟨_, same, rfl⟩
        cases same
        rfl
    | bad issues =>
      obtain ⟨rejection, rejected, -⟩ := h
      rw [rejected]
      refine iff_of_false (fun accepted => ?_) (fun ⟨_, same, _⟩ => by cases same)
      dsimp only at accepted
      split at accepted <;> cases accepted
  · refine iff_of_false (fun accepted => ?_) fun h => passes h.1
    obtain ⟨rfl, wrong⟩ := Classical.not_imp.mp passes
    rw [parsePayload_of_not_shape (Bool.eq_false_iff.mpr wrong)] at accepted
    cases accepted

end

/-- An entity, a list of it alone and a project with one scene of it come to the same, and so do a list
of entities and a project with one scene of them. The list is accepted if its items pass the check and
can be read, and it gives the entities of the items in order. -/
theorem parsePayload_shapes_agree (checkShape : Bool) (source second third : Option String)
    (entries : List (Value × Value)) (noScenes : Value.find? "scenes" entries = none)
    (noEntities : Value.find? "entities" entries = none) (items : List Value) :
    Agree (parsePayload checkShape source (.map entries))
        (parsePayload checkShape second (listed [.map entries])) ∧
      Agree (parsePayload checkShape source (.map entries))
        (parsePayload checkShape third (staged [.map entries])) ∧
      Agree (parsePayload checkShape second (listed items))
        (parsePayload checkShape third (staged items)) ∧
      ∀ project, parsePayload checkShape second (listed items) = .ok project ↔
        (checkShape = true → items.all Shape.isEntity = true) ∧
          ∃ entities, Checked.items Entity.ofValue 0 items = .good entities ∧
            project = Project.ofEntities entities := by
  have entity := Project.entity_isReadAs noScenes noEntities
  have own : Shape.isPayload (.map entries) = [Value.map entries].all Shape.isEntity := by
    rw [Shape.isPayload_of_no_keys noScenes noEntities, List.all_cons, List.all_nil, Bool.and_true]
  refine ⟨?_, ?_, ?_, fun project => ?_⟩
  · refine agree_of_isReadAs entity (Project.listed_isReadAs _) ?_ ?_
    · exact own.trans Shape.isPayload_listed.symm
    · simp [Value.isWritable, Value.entriesWritable, Value.areWritable]
  · refine agree_of_isReadAs entity (Project.staged_isReadAs _) ?_ ?_
    · exact own.trans Shape.isPayload_staged.symm
    · simp [listed, Value.isWritable, Value.entriesWritable, Value.areWritable]
  · refine agree_of_isReadAs (Project.listed_isReadAs _) (Project.staged_isReadAs _) ?_ ?_
    · exact Shape.isPayload_listed.trans Shape.isPayload_staged.symm
    · simp [listed, Value.isWritable, Value.entriesWritable, Value.areWritable]
  · rw [← Shape.isPayload_listed]
    exact parsePayload_eq_ok_iff (Project.listed_isReadAs items)

theorem exists_of_isSome {ε α : Type} {x : Except ε α} (h : x.toOption.isSome = true) :
    ∃ a, x = .ok a := by
  cases x with
  | ok a => exact ⟨a, rfl⟩
  | error e => cases h

/-- An entity with a number for its id. -/
def numbered : List (Value × Value) :=
  [(.text "id", .int 7), (.text "name", .text "door")]

theorem parsePayload_shapes_agree_numbered :
    (∃ project, parsePayload true none (.map numbered) = .ok project) ∧
      Agree (parsePayload true none (.map numbered))
        (parsePayload true none (listed [.map numbered])) ∧
      Agree (parsePayload true none (.map numbered))
        (parsePayload true none (staged [.map numbered])) := by
  have agree := parsePayload_shapes_agree true none none none numbered rfl rfl []
  exact ⟨exists_of_isSome (by decide +kernel), agree.1, agree.2.1⟩

namespace Shape

/-- Whether a document has the shape in which it is read, which its keys decide. -/
def isRead (value : Value) : Bool :=
  if hasKey "scenes" value then isProject value
  else if hasKey "entities" value then isEntityList value
  else isEntity value

theorem isPayload_iff {value : Value} :
    isPayload value = true ↔
      isRead value = true ∨
        isEntity value = true ∧ (hasKey "scenes" value = true ∨ hasKey "entities" value = true) := by
  unfold isRead isPayload isProject isEntityList
  by_cases scenes : hasKey "scenes" value = true
  · simp [scenes]
  · by_cases entities : hasKey "entities" value = true
    · simp [scenes, entities]
    · simp [scenes, entities]

end Shape

/-- The check accepts a document in the shape in which it is read, and besides any entity that has the
keys of the other shapes, whatever stands under them: for such a document there is no check. -/
theorem parsePayload_checked_iff (source : Option String) (document : Value) :
    (∀ project, parsePayload true source document = .ok project ↔
      parsePayload false source document = .ok project ∧
        (Shape.isRead document = true ∨
          Shape.isEntity document = true ∧
            (Shape.hasKey "scenes" document = true ∨ Shape.hasKey "entities" document = true))) ∧
      (Shape.isEntity document = true →
        parsePayload true source document = parsePayload false source document) := by
  cases document with
  | map entries =>
    have passes : Shape.isPayload (.map entries) = true →
        parsePayload true source (.map entries) = parsePayload false source (.map entries) := by
      intro shape
      rw [parsePayload_of_shape fun _ => shape, parsePayload_of_shape (fun none => by cases none)]
    refine ⟨fun project => ?_, fun entity => passes ?_⟩
    · rw [← Shape.isPayload_iff]
      cases shape : Shape.isPayload (.map entries) with
      | true => rw [passes shape, and_iff_left rfl]
      | false =>
        rw [parsePayload_of_not_shape shape]
        exact iff_of_false (fun accepted => by cases accepted) (fun h => by cases h.2)
    · rw [Shape.isPayload, entity, Bool.or_true]
  | _ => exact ⟨fun project => iff_of_false (fun h => by cases h) (fun h => by cases h.1), fun _ => rfl⟩

/-- An entity with scenes, one of which has no shape that a scene may have. -/
def mixed : Value :=
  .map [(.text "id", .text "door"), (.text "scenes", .list [.map [(.text "id", .int 5)]])]

theorem parsePayload_checked_iff_mixed :
    Shape.isEntity mixed = true ∧ parsePayload true none mixed = parsePayload false none mixed :=
  ⟨by decide, (parsePayload_checked_iff none mixed).2 (by decide)⟩

theorem parsePayload_accepts_mixed :
    (∃ project, parsePayload true none mixed = .ok project) ∧ Shape.isRead mixed = false :=
  ⟨exists_of_isSome (by decide +kernel), by decide⟩

end GraphScript
