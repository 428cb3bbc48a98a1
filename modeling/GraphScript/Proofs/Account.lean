import GraphScript.Proofs.Compile
import GraphScript.Proofs.Contribution

namespace GraphScript

open Lowered

/-- The type that a record gives. -/
def recordType? (r : Params) : Option String :=
  (r.lookup "type").bind Value.asText?

@[simp] theorem recordType?_artifact (a : Artifact) : recordType? a.record = some "artifact" := rfl

@[simp] theorem recordType?_collision (earlier : String) (a : Artifact) :
    recordType? (a.collisionRecord earlier) = some "collision" := rfl

@[simp] theorem recordType?_fallback (entity : String) (f : Fallback) :
    recordType? (f.record entity) = some "fallback" := rfl

/-- Records of fallbacks only. -/
abbrev OnlyFallbacks (records : List Params) : Prop :=
  ∀ r ∈ records, ∃ entity f, r = Fallback.record entity f

namespace Artifact

/-- The latest of some artifacts that has a value under a key. -/
def IsLatest (key : Artifact → String) (value : String) (artifacts : List Artifact)
    (a : Artifact) : Prop :=
  ∃ before after, artifacts = before ++ a :: after ∧ key a = value ∧ ∀ b ∈ after, key b ≠ value

variable {key : Artifact → String} {value : String} {artifacts : List Artifact} {a : Artifact}

theorem find?_reverse_iff :
    artifacts.reverse.find? (fun b => key b == value) = some a ↔ IsLatest key value artifacts a := by
  rw [List.find?_eq_some_iff_append]
  constructor
  · rintro ⟨own, after, before, split, others⟩
    refine ⟨before.reverse, after.reverse, ?_, beq_iff_eq.mp own, fun b hb => ?_⟩
    · rw [← List.reverse_reverse artifacts, split]
      simp
    · simpa using others b (List.mem_reverse.mp hb)
  · rintro ⟨before, after, split, own, others⟩
    refine ⟨beq_iff_eq.mpr own, after.reverse, before.reverse, ?_, fun b hb => ?_⟩
    · rw [split]
      simp
    · simpa using others b (List.mem_reverse.mp hb)

theorem find?_reverse_eq_none :
    artifacts.reverse.find? (fun b => key b == value) = none ↔ ∀ b ∈ artifacts, key b ≠ value := by
  simp

theorem exists_latest (h : ∃ b ∈ artifacts, key b = value) : ∃ a, IsLatest key value artifacts a := by
  obtain ⟨b, hb, own⟩ := h
  cases found : artifacts.reverse.find? fun b => key b == value with
  | none => exact absurd own (find?_reverse_eq_none.mp found b hb)
  | some a => exact ⟨a, find?_reverse_iff.mp found⟩

theorem IsLatest.mem (h : IsLatest key value artifacts a) : a ∈ artifacts := by
  obtain ⟨before, after, rfl, -, -⟩ := h
  simp

theorem IsLatest.key_eq (h : IsLatest key value artifacts a) : key a = value := by
  obtain ⟨-, -, -, own, -⟩ := h
  exact own

/-- The records about one artifact: the fallbacks while it was made, its collision with the latest
earlier artifact of the same class name if there is one, and its own. -/
inductive Told (earlier : List Artifact) (a : Artifact) : List Params → Prop
  | fresh {asides : List Params} : OnlyFallbacks asides →
      (∀ b ∈ earlier, b.className ≠ a.className) → Told earlier a (asides ++ [a.record])
  | collides {asides : List Params} {owner : Artifact} : OnlyFallbacks asides →
      IsLatest className a.className earlier owner →
      Told earlier a (asides ++ [a.collisionRecord owner.entityId, a.record])

/-- The records about artifacts, in order, after some earlier ones. -/
inductive Recorded : List Artifact → List Artifact → List Params → Prop
  | nil {earlier : List Artifact} : Recorded earlier [] []
  | cons {earlier rest : List Artifact} {a : Artifact} {first others : List Params} :
      Told earlier a first → Recorded (earlier ++ [a]) rest others →
        Recorded earlier (a :: rest) (first ++ others)

variable {earlier : List Artifact} {records asides : List Params}

theorem filter_asides (h : OnlyFallbacks asides) {type : String} (other : type ≠ "fallback") :
    asides.filter (recordType? · == some type) = [] := by
  refine List.filter_eq_nil_iff.mpr fun r hr => ?_
  obtain ⟨entity, f, rfl⟩ := h r hr
  simpa using other.symm

theorem Told.filter_artifact (h : Told earlier a records) :
    records.filter (recordType? · == some "artifact") = [a.record] := by
  cases h with
  | fresh aside _ => simp [filter_asides aside]
  | collides aside _ => simp [filter_asides aside]

theorem Told.collisions (h : Told earlier a records) :
    (records.filter (recordType? · == some "collision")).length =
      if a.className ∈ earlier.map className then 1 else 0 := by
  cases h with
  | fresh aside new =>
    have free : a.className ∉ earlier.map className := by
      simpa using new
    simp [filter_asides aside, free]
  | collides aside owner =>
    have taken : a.className ∈ earlier.map className :=
      List.mem_map.mpr ⟨_, owner.mem, owner.key_eq⟩
    simp [filter_asides aside, taken]

theorem Recorded.filter_artifact (h : Recorded earlier artifacts records) :
    records.filter (recordType? · == some "artifact") = artifacts.map record := by
  induction h with
  | nil => rfl
  | cons told _ ih => rw [List.filter_append, told.filter_artifact, ih, List.map_cons, List.singleton_append]

/-- An artifact has a class name that is new, or it collides. -/
theorem Recorded.collisions (h : Recorded earlier artifacts records) :
    (records.filter (recordType? · == some "collision")).length +
        ((earlier ++ artifacts).map className).eraseDups.length =
      artifacts.length + (earlier.map className).eraseDups.length := by
  induction h with
  | nil => simp
  | @cons earlier rest a first others told _ ih =>
    have names : (earlier ++ [a]).map className = earlier.map className ++ [a.className] := by simp
    rw [List.append_assoc, List.singleton_append, names, eraseDups_append_singleton] at ih
    rw [List.filter_append, List.length_append, told.collisions, List.length_cons]
    split at ih
    next taken =>
      rw [if_pos taken]
      omega
    next free =>
      rw [List.length_append, List.length_singleton] at ih
      rw [if_neg free]
      omega

/-- What the manifest says about an artifact. -/
def attachment (a : Artifact) : Value :=
  .record [("class_name", .text a.className), ("file_name", .text a.fileName),
    ("animations", .list (a.animations.map .text))]

/-- The entries of the manifest. -/
def attachments (artifacts : List Artifact) : List (Value × Value) :=
  artifacts.foldl (fun entries a => Value.put (.text a.entityId) a.attachment entries) []

theorem attachments_concat (artifacts : List Artifact) (a : Artifact) :
    attachments (artifacts ++ [a]) =
      Value.put (.text a.entityId) a.attachment (attachments artifacts) := by
  rw [attachments, List.foldl_append]
  rfl

end Artifact

namespace Value

theorem sameKey_text (k : Value) (key : String) : sameKey k (.text key) = true ↔ k = .text key := by
  cases k with
  | text s => simp [sameKey]
  | _ => simp [sameKey, integral?]

theorem find?_put (key id : String) (value : Value) (entries : List (Value × Value)) :
    find? id (put (.text key) value entries) = if key = id then some value else find? id entries := by
  induction entries with
  | nil => rfl
  | cons entry rest ih =>
    obtain ⟨k, v⟩ := entry
    by_cases here : k = .text key
    · subst here
      have same : sameKey (.text key) (.text key) = true := (sameKey_text _ _).mpr rfl
      rw [put, if_pos same]
      by_cases own : key = id <;> simp [find?, own]
    · have other : ¬sameKey k (.text key) = true := fun same => here ((sameKey_text _ _).mp same)
      rw [put, if_neg other]
      cases k with
      | text s =>
        by_cases found : s = id
        · have apart : key ≠ id := fun own => here (by rw [found, own])
          simp [find?, found, apart]
        · simp only [find?, if_neg found, ih]
      | _ => exact ih

/-- A key that is there keeps its place. -/
theorem keys_put {entries : List (Value × Value)} {ids : List String}
    (h : entries.map Prod.fst = ids.map .text) (key : String) (value : Value) :
    (put (.text key) value entries).map Prod.fst =
      (if key ∈ ids then ids else ids ++ [key]).map .text := by
  induction entries generalizing ids with
  | nil =>
    obtain rfl : ids = [] := by simpa using h.symm
    rfl
  | cons entry rest ih =>
    cases ids with
    | nil => cases h
    | cons id ids =>
      obtain ⟨first, others⟩ := List.cons.inj h
      obtain ⟨k, v⟩ := entry
      dsimp only at first
      subst first
      by_cases own : id = key
      · subst own
        have same : sameKey (.text id) (.text id) = true := (sameKey_text _ _).mpr rfl
        rw [put, if_pos same, if_pos List.mem_cons_self, List.map_cons, others, List.map_cons]
      · have other : ¬sameKey (.text id) (.text key) = true := by
          rw [sameKey_text]
          simpa using own
        rw [put, if_neg other, List.map_cons, ih others]
        by_cases there : key ∈ ids <;> simp [there, Ne.symm own]

end Value

namespace Artifact

theorem keys_attachments (artifacts : List Artifact) :
    (attachments artifacts).map Prod.fst = (artifacts.map entityId).eraseDups.map .text := by
  induction artifacts using List.reverseRecOn with
  | nil => rfl
  | append_singleton artifacts a ih =>
    rw [attachments_concat, Value.keys_put ih, List.map_append, List.map_singleton,
      eraseDups_append_singleton]
    simp only [List.mem_eraseDups]

theorem find?_attachments (artifacts : List Artifact) (id : String) :
    Value.find? id (attachments artifacts) =
      (artifacts.reverse.find? fun a => a.entityId == id).map attachment := by
  induction artifacts using List.reverseRecOn with
  | nil => rfl
  | append_singleton artifacts a ih =>
    rw [attachments_concat, Value.find?_put, ih, List.reverse_append, List.reverse_singleton,
      List.singleton_append, List.find?_cons]
    by_cases own : a.entityId = id
    · simp [own]
    · have other : (a.entityId == id) = false := by simpa using own
      rw [if_neg own, other]

end Artifact

theorem manifest_eq (artifacts : List Artifact) :
    manifest artifacts =
      .record [("version", .int 1), ("entities", .map (Artifact.attachments artifacts))] := by
  unfold manifest Value.ofEntries Artifact.attachments
  dsimp only
  rw [List.foldl_map]
  rfl

/-- The only records while a class is made are those of fallbacks. -/
theorem assemble_records (config : Config) (entity : Entity) :
    OnlyFallbacks (assemble config entity).records := by
  let p (e : Effect) : Prop := ∀ r, e.record? = some r → ∃ owner f, r = Fallback.record owner f
  have each : (Context.of entity config).AllowsEach p :=
    { leaf := fun e leaf r hr => by
        cases e with
        | record => cases leaf
        | fallback owner f => exact ⟨owner, f, (Option.some.inj hr).symm⟩
        | _ => cases hr
      write := fun _ _ hr => by cases hr
      visit := fun _ _ hr => by cases hr
      fallback := fun owner f _ hr => ⟨owner, f, (Option.some.inj hr).symm⟩ }
  have within : (assemble config entity).Within p := by
    unfold assemble
    split
    next => exact (Context.assemble_within each.allows).bind fun _ => within_pure _
    next => exact ((within_perform _).mpr fun _ hr => by cases hr).bind fun _ => within_pure _
  intro r hr
  obtain ⟨e, he, own⟩ := List.mem_filterMap.mp hr
  exact within e he r own

theorem compileEntities_skip {config : Config} {entity : Entity} (earlier : List Artifact)
    (rest : List Entity) (h : (assemble config entity).result = .ok none) :
    (compileEntities config earlier (entity :: rest)).result =
        (compileEntities config earlier rest).result ∧
      (compileEntities config earlier (entity :: rest)).records =
        (compileEntities config earlier rest).records := by
  rw [compileEntities]
  constructor
  · rw [bind_of_ok h]
  · rw [records_of_ok h, (assemble_none h).2, List.nil_append]

theorem compileEntities_made {config : Config} {entity : Entity} (earlier : List Artifact)
    (rest : List Entity) {a : Artifact} (h : (assemble config entity).result = .ok (some a)) :
    (compileEntities config earlier (entity :: rest)).result =
        (compileEntities config (earlier ++ [a]) rest).result ∧
      (compileEntities config earlier (entity :: rest)).records =
        (assemble config entity).records ++
          ((owner? earlier a.className).map (a.collisionRecord ·)).toList ++ [a.record] ++
          (compileEntities config (earlier ++ [a]) rest).records := by
  rw [compileEntities]
  constructor
  · rw [bind_of_ok h]
    dsimp only
    cases owner? earlier a.className <;> rfl
  · rw [records_of_ok h, List.append_assoc, List.append_assoc]
    dsimp only
    cases owner? earlier a.className <;> rfl

theorem told_of_owner (earlier : List Artifact) (a : Artifact) {asides : List Params}
    (h : OnlyFallbacks asides) :
    a.Told earlier (asides ++ ((owner? earlier a.className).map (a.collisionRecord ·)).toList ++
      [a.record]) := by
  unfold owner?
  cases found : earlier.reverse.find? fun b => b.className == a.className with
  | none =>
    have new := Artifact.find?_reverse_eq_none.mp found
    rw [Option.map_none, Option.map_none, Option.toList_none, List.append_nil]
    exact .fresh h new
  | some owner =>
    have latest := Artifact.find?_reverse_iff.mp found
    rw [Option.map_some, Option.map_some, Option.toList_some, List.append_assoc,
      List.singleton_append]
    exact .collides h latest

/-- Compiling entities gives one artifact for each that has logic, in order, and records them so. -/
theorem compileEntities_recorded {config : Config} {entities : List Entity}
    {earlier all : List Artifact} (h : (compileEntities config earlier entities).result = .ok all) :
    ∃ made, all = earlier ++ made ∧
      List.Forall₂ (fun entity a => (assemble config entity).result = .ok (some a))
        (entities.filter Entity.hasLogic) made ∧
      Artifact.Recorded earlier made (compileEntities config earlier entities).records := by
  induction entities generalizing earlier with
  | nil =>
    cases h
    exact ⟨[], (List.append_nil _).symm, .nil, .nil⟩
  | cons entity rest ih =>
    obtain ⟨result, hr, -⟩ := bind_result_ok h
    cases result with
    | none =>
      obtain ⟨same, records⟩ := compileEntities_skip earlier rest hr
      have idle : ¬entity.hasLogic = true := by simp [(assemble_none hr).1]
      rw [same] at h
      rw [records, List.filter_cons_of_neg idle]
      exact ih h
    | some a =>
      obtain ⟨same, records⟩ := compileEntities_made earlier rest hr
      rw [same] at h
      obtain ⟨made, whole, each, recorded⟩ := ih h
      have told := told_of_owner earlier a (assemble_records config entity)
      refine ⟨a :: made, ?_, ?_, ?_⟩
      · rw [whole, List.append_assoc, List.singleton_append]
      · rw [List.filter_cons_of_pos (assemble_names hr).1]
        exact .cons hr each
      · rw [records]
        exact .cons told recorded

/-- What follows the artifacts is only logged. -/
theorem compileProject_result {config : Config} {wanted : Option (List String)} {project : Project}
    {artifacts : List Artifact} (h : (compileProject config wanted project).result = .ok artifacts) :
    (compileEntities config [] (project.entities.filter (isWanted wanted))).result = .ok artifacts ∧
      (compileProject config wanted project).records =
        (compileEntities config [] (project.entities.filter (isWanted wanted))).records := by
  obtain ⟨compiled, hc, rest⟩ := bind_result_ok h
  obtain rfl : compiled = artifacts := by
    obtain ⟨_, -, rest⟩ := bind_result_ok rest
    obtain ⟨_, -, rest⟩ := bind_result_ok rest
    cases rest
    rfl
  have logged (source : String) (level : Log.Level) (text : String) :
      (note source level text).Within fun e => e.record? = none := (within_perform _).mpr rfl
  refine ⟨hc, (records_of_ok hc _).trans (List.append_right_eq_self.mpr (records_eq_nil ?_))⟩
  exact (Within.forM fun _ _ => logged _ _ _).bind fun _ => (logged _ _ _).bind fun _ => within_pure _

end GraphScript
