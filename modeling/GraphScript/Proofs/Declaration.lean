import GraphScript.Proofs.Delivery
import GraphScript.Proofs.Member

namespace GraphScript

open Lowered CSharp

/-- The line without the word for who may see what it declares. -/
def withoutAccess (cs : List Char) : List Char :=
  ((dropStart? "public ".toList cs).or (dropStart? "private ".toList cs)).getD cs

/-- The characters that can follow the name in a declaration. -/
def nameStops : List Char := [' ', ';', '(']

/-- The type and the name that a line declares, if it is no comment and has more than one word. -/
def declares? (text : String) : Option (String × String) :=
  let cs := withoutAccess text.toList
  let type := String.ofList (cs.takeWhile (· != ' '))
  match cs.dropWhile (· != ' ') with
  | [] => none
  | _ :: rest =>
    if type = "//" then none
    else some (type, String.ofList (rest.takeWhile fun c => !nameStops.contains c))

theorem declares?_of_words (stop : Char) (rest : List Char) {text type name : String}
    (words : withoutAccess text.toList = type.toList ++ ' ' :: (name.toList ++ stop :: rest))
    (code : type ≠ "//") (ht : ' ' ∉ type.toList) (hn : ∀ c ∈ nameStops, c ∉ name.toList)
    (hs : stop ∈ nameStops) : declares? text = some (type, name) := by
  have inType : ∀ c ∈ type.toList, (c != ' ') = true := fun c hc =>
    bne_iff_ne.mpr fun same => ht (same ▸ hc)
  have inName : ∀ c ∈ name.toList, (!nameStops.contains c) = true := by
    intro c hc
    rw [Bool.not_eq_true', Bool.eq_false_iff]
    exact fun stops => hn c (List.contains_iff_mem.mp stops) hc
  unfold declares?
  dsimp only
  rw [words, List.takeWhile_append_of_pos inType, List.dropWhile_append_of_pos inType,
    List.takeWhile_cons_of_neg (by simp), List.dropWhile_cons_of_neg (by simp), List.append_nil,
    String.ofList_toList]
  dsimp only
  rw [if_neg code, List.takeWhile_append_of_pos inName, List.takeWhile_cons_of_neg (by simpa using hs),
    List.append_nil, String.ofList_toList]

theorem withoutAccess_public (cs : List Char) : withoutAccess ("public ".toList ++ cs) = cs := by
  rw [withoutAccess, dropStart?_append]
  rfl

theorem declares?_comment (about : String) : declares? (Passage.commentText about) = none := by
  have chars : (Passage.commentText about).toList =
      ['/', '/'] ++ ' ' :: (Text.flatten about).toList := by
    simp [Passage.commentText]
  have access : withoutAccess (Passage.commentText about).toList =
      (Passage.commentText about).toList := by
    rw [chars]
    rfl
  unfold declares?
  dsimp only
  rw [access, chars]
  simp

/-- A sanitized name is followed by what stops names, and holds nothing of it. -/
theorem stops_not_mem_sanitize (name : String) : ∀ c ∈ nameStops, c ∉ (sanitize name).toList := by
  have outside : (nameStops.all fun c => !(Text.isWord c || c == '@')) = true := by decide
  intro c hc hm
  have own := List.all_eq_true.mp outside c hc
  rw [sanitize_chars name c hm] at own
  cases own

theorem declares?_fieldStart (type : FieldType) {name : String}
    (hn : ∀ c ∈ nameStops, c ∉ name.toList) (rest : String) :
    declares? (fieldStart type name ++ rest) = some (type.keyword, name) := by
  have blank : ' ' ∉ type.keyword.toList := by cases type <;> decide
  have code : type.keyword ≠ "//" := by cases type <;> decide
  refine declares?_of_words ' ' (['=', ' '] ++ rest.toList) ?_ code blank hn (by decide)
  rw [String.toList_append, fieldStart_toList, List.append_assoc, withoutAccess_public]
  simp

namespace Variable

def field (v : Variable) : String × FieldType :=
  (sanitize v.name, v.fieldType)

/-- The variables that become fields, if some names are taken: of each free name the first. -/
def keptFrom (taken : List String) : List Variable → List Variable
  | [] => []
  | v :: vars =>
    if sanitize v.name ∈ taken then keptFrom taken vars
    else v :: keptFrom (sanitize v.name :: taken) vars

theorem keptFrom_congr {taken taken' : List String} (same : ∀ name, name ∈ taken ↔ name ∈ taken')
    (vars : List Variable) : keptFrom taken vars = keptFrom taken' vars := by
  induction vars generalizing taken taken' with
  | nil => rfl
  | cons v vars ih =>
    have longer : ∀ name, name ∈ sanitize v.name :: taken ↔ name ∈ sanitize v.name :: taken' :=
      fun name => by simp only [List.mem_cons, same]
    simp only [keptFrom, same, ih same, ih longer]

/-- A variable is kept exactly if its name is free and no earlier variable has it. -/
theorem mem_keptFrom {taken : List String} {vars : List Variable} {v : Variable} :
    v ∈ keptFrom taken vars ↔ ∃ before after, vars = before ++ v :: after ∧
      sanitize v.name ∉ taken ∧ ∀ earlier ∈ before, sanitize earlier.name ≠ sanitize v.name := by
  induction vars generalizing taken with
  | nil => simp [keptFrom]
  | cons w vars ih =>
    unfold keptFrom
    constructor
    · intro hv
      split at hv
      next there =>
        obtain ⟨before, after, rfl, free, first⟩ := ih.mp hv
        refine ⟨w :: before, after, rfl, free, List.forall_mem_cons.mpr ⟨?_, first⟩⟩
        exact fun same => free (same ▸ there)
      next here =>
        rcases List.mem_cons.mp hv with rfl | hv
        · exact ⟨[], vars, rfl, here, by simp⟩
        · obtain ⟨before, after, rfl, free, first⟩ := ih.mp hv
          obtain ⟨other, free⟩ := not_or.mp (fun h => free (List.mem_cons.mpr h))
          exact ⟨w :: before, after, rfl, free,
            List.forall_mem_cons.mpr ⟨fun same => other same.symm, first⟩⟩
    · rintro ⟨before, after, whole, free, first⟩
      cases before with
      | nil =>
        cases whole
        rw [if_neg free]
        exact List.mem_cons_self
      | cons u before =>
        cases whole
        obtain ⟨other, first⟩ := List.forall_mem_cons.mp first
        split
        next => exact ih.mpr ⟨before, after, rfl, free, first⟩
        next =>
          refine List.mem_cons_of_mem _ (ih.mpr ⟨before, after, rfl, fun hm => ?_, first⟩)
          rcases List.mem_cons.mp hm with same | hm
          · exact other same.symm
          · exact free hm

theorem name_mem_keptFrom {taken : List String} {vars : List Variable} {name : String} :
    name ∈ (keptFrom taken vars).map (fun v => sanitize v.name) ↔
      name ∉ taken ∧ ∃ v ∈ vars, sanitize v.name = name := by
  induction vars generalizing taken with
  | nil => simp [keptFrom]
  | cons v vars ih =>
    unfold keptFrom
    split
    next there =>
      rw [ih]
      constructor
      · rintro ⟨free, w, hw, own⟩
        exact ⟨free, w, List.mem_cons_of_mem _ hw, own⟩
      · rintro ⟨free, w, hw, rfl⟩
        rcases List.mem_cons.mp hw with rfl | hw
        · exact absurd there free
        · exact ⟨free, w, hw, rfl⟩
    next here =>
      rw [List.map_cons, List.mem_cons, ih]
      constructor
      · rintro (rfl | ⟨free, w, hw, own⟩)
        · exact ⟨here, v, List.mem_cons_self, rfl⟩
        · exact ⟨fun hm => free (List.mem_cons_of_mem _ hm), w, List.mem_cons_of_mem _ hw, own⟩
      · rintro ⟨free, w, hw, rfl⟩
        by_cases same : sanitize w.name = sanitize v.name
        · exact .inl same
        · refine .inr ⟨fun hm => ?_, w, ?_, rfl⟩
          · rcases List.mem_cons.mp hm with equal | hm
            · exact same equal
            · exact free hm
          · rcases List.mem_cons.mp hw with rfl | hw
            · exact absurd rfl same
            · exact hw

theorem nodup_keptFrom (taken : List String) (vars : List Variable) :
    ((keptFrom taken vars).map fun v => sanitize v.name).Nodup := by
  induction vars generalizing taken with
  | nil => exact List.nodup_nil
  | cons v vars ih =>
    unfold keptFrom
    split
    next => exact ih taken
    next =>
      refine List.nodup_cons.mpr ⟨fun hm => ?_, ih _⟩
      exact (name_mem_keptFrom.mp hm).1 List.mem_cons_self

end Variable

theorem isSome_lookup_iff {α : Type} {key : String} {entries : List (String × α)} :
    (entries.lookup key).isSome = true ↔ key ∈ entries.map Prod.fst := by
  rw [List.lookup_isSome_iff, List.mem_map]
  exact exists_congr fun entry => and_congr_right fun _ => by rw [beq_iff_eq, eq_comm]

namespace Context

theorem declare_types (ctx : Context) (v : Variable) :
    (ctx.declare v).types =
      if sanitize v.name ∈ ctx.types.map Prod.fst then ctx.types else ctx.types ++ [v.field] := by
  unfold declare
  dsimp only
  by_cases there : sanitize v.name ∈ ctx.types.map Prod.fst
  · rw [if_pos (isSome_lookup_iff.mpr there), if_pos there]
  · rw [if_neg (isSome_lookup_iff.not.mpr there), if_neg there]
    rfl

theorem of_types_eq (entity : Entity) (config : Config) :
    (Context.of entity config).types = (Variable.keptFrom [] entity.vars).map Variable.field := by
  have after (vars : List Variable) (ctx : Context) : (vars.foldl declare ctx).types =
      ctx.types ++ (Variable.keptFrom (ctx.types.map Prod.fst) vars).map Variable.field := by
    induction vars generalizing ctx with
    | nil => exact (List.append_nil _).symm
    | cons v vars ih =>
      rw [List.foldl_cons, ih, declare_types, Variable.keptFrom]
      by_cases there : sanitize v.name ∈ ctx.types.map Prod.fst
      · rw [if_pos there, if_pos there]
      · have grown : ∀ name, name ∈ (ctx.types ++ [v.field]).map Prod.fst ↔
            name ∈ sanitize v.name :: ctx.types.map Prod.fst := by
          simp [Variable.field, or_comm]
        rw [if_neg there, if_neg there, Variable.keptFrom_congr grown, List.append_assoc]
        rfl
  exact after entity.vars ⟨entity, config, [], []⟩

theorem of_types_names (entity : Entity) (config : Config) :
    (Context.of entity config).types.map Prod.fst =
      (Variable.keptFrom [] entity.vars).map fun v => sanitize v.name := by
  rw [of_types_eq, List.map_map]
  rfl

theorem nodup_types (entity : Entity) (config : Config) :
    ((Context.of entity config).types.map Prod.fst).Nodup := by
  rw [of_types_names]
  exact Variable.nodup_keptFrom [] entity.vars

theorem mem_types_names {entity : Entity} {config : Config} {name : String} :
    name ∈ (Context.of entity config).types.map Prod.fst ↔
      ∃ v ∈ entity.vars, sanitize v.name = name := by
  rw [of_types_names, Variable.name_mem_keptFrom]
  exact and_iff_right List.not_mem_nil

end Context

theorem Declared.filterMap_declares {taken : List String} {vars : List Variable}
    {pieces : List Piece} (h : Declared taken vars pieces) :
    (pieces.flatMap Piece.texts).filterMap declares? =
      (Variable.keptFrom taken vars).map fun v => (v.fieldType.keyword, sanitize v.name) := by
  induction h with
  | nil => rfl
  | skip about there _ ih =>
    change (Passage.commentText about :: List.flatMap _ _).filterMap declares? = _
    rw [List.filterMap_cons_none (declares?_comment about), ih, Variable.keptFrom, if_pos there]
  | @field _ v _ text _ free ht _ ih =>
    obtain ⟨rest, start⟩ := declaration_start ht
    have own : declares? text = some (v.fieldType.keyword, sanitize v.name) := by
      rw [start]
      exact declares?_fieldStart _ (stops_not_mem_sanitize v.name) rest
    change (text :: List.flatMap _ _).filterMap declares? = _
    rw [List.filterMap_cons_some own, ih, Variable.keptFrom, if_neg free]
    rfl

namespace Variable

def skipRemark (v : Variable) : String :=
  Passage.commentText ("Skipped variable '" ++ v.name ++ "': " ++ sanitize v.name ++
    " is already declared")

/-- The line that a variable leaves, if some names are taken. -/
inductive Leaves (taken : List String) (v : Variable) : String → Prop
  | remark : sanitize v.name ∈ taken → Leaves taken v v.skipRemark
  | field {text : String} : sanitize v.name ∉ taken →
      (declaration v (sanitize v.name)).result = .ok text → Leaves taken v text

theorem Leaves.congr {taken taken' : List String} (same : ∀ name, name ∈ taken ↔ name ∈ taken')
    {v : Variable} {text : String} (h : Leaves taken v text) : Leaves taken' v text := by
  cases h with
  | remark there => exact .remark ((same _).mp there)
  | field free declared => exact .field (fun there => free ((same _).mpr there)) declared

end Variable

def declaredLines (entity : String) (taken : List String) (vars : List Variable) : List String :=
  (declareFrom entity taken vars).pieces.flatMap Piece.texts

/-- The first variable leaves one line, and then its name is taken. -/
theorem declareFrom_cons (config : Config) {entity : String} {taken : List String} {v : Variable}
    {vars : List Variable} {u : Unit}
    (h : (declareFrom entity taken (v :: vars)).result = .ok u) :
    ∃ text taken', v.Leaves taken text ∧ (∀ name, name ∈ taken' ↔ name = sanitize v.name ∨ name ∈ taken) ∧
      (declareFrom entity taken' vars).result = .ok u ∧
      declaredLines entity taken (v :: vars) = text :: declaredLines entity taken' vars := by
  unfold declaredLines
  rw [declareFrom] at h ⊢
  split at h
  next there =>
    obtain ⟨_, hn, h⟩ := bind_result_ok h
    obtain ⟨_, hc, h⟩ := bind_result_ok h
    have mem := List.contains_iff_mem.mp there
    refine ⟨_, taken, .remark mem, fun name => ?_, h, ?_⟩
    · exact ⟨.inr, fun hm => hm.elim (fun same => same ▸ mem) id⟩
    · rw [if_pos there, pieces_of_ok hn, pieces_of_ok hc]
      rfl
  next free =>
    obtain ⟨text, ht, h⟩ := bind_result_ok h
    obtain ⟨_, hl, h⟩ := bind_result_ok h
    have silent : (declaration v (sanitize v.name)).pieces = [] :=
      IsSilent.pieces_eq_nil (declaration_isSilent _ _ : IsSilent config _)
    refine ⟨text, sanitize v.name :: taken,
      .field (fun hm => free (List.contains_iff_mem.mpr hm)) ht, fun name => List.mem_cons, h, ?_⟩
    rw [if_neg free, pieces_of_ok ht, pieces_of_ok hl, silent]
    rfl

/-- Every variable leaves a line at its place, as if the names of the variables before it were taken. -/
theorem declaredLines_at (config : Config) {entity : String} {taken : List String}
    {vars before after : List Variable} {v : Variable} {u : Unit}
    (h : (declareFrom entity taken vars).result = .ok u) (whole : vars = before ++ v :: after) :
    ∃ text, (declaredLines entity taken vars)[before.length]? = some text ∧
      v.Leaves (before.map (fun w => sanitize w.name) ++ taken) text := by
  induction before generalizing taken vars with
  | nil =>
    subst whole
    obtain ⟨text, _, leaves, -, -, lines⟩ := declareFrom_cons config h
    exact ⟨text, by rw [List.nil_append, lines]; rfl, leaves⟩
  | cons w before ih =>
    rw [List.cons_append] at whole
    subst whole
    obtain ⟨_, taken', -, grown, rest, lines⟩ := declareFrom_cons config h
    obtain ⟨text, here, leaves⟩ := ih rest rfl
    -- the name of a hidden variable is not added again, so the two lists only have the same members
    refine ⟨text, by rw [lines]; exact here, leaves.congr fun name => ?_⟩
    simp only [List.mem_append, List.map_cons, List.cons_append, List.mem_cons, grown]
    exact or_left_comm

theorem length_declaredLines (config : Config) {entity : String} {taken : List String}
    {vars : List Variable} {u : Unit} (h : (declareFrom entity taken vars).result = .ok u) :
    (declaredLines entity taken vars).length = vars.length := by
  induction vars generalizing taken with
  | nil => rfl
  | cons v vars ih =>
    obtain ⟨_, _, -, -, rest, lines⟩ := declareFrom_cons config h
    rw [lines, List.length_cons, ih rest, List.length_cons]

theorem Declared.run {taken : List String} {vars : List Variable} {pieces : List Piece}
    (h : Declared taken vars pieces) (w : Writer) :
    w.run pieces = w.addLines (pieces.flatMap Piece.texts) := by
  induction h generalizing w with
  | nil => rfl
  | skip about _ _ ih => exact ih (w.comment about)
  | @field _ _ _ text _ _ _ _ ih => exact ih (w.line text)

namespace Lowered

theorem exists_result_bind_iff {α β : Type} {x : Lowered α} {f : α → Lowered β} :
    (∃ b, (x >>= f).result = .ok b) ↔ ∃ a, x.result = .ok a ∧ ∃ b, (f a).result = .ok b := by
  constructor
  · rintro ⟨b, hb⟩
    obtain ⟨a, ha, hf⟩ := bind_result_ok hb
    exact ⟨a, ha, b, hf⟩
  · rintro ⟨a, ha, b, hb⟩
    exact ⟨b, by rw [bind_of_ok ha]; exact hb⟩

end Lowered

theorem exists_ok_bind_iff {α β : Type} {x : Except Fault α} {f : α → Except Fault β}
    (hf : ∀ a, ∃ b, f a = .ok b) : (∃ b, (x >>= f) = .ok b) ↔ ∃ a, x = .ok a := by
  refine ⟨fun ⟨b, hb⟩ => ?_, fun hx => exists_ok_bind hx hf⟩
  cases x with
  | ok a => exact ⟨a, rfl⟩
  | error fault => cases hb

namespace Value

/-- Whether a value is no integer beyond the range of binary numbers. -/
def isInRange : Value → Bool
  | int n => (Binary64.ofInt? n).isSome
  | _ => true

theorem exists_number?_iff (value : Value) :
    (∃ x, value.number? = .ok x) ↔ value.isInRange = true := by
  cases value with
  | int n => cases hn : Binary64.ofInt? n <;> simp [number?, isInRange, hn]
  | _ => simp [number?, isInRange]

theorem exists_written_iff (value : Value) :
    (∃ text, value.written = .ok text) ↔ value.isWritable = true := by
  unfold written
  cases value.isWritable <;> simp

end Value

/-- Whether the first value of a field can be written, as a literal of its type or as the zero of the
type: the integers in a text have to be short enough, and an integer for any other field, but for a
pair of coordinates, has to be in the range of binary numbers. -/
def CSharp.hasLiteral (type : FieldType) (value : Value) : Bool :=
  match type with
  | .string => value.isWritable
  | .vector2 => true
  | _ => value.isInRange

namespace CSharp

theorem exists_truth?_iff (value : Value) :
    (∃ b, truth? value = .ok b) ↔ value.isInRange = true := by
  unfold truth?
  split
  next b flag =>
    have other : value.isInRange = true := by
      cases value with
      | int n => cases flag
      | _ => rfl
    exact iff_of_true ⟨_, rfl⟩ other
  next =>
    exact (exists_ok_bind_iff fun _ => ⟨_, rfl⟩).trans value.exists_number?_iff

theorem exists_fitting?_iff {type : FieldType} (known : type ≠ .object) (value : Value) :
    (∃ literal, fitting? type value = .ok literal) ↔ hasLiteral type value = true := by
  unfold fitting?
  split
  next null =>
    have given : hasLiteral type value = true := by
      cases value with
      | null => cases type <;> rfl
      | _ => cases null
    exact iff_of_true ⟨_, rfl⟩ given
  next =>
    cases type with
    | int => exact (exists_ok_bind_iff fun _ => ⟨_, rfl⟩).trans value.exists_number?_iff
    | float => exact (exists_ok_bind_iff fun _ => ⟨_, rfl⟩).trans value.exists_number?_iff
    | bool => exact (exists_ok_bind_iff fun _ => ⟨_, rfl⟩).trans (exists_truth?_iff value)
    | string => exact (exists_ok_bind_iff fun _ => ⟨_, rfl⟩).trans value.exists_written_iff
    | vector2 => exact iff_of_true ⟨_, rfl⟩ rfl
    | object => exact absurd rfl known

theorem exists_objectLiteral_iff (value : Value) :
    (∃ literal, objectLiteral value = .ok literal) ↔ value.isInRange = true := by
  unfold objectLiteral
  split
  next => exact iff_of_true ⟨_, rfl⟩ rfl
  next => exact iff_of_true ⟨_, rfl⟩ rfl
  next => exact iff_of_true ⟨_, rfl⟩ rfl
  next =>
    refine (exists_ok_bind_iff fun number => ?_).trans value.exists_number?_iff
    cases number with
    | none => exact ⟨_, rfl⟩
    | some x => exact ⟨_, rfl⟩

end CSharp

theorem exists_initialValue_iff {declared : String} (known : FieldType.ofName declared ≠ .object)
    (ident : String) (value : Value) :
    (∃ text, (initialValue declared ident value).result = .ok text) ↔
      hasLiteral (FieldType.ofName declared) value = true := by
  have literal : (∃ text, initialLiteral (FieldType.ofName declared) value = .ok text) ↔
      hasLiteral (FieldType.ofName declared) value = true :=
    (exists_ok_bind_iff fun _ => ⟨_, rfl⟩).trans (exists_fitting?_iff known value)
  unfold initialValue
  dsimp only
  split
  next unknown => exact absurd unknown known
  next =>
    rw [exists_result_bind_iff]
    constructor
    · rintro ⟨fit, hf, -⟩
      exact (exists_fitting?_iff known value).mp ⟨fit, hf⟩
    · intro given
      obtain ⟨fit, hf⟩ := (exists_fitting?_iff known value).mpr given
      refine ⟨fit, hf, ?_⟩
      split
      next => exact exists_result_bind_iff.mpr ⟨(), rfl, literal.mpr given⟩
      next => exact literal.mpr given

theorem exists_declaration_iff (v : Variable) (ident : String) :
    (∃ text, (declaration v ident).result = .ok text) ↔ hasLiteral v.fieldType v.value = true := by
  have made {x : Lowered String} {f : String → String} :
      (∃ text, (do return f (← x) : Lowered String).result = .ok text) ↔ ∃ a, x.result = .ok a := by
    rw [exists_result_bind_iff]
    exact exists_congr fun a => and_iff_left ⟨_, rfl⟩
  unfold declaration
  split
  next object =>
    rw [object]
    refine Iff.trans ?_ (exists_objectLiteral_iff v.value)
    split
    next =>
      rw [exists_result_bind_iff]
      exact ⟨fun ⟨_, _, written⟩ => made.mp written, fun written => ⟨(), rfl, made.mpr written⟩⟩
    next => exact made
  next type known =>
    exact made.trans (exists_initialValue_iff (fun unknown => known unknown) ident v.value)

theorem exists_declareFrom_iff (entity : String) (taken : List String) (vars : List Variable) :
    (∃ u, (declareFrom entity taken vars).result = .ok u) ↔
      ∀ v ∈ Variable.keptFrom taken vars, hasLiteral v.fieldType v.value = true := by
  induction vars generalizing taken with
  | nil => exact iff_of_true ⟨_, rfl⟩ (by simp [Variable.keptFrom])
  | cons v vars ih =>
    have performed {e : Effect} {x : Lowered Unit} :
        (∃ u, (perform e >>= fun _ => x).result = .ok u) ↔ ∃ u, x.result = .ok u := by
      rw [exists_result_bind_iff]
      constructor
      · rintro ⟨_, -, rest⟩
        exact rest
      · intro rest
        exact ⟨(), rfl, rest⟩
    rw [declareFrom, Variable.keptFrom]
    by_cases there : sanitize v.name ∈ taken
    · rw [if_pos (List.contains_iff_mem.mpr there), if_pos there, ← ih]
      exact performed.trans performed
    · rw [if_neg (fun hc => there (List.contains_iff_mem.mp hc)), if_neg there,
        List.forall_mem_cons, ← ih, ← exists_declaration_iff v (sanitize v.name),
        exists_result_bind_iff]
      constructor
      · rintro ⟨text, ht, rest⟩
        exact ⟨⟨text, ht⟩, performed.mp rest⟩
      · rintro ⟨⟨text, ht⟩, rest⟩
        exact ⟨text, ht, performed.mpr rest⟩

theorem filterMap_declaredLines (config : Config) {entity : String} {taken : List String}
    {vars : List Variable} {u : Unit} (h : (declareFrom entity taken vars).result = .ok u) :
    (declaredLines entity taken vars).filterMap declares? =
      (Variable.keptFrom taken vars).map fun v => (v.fieldType.keyword, sanitize v.name) :=
  (declareFrom_declared config h).filterMap_declares

theorem declared_eq_types (config : Config) {entity : Entity} {u : Unit}
    (h : (declareVariables entity).result = .ok u) :
    (declaredLines entity.id [] entity.vars).filterMap declares? =
      (Context.of entity config).types.map fun field => (field.2.keyword, field.1) := by
  unfold declareVariables at h
  rw [filterMap_declaredLines config h, Context.of_types_eq, List.map_map]
  simp only [Function.comp_def, Variable.field]

theorem declared_names (config : Config) {entity : Entity} {u : Unit}
    (h : (declareVariables entity).result = .ok u) :
    ((declaredLines entity.id [] entity.vars).filterMap declares?).map Prod.snd =
      (Context.of entity config).types.map Prod.fst := by
  rw [declared_eq_types config h, List.map_map]
  rfl

theorem Variable.Leaves.cases {taken : List String} {v : Variable} {text : String}
    (h : v.Leaves taken text) :
    sanitize v.name ∈ taken ∧ text = v.skipRemark ∨
      sanitize v.name ∉ taken ∧ declares? text = some (v.fieldType.keyword, sanitize v.name) := by
  cases h with
  | remark there => exact .inl ⟨there, rfl⟩
  | field free declared =>
    obtain ⟨rest, start⟩ := declaration_start declared
    refine .inr ⟨free, ?_⟩
    rw [start]
    exact declares?_fieldStart _ (stops_not_mem_sanitize v.name) rest

/-- The lines of the variables and what is known of the fields agree. The lines are written exactly if
the variables that no earlier one hides have values that can be written; then there is one for each
variable, and they declare the known fields in their order, each once and with its type. -/
theorem declareVariables_agrees (entity : Entity) (config : Config) (settings : Log.Settings) :
    ((∃ u, (declareVariables entity).result = .ok u) ↔
      ∀ before v after, entity.vars = before ++ v :: after →
        (∀ earlier ∈ before, sanitize earlier.name ≠ sanitize v.name) →
        hasLiteral v.fieldType v.value = true) ∧
    ((∀ v ∈ entity.vars, ∀ n ∈ v.value.integers, (Binary64.ofInt? n).isSome) →
      ∃ u, ((declareVariables entity).shown settings).result = .ok u) ∧
    ∀ u, ((declareVariables entity).shown settings).result = .ok u →
      ∃ lines : List String,
        (∀ w : Writer, w.run ((declareVariables entity).shown settings).pieces = w.addLines lines) ∧
        lines.length = entity.vars.length ∧
        (∀ before v after, entity.vars = before ++ v :: after →
          ∃ text, lines[before.length]? = some text ∧
            (sanitize v.name ∈ before.map (fun w => sanitize w.name) ∧ text = v.skipRemark ∨
              sanitize v.name ∉ before.map (fun w => sanitize w.name) ∧
                declares? text = some (v.fieldType.keyword, sanitize v.name))) ∧
        lines.filterMap declares? =
          (Context.of entity config).types.map (fun field => (field.2.keyword, field.1)) ∧
        ((lines.filterMap declares?).map Prod.snd).Nodup ∧
        ∀ v ∈ entity.vars,
          (Context.of entity config).identifier v.name ∈ (lines.filterMap declares?).map Prod.snd := by
  refine ⟨?_, fun fits => ?_, fun u h => ?_⟩
  · refine (exists_declareFrom_iff entity.id [] entity.vars).trans ?_
    constructor
    · intro writable before v after whole first
      exact writable v (Variable.mem_keptFrom.mpr ⟨before, after, whole, List.not_mem_nil, first⟩)
    · intro writable v hv
      obtain ⟨before, after, whole, -, first⟩ := Variable.mem_keptFrom.mp hv
      exact writable before v after whole first
  · have succeeds := declareFrom_succeeds entity.id [] fits
    unfold declareVariables
    rw [succeeds.shown_eq]
    exact succeeds.ends
  · have whole := Lowered.shown_eq_of_ok h
    rw [whole] at h ⊢
    refine ⟨declaredLines entity.id [] entity.vars, (declareFrom_declared config h).run,
      length_declaredLines config h, fun before v after parts => ?_, declared_eq_types config h,
      ?_, fun v hv => ?_⟩
    · obtain ⟨text, here, leaves⟩ := declaredLines_at config h parts
      rw [List.append_nil] at leaves
      exact ⟨text, here, leaves.cases⟩
    · rw [declared_names config h]
      exact Context.nodup_types entity config
    · rw [declared_names config h, Context.of_identifier]
      exact Context.mem_types_names.mpr ⟨v, hv, rfl⟩

/-- An entity with two variables for one field, and one with a reserved word for its name. -/
def chestEntity : Entity :=
  { doorEntity "chest" 0 with
    vars := [⟨none, "my var", "int", .int 3⟩, ⟨none, "my-var", "float", .int 4⟩,
      ⟨none, "class", "string", .text "wood"⟩] }

theorem declareVariables_agrees_chest :
    ∃ config lines, Config.Draft.default.check = .ok config ∧
      ((declareVariables chestEntity).shown .initial).result = .ok () ∧
      (∀ w : Writer, w.run ((declareVariables chestEntity).shown .initial).pieces =
        w.addLines lines) ∧
      lines.length = 3 ∧
      lines[1]? = some "// Skipped variable 'my-var': my_var is already declared" ∧
      lines.filterMap declares? = [("int", "my_var"), ("string", "@class")] ∧
      (Context.of chestEntity config).identifier "my-var" ∈
        (lines.filterMap declares?).map Prod.snd := by
  obtain ⟨config, valid⟩ : ∃ config, Config.Draft.default.check = .ok config := ⟨_, rfl⟩
  obtain ⟨-, returns, agrees⟩ := declareVariables_agrees chestEntity config .initial
  have small : ∀ v ∈ chestEntity.vars, ∀ n ∈ v.value.integers, n.natAbs ≤ 2 ^ 10 := by decide
  obtain ⟨u, h⟩ := returns fun v hv => Value.allBounded_of_small (small v hv)
  obtain ⟨lines, written, length, each, fields, -, known⟩ := agrees u h
  obtain ⟨text, here, hidden⟩ := each [⟨none, "my var", "int", .int 3⟩] _ _ rfl
  have taken : sanitize "my-var" ∈ [sanitize "my var"] := by decide
  obtain ⟨-, rfl⟩ | ⟨free, -⟩ := hidden
  · refine ⟨config, lines, valid, h, written, length, here, ?_,
      known ⟨none, "my-var", "float", .int 4⟩ (List.mem_cons_of_mem _ List.mem_cons_self)⟩
    rw [fields, Context.of_types_eq]
    decide
  · exact absurd taken free

/-- An integer beyond the range of binary numbers leaves the entity without any field. -/
theorem declareVariables_stops_at_huge_integer :
    (declareVariables (doorEntity "door" (10 ^ 400))).result = .error .integerTooLarge ∧
      (declareVariables (doorEntity "door" (10 ^ 400))).pieces = [] := by
  decide +kernel

end GraphScript
