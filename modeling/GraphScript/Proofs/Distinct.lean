import GraphScript.Proofs.Declaration
import GraphScript.Proofs.Health
import GraphScript.Proofs.Overlap

namespace GraphScript

open Lowered CSharp

def declaredNames (texts : List String) : List String :=
  (texts.filterMap declares?).map Prod.snd

theorem declaredNames_append (first second : List String) :
    declaredNames (first ++ second) = declaredNames first ++ declaredNames second := by
  simp [declaredNames]

theorem declaredNames_cons_none {text : String} (h : declares? text = none) (texts : List String) :
    declaredNames (text :: texts) = declaredNames texts := by
  rw [declaredNames, List.filterMap_cons_none h]
  rfl

theorem declaredNames_cons_some {text type name : String} (h : declares? text = some (type, name))
    (texts : List String) : declaredNames (text :: texts) = name :: declaredNames texts := by
  rw [declaredNames, List.filterMap_cons_some h]
  rfl

theorem declaredNames_eq_nil {texts : List String} (h : ∀ text ∈ texts, declares? text = none) :
    declaredNames texts = [] := by
  rw [declaredNames, List.filterMap_eq_nil_iff.mpr h]
  rfl

theorem declaredNames_map {α : Type} (line name : α → String)
    (h : ∀ a, ∃ type, declares? (line a) = some (type, name a)) (things : List α) :
    declaredNames (things.map line) = things.map name := by
  induction things with
  | nil => rfl
  | cons a things ih =>
    obtain ⟨type, own⟩ := h a
    rw [List.map_cons, declaredNames_cons_some own, ih, List.map_cons]

/-- What is declared by the lines inside of the outermost braces. -/
def Writer.members (w : Writer) : List String :=
  declaredNames ((w.lines.toList.filter (·.depth == 1)).map Line.text)

namespace Passage

/-- The lines that stand in no block. -/
def outer (p : Passage) : List String :=
  (p.lines.filter (·.depth == 0)).map Line.text

abbrev IsFlat (p : Passage) : Prop :=
  ∀ line ∈ p.lines, line.depth = 0

theorem outer_seq (first second : Passage) :
    (seq first second).outer = first.outer ++ second.outer := by
  rw [outer, lines, List.filter_append, List.map_append]
  rfl

theorem outer_concat (passages : List Passage) : (concat passages).outer = passages.flatMap outer := by
  induction passages with
  | nil => rfl
  | cons first rest ih => rw [concat, outer_seq, ih, List.flatMap_cons]

theorem IsFlat.outer_eq {p : Passage} (h : p.IsFlat) : p.outer = p.texts := by
  rw [outer, List.filter_eq_self.mpr fun line hl => beq_iff_eq.mpr (h line hl)]
  rfl

theorem isFlat_concat {passages : List Passage} (h : ∀ p ∈ passages, p.IsFlat) :
    (concat passages).IsFlat := by
  induction passages with
  | nil => exact fun line hl => by cases hl
  | cons first rest ih =>
    obtain ⟨own, others⟩ := List.forall_mem_cons.mp h
    exact List.forall_mem_append.mpr ⟨own, ih others⟩

theorem isFlat_line (text : String) : (line text).IsFlat :=
  List.forall_mem_singleton.mpr rfl

theorem isFlat_ofLines (texts : List String) : (ofLines texts).IsFlat := by
  refine isFlat_concat fun p hp => ?_
  obtain ⟨text, -, rfl⟩ := List.mem_map.mp hp
  exact isFlat_line text

theorem isFlat_ite {chosen : Prop} [Decidable chosen] {yes no : Passage} (hy : yes.IsFlat)
    (hn : no.IsFlat) : (if chosen then yes else no).IsFlat := by
  split
  next => exact hy
  next => exact hn

theorem isFlat_empty : empty.IsFlat := fun line hl => by cases hl

theorem outer_block (header : Option String) (body : Passage) :
    (block header body).outer = header.toList ++ ["\x7b", "\x7d"] := by
  have above : (header.toList.map (Line.mk 0)).filter (·.depth == 0) = header.toList.map (Line.mk 0) := by
    cases header <;> rfl
  have inside : (body.lines.map (Line.shift 1)).filter (·.depth == 0) = [] := by
    refine List.filter_eq_nil_iff.mpr fun line hl => ?_
    obtain ⟨inner, hi, rfl⟩ := List.mem_map.mp hl
    have low := body.depth_nonneg inner hi
    rw [Line.shift_depth, beq_iff_eq]
    omega
  rw [outer, lines, List.filter_append, above, List.filter_cons_of_pos (by rfl), List.filter_append,
    inside]
  cases header <;> rfl

/-- The lines one deep in a block are those that stand in no block of its body. -/
theorem inner_block (header : Option String) (body : Passage) :
    ((block header body).lines.filter (·.depth == 1)).map Line.text = body.outer := by
  have above : (header.toList.map (Line.mk 0)).filter (·.depth == 1) = [] := by
    cases header <;> rfl
  have same (line : Line) : ((line.shift 1).depth == 1) = (line.depth == 0) := by
    rw [Line.shift_depth, Bool.eq_iff_iff, beq_iff_eq, beq_iff_eq]
    omega
  have inside : (body.lines.map (Line.shift 1)).filter (·.depth == 1) =
      (body.lines.filter (·.depth == 0)).map (Line.shift 1) := by
    rw [List.filter_map]
    exact congrArg _ (List.filter_congr fun line _ => same line)
  rw [lines, List.filter_append, above, List.filter_cons_of_neg (by simp), List.filter_append, inside,
    List.nil_append, List.map_append, List.map_map]
  exact List.append_nil _

end Passage

theorem Method.outer_passage (m : Method) : m.passage.outer = ["", m.signature, "\x7b", "\x7d"] := by
  rw [passage, Passage.outer_seq, Passage.outer_block]
  rfl

theorem declaredNames_methods (methods : List Method) :
    declaredNames (methods.flatMap fun m => m.passage.outer) =
      declaredNames (methods.map Method.signature) := by
  have blank : declares? "" = none := by decide
  have braces : declaredNames ["\x7b", "\x7d"] = [] := by decide
  induction methods with
  | nil => rfl
  | cons m methods ih =>
    have own : declaredNames ["", m.signature, "\x7b", "\x7d"] = declaredNames [m.signature] := by
      rw [declaredNames_cons_none blank]
      change declaredNames ([m.signature] ++ ["\x7b", "\x7d"]) = _
      rw [declaredNames_append, braces, List.append_nil]
    rw [List.flatMap_cons, declaredNames_append, ih, m.outer_passage, own, ← declaredNames_append]
    rfl

/-- The members of a class are declared by its fields and by the signatures of its methods. -/
theorem ClassCode.members_run {code : ClassCode} (flat : code.header.IsFlat)
    (remarks : declaredNames code.remarks.outer = []) :
    ((Writer.new 0).run code.passage.pieces).members =
      declaredNames code.fields.outer ++ declaredNames (code.methods.map Method.signature) := by
  have above : code.header.lines.filter (·.depth == 1) = [] := by
    refine List.filter_eq_nil_iff.mpr fun line hl => ?_
    rw [flat line hl]
    decide
  rw [Writer.members, Writer.lines_run, passage, Passage.lines, List.filter_append, above,
    List.nil_append, Passage.inner_block, Passage.outer_seq, Passage.outer_seq, Passage.outer_concat,
    List.flatMap_map, declaredNames_append, declaredNames_append, declaredNames_methods, remarks,
    List.append_nil]

theorem Declared.isFlat {taken : List String} {vars : List Variable} {p : Passage}
    (h : Declared taken vars p.pieces) : p.IsFlat := by
  have written := h.run (Writer.new 0)
  rw [Writer.addLines_eq] at written
  rw [Passage.IsFlat, ← Writer.lines_run p, written, Writer.lines_run]
  exact Passage.isFlat_ofLines _

theorem withoutAccess_private (cs : List Char) : withoutAccess ("private ".toList ++ cs) = cs := by
  have other : dropStart? "public ".toList ("private ".toList ++ cs) = none := rfl
  rw [withoutAccess, other, dropStart?_append]
  rfl

theorem stops_not_mem_append {first second : String} (h : ∀ c ∈ nameStops, c ∉ first.toList)
    (h' : ∀ c ∈ nameStops, c ∉ second.toList) : ∀ c ∈ nameStops, c ∉ (first ++ second).toList := by
  intro c hc hm
  rw [String.toList_append] at hm
  exact (List.mem_append.mp hm).elim (h c hc) (h' c hc)

theorem stops_not_mem_of_all {text : String}
    (h : (nameStops.all fun c => !text.toList.contains c) = true) :
    ∀ c ∈ nameStops, c ∉ text.toList := by
  intro c hc
  simpa using List.all_eq_true.mp h c hc

theorem stops_not_mem_nat (n : Nat) : ∀ c ∈ nameStops, c ∉ (toString n).toList := by
  have apart : (nameStops.all fun c => !isNumeral c) = true := by decide
  intro c hc hm
  have outside := List.all_eq_true.mp apart c hc
  rw [List.all_eq_true.mp (numeric_nat n) c hm] at outside
  cases outside

/-- Whether a character can end the name of a routine or of its flag. -/
def endsRoutine (c : Char) : Bool :=
  c == 'g' || c.isDigit

namespace RoutineCode

theorem declares_flag (r : RoutineCode) :
    declares? ("private bool " ++ r.flag ++ ";") = some ("bool", r.flag) := by
  have start : ∀ c ∈ nameStops, c ∉ r.hook.flagStart.toList :=
    stops_not_mem_of_all (by cases r.hook <;> decide)
  have running : ∀ c ∈ nameStops, c ∉ "Running".toList := stops_not_mem_of_all (by decide)
  have stops : ∀ c ∈ nameStops, c ∉ r.flag.toList := by
    rw [flag_eq]
    exact stops_not_mem_append (stops_not_mem_append start (stops_not_mem_nat r.number)) running
  refine declares?_of_words ';' [] ?_ (by decide) (by decide) stops (by decide)
  have words : ("private bool " ++ r.flag ++ ";").toList =
      "private ".toList ++ ("bool".toList ++ ' ' :: (r.flag.toList ++ [';'])) := by
    simp
  rw [words, withoutAccess_private]

theorem declares_signature (r : RoutineCode) :
    declares? r.method.signature = some ("IEnumerator", r.name) := by
  have start : ∀ c ∈ nameStops, c ∉ (r.hook.method ++ "Routine").toList :=
    stops_not_mem_of_all (by cases r.hook <;> decide)
  have stops : ∀ c ∈ nameStops, c ∉ r.name.toList :=
    stops_not_mem_append start (stops_not_mem_nat r.number)
  refine declares?_of_words '(' [')'] ?_ (by decide) (by decide) stops (by decide)
  have words : r.method.signature.toList =
      "IEnumerator".toList ++ ' ' :: (r.name.toList ++ ['(', ')']) := by
    simp [method]
  rw [words]
  rfl

theorem number_of_name {r r' : RoutineCode} (h : r.name = r'.name) : r.number = r'.number :=
  number_of_signature (by rw [method, method, h])

theorem ending_flag (r : RoutineCode) : r.flag.toList.getLast? = some 'g' := by
  rw [flag_eq, String.toList_append, List.getLast?_append]
  rfl

/-- The names that routines bring into a class are told from others by their last letter. -/
theorem any_ending {routines : List RoutineCode} {name : String}
    (h : name ∈ routines.map flag ++ routines.map RoutineCode.name) :
    name.toList.getLast?.any endsRoutine = true := by
  rcases List.mem_append.mp h with h | h
  · obtain ⟨r, -, rfl⟩ := List.mem_map.mp h
    rw [r.ending_flag]
    rfl
  · obtain ⟨r, -, rfl⟩ := List.mem_map.mp h
    obtain ⟨c, last, digit⟩ := r.ending_name
    rw [last]
    exact Bool.or_eq_true_iff.mpr (.inr digit)

end RoutineCode

namespace Bodies.Holds

variable {b : Bodies} {code : BodyCode}

theorem flags (h : b.Holds code) :
    b.routines.map Routine.flag = code.routines.map RoutineCode.flag := by
  rw [h.routines, List.map_map]
  rfl

theorem names (h : b.Holds code) :
    b.routines.map Routine.name = code.routines.map RoutineCode.name := by
  rw [h.routines, List.map_map]
  rfl

end Bodies.Holds

namespace Context

/-- The fields that stand before those of the variables. -/
def firstFields (config : Config) : List String :=
  ["_transform", "_animator"] ++ if config.usesContext then [ServiceCall.contextField] else []

def methodNames (ctx : Context) (facts : Facts) (b : Bodies) : List String :=
  ["Awake"] ++ ((if ctx.config.usesContext then ["Initialize"] else []) ++
    ((if b.start.isEmpty then [] else ["Start"]) ++
    ((Hook.all.filter fun hook => !(b.hook hook).isEmpty).map Hook.method ++
    if ctx.hasHealth facts && (damageAmount? (ctx.typeOf ctx.config.healthField)).isSome then
      ["OnTakeDamage"] else [])))

/-- What a class declares after the fields of the variables. -/
def furtherMembers (ctx : Context) (facts : Facts) (b : Bodies) : List String :=
  (if ctx.needsHealthField facts then [ctx.config.healthField] else []) ++
    (b.routines.map Routine.flag ++ (ctx.methodNames facts b ++ b.routines.map Routine.name))

/-- The members of a class that are no fields of variables. -/
def ownMembers (ctx : Context) (facts : Facts) (b : Bodies) : List String :=
  firstFields ctx.config ++ ctx.furtherMembers facts b

variable {ctx : Context}

theorem header_isFlat (facts : Facts) : (ctx.header facts).IsFlat := by
  refine Passage.isFlat_concat ?_
  simp only [List.forall_mem_cons]
  refine ⟨Passage.isFlat_line _, List.forall_mem_singleton.mpr rfl, Passage.isFlat_line _,
    Passage.isFlat_ofLines _, Passage.isFlat_line _, by simp⟩

theorem fields_isFlat (facts : Facts) {declared : Passage} (hd : declared.IsFlat)
    (flags : List String) : (ctx.fields facts declared flags).IsFlat := by
  have line (text : String) := Passage.isFlat_line text
  refine Passage.isFlat_concat ?_
  simp only [List.forall_mem_cons]
  exact ⟨line _, line _, Passage.isFlat_ite (line _) Passage.isFlat_empty,
    Passage.isFlat_ite (line _) Passage.isFlat_empty, hd,
    Passage.isFlat_ite (line _) Passage.isFlat_empty,
    Passage.isFlat_ite Passage.isFlat_empty (Passage.isFlat_ofLines _), by simp⟩

theorem declaredNames_remarks (unhandled : List (String × Nat)) :
    declaredNames (remarks unhandled).outer = [] := by
  refine declaredNames_eq_nil fun text ht => ?_
  have within : text ∈ (remarks unhandled).texts := (List.filter_sublist.map _).subset ht
  rcases mem_remarks within with rfl | ⟨about, rfl⟩
  · decide
  · exact declares?_comment about

theorem declares?_healthLine {config : Config}
    (stops : ∀ c ∈ nameStops, c ∉ config.healthField.toList) :
    declares? (healthLine config) = some ("float", config.healthField) := by
  rw [healthLine_eq]
  exact declares?_fieldStart .float stops _

/-- The settings that the names in a class come from, where nothing is set. -/
structure IsUnset (config : Config) : Prop where
  context : config.usesContext = true
  type : config.contextType = "IUniforgeContext"
  health : config.healthField = "hp"

theorem isUnset_default {config : Config} (valid : Config.Draft.default.check = .ok config) :
    IsUnset config := by
  cases valid
  exact ⟨rfl, rfl, rfl⟩

theorem declaredNames_fields (unset : IsUnset ctx.config) (facts : Facts) {declared : Passage}
    (hd : declared.IsFlat) (routines : List RoutineCode) :
    declaredNames (ctx.fields facts declared (routines.map RoutineCode.flag)).outer =
      firstFields ctx.config ++ (declaredNames declared.texts ++
        ((if ctx.needsHealthField facts then [ctx.config.healthField] else []) ++
          routines.map RoutineCode.flag)) := by
  have first : declaredNames ["private Transform _transform;", "private Animator _animator;"] =
      ["_transform", "_animator"] := by decide
  have context : declaredNames ["private " ++ "IUniforgeContext" ++ " " ++ ServiceCall.contextField ++
      ";"] = [ServiceCall.contextField] := by decide
  have blank {chosen : Bool} : declaredNames (if chosen then [""] else []) = [] := by
    cases chosen <;> decide
  have stops : ∀ c ∈ nameStops, c ∉ ctx.config.healthField.toList := by
    rw [unset.health]
    exact stops_not_mem_of_all (by decide)
  have health : declaredNames (if ctx.needsHealthField facts then [healthLine ctx.config] else []) =
      if ctx.needsHealthField facts then [ctx.config.healthField] else [] := by
    split
    next => exact declaredNames_cons_some (declares?_healthLine stops) []
    next => rfl
  have flags : declaredNames (if (routines.map RoutineCode.flag).isEmpty then [] else
      "" :: (routines.map RoutineCode.flag).map fun flag => "private bool " ++ flag ++ ";") =
        routines.map RoutineCode.flag := by
    have each := declaredNames_map (fun r : RoutineCode => "private bool " ++ r.flag ++ ";")
      RoutineCode.flag (fun r => ⟨_, r.declares_flag⟩) routines
    split
    next none =>
      rw [List.isEmpty_iff.mp none]
      rfl
    next =>
      rw [declaredNames_cons_none (by decide), List.map_map]
      exact each
  rw [(fields_isFlat facts hd _).outer_eq, fields_texts, declaredNames_append, declaredNames_append,
    declaredNames_append, declaredNames_append, declaredNames_append, first, blank, health, flags,
    firstFields, if_pos unset.context, if_pos unset.context, unset.type, context]
  rfl

theorem declaredNames_unlessEmpty {m : Method} {type name : String}
    (own : declares? m.signature = some (type, name)) :
    declaredNames (m.unlessEmpty.map Method.signature) = if m.body.lines.isEmpty then [] else [name] := by
  unfold Method.unlessEmpty
  split
  next => rfl
  next => exact declaredNames_cons_some own []

theorem declaredNames_start {b : Bodies} {code : BodyCode} (h : b.Holds code) :
    declaredNames ((startMethod code.start).unlessEmpty.map Method.signature) =
      if b.start.isEmpty then [] else ["Start"] := by
  have named (waits : Bool) : ∃ type, declares?
      (if waits then "IEnumerator Start()" else "void Start()") = some (type, "Start") := by
    cases waits with
    | false => exact ⟨"void", by decide⟩
    | true => exact ⟨"IEnumerator", by decide⟩
  obtain ⟨type, own⟩ := named code.start.waits
  rw [h.start, Writer.isEmpty_run]
  exact declaredNames_unlessEmpty (m := startMethod code.start) own

theorem declaredNames_hook {b : Bodies} {code : BodyCode} (h : b.Holds code) (hook : Hook) :
    declaredNames ((Method.unlessEmpty ⟨hook.signature, code.hook hook⟩).map Method.signature) =
      if (b.hook hook).isEmpty then [] else [hook.method] := by
  have own : declares? hook.signature = some ("void", hook.method) := by cases hook <;> decide
  rw [h.hook, Writer.isEmpty_run]
  exact declaredNames_unlessEmpty (m := ⟨hook.signature, code.hook hook⟩) own

theorem declaredNames_signatures (unset : IsUnset ctx.config) (facts : Facts) (declared : Passage)
    {b : Bodies} {code : BodyCode} (h : b.Holds code) :
    declaredNames ((ctx.classCode facts declared code).methods.map Method.signature) =
      ctx.methodNames facts b ++ b.routines.map Routine.name := by
  have awake : declaredNames [awakeMethod.signature] = ["Awake"] := by decide
  have given : declaredNames ["public void Initialize(" ++ "IUniforgeContext" ++ " context)"] =
      ["Initialize"] := by decide
  have hooks : declaredNames ((Hook.all.flatMap fun hook =>
      Method.unlessEmpty ⟨hook.signature, code.hook hook⟩).map Method.signature) =
        (Hook.all.filter fun hook => !(b.hook hook).isEmpty).map Hook.method := by
    simp only [Hook.all, List.flatMap_cons, List.flatMap_nil, List.append_nil, List.map_append,
      declaredNames_append, declaredNames_hook h, List.filter_cons, List.filter_nil]
    cases (b.hook .update).isEmpty <;> cases (b.hook .collision).isEmpty <;> rfl
  have damage : declaredNames (if ctx.hasHealth facts &&
      (damageAmount? (ctx.typeOf ctx.config.healthField)).isSome then [damageSignature] else []) =
        if ctx.hasHealth facts && (damageAmount? (ctx.typeOf ctx.config.healthField)).isSome then
          ["OnTakeDamage"] else [] := by
    split
    next => decide
    next => rfl
  have routines : declaredNames ((code.routines.map RoutineCode.method).map Method.signature) =
      b.routines.map Routine.name := by
    rw [List.map_map, h.names]
    exact declaredNames_map _ RoutineCode.name (fun r => ⟨_, r.declares_signature⟩) code.routines
  have methods : (ctx.classCode facts declared code).methods = [awakeMethod] ++
      (initializeMethods ctx.config ++ ((startMethod code.start).unlessEmpty ++
        ((Hook.all.flatMap fun hook => Method.unlessEmpty ⟨hook.signature, code.hook hook⟩) ++
          (ctx.damageMethods facts ++ code.routines.map RoutineCode.method)))) := by
    simp [classCode]
  have context : declaredNames ((initializeMethods ctx.config).map Method.signature) =
      if ctx.config.usesContext then ["Initialize"] else [] := by
    rw [initializeMethods, if_pos unset.context, if_pos unset.context, unset.type]
    exact given
  rw [methods]
  simp only [List.map_append, declaredNames_append, Assembly.damage_signatures]
  rw [context, declaredNames_start h, hooks, damage, routines]
  simp only [methodNames, List.append_assoc]
  rfl

/-- The members that a class can have besides variables and routines, where nothing is set. -/
def fixedMembers : List String :=
  ["_transform", "_animator", "_context", "hp", "Awake", "Initialize", "Start", "Update",
   "OnCollisionEnter2D", "OnTakeDamage"]

theorem fixed_sublist (unset : IsUnset ctx.config) (facts : Facts) (b : Bodies) :
    (firstFields ctx.config ++ ((if ctx.needsHealthField facts then [ctx.config.healthField] else []) ++
      ctx.methodNames facts b)).Sublist fixedMembers := by
  have perhaps (chosen : Bool) (name : String) :
      (if chosen then [name] else []).Sublist [name] := by
    cases chosen <;> simp
  have given (left : Bool) (name : String) : (if left then [] else [name]).Sublist [name] := by
    cases left <;> simp
  have hooks : ((Hook.all.filter fun hook => !(b.hook hook).isEmpty).map Hook.method).Sublist
      ["Update", "OnCollisionEnter2D"] := List.filter_sublist.map Hook.method
  rw [firstFields, if_pos unset.context, unset.health]
  exact (List.Sublist.refl _).append ((perhaps _ _).append ((List.Sublist.refl ["Awake"]).append
    ((perhaps _ _).append ((given _ _).append (hooks.append (perhaps _ _))))))

theorem ownMembers_perm (facts : Facts) (b : Bodies) : (ctx.ownMembers facts b).Perm
    ((firstFields ctx.config ++ ((if ctx.needsHealthField facts then [ctx.config.healthField] else []) ++
      ctx.methodNames facts b)) ++ (b.routines.map Routine.flag ++ b.routines.map Routine.name)) := by
  refine List.perm_iff_count.mpr fun name => ?_
  simp only [ownMembers, furtherMembers, List.count_append]
  omega

theorem nodup_ownMembers (unset : IsUnset ctx.config) (facts : Facts) {b : Bodies} {code : BodyCode}
    (h : b.Holds code) (distinct : (code.routines.map RoutineCode.number).Nodup) :
    (ctx.ownMembers facts b).Nodup := by
  have fixed : (firstFields ctx.config ++ ((if ctx.needsHealthField facts then
      [ctx.config.healthField] else []) ++ ctx.methodNames facts b)).Nodup :=
    (fixed_sublist unset facts b).nodup (by decide)
  have told {text : RoutineCode → String} (number : ∀ {r r'}, text r = text r' → r.number = r'.number) :
      (code.routines.map text).Nodup :=
    List.pairwise_map.mpr ((List.pairwise_map.mp distinct).imp fun differ same => differ (number same))
  have flags := told RoutineCode.number_of_flag
  have names := told RoutineCode.number_of_name
  have apart : (code.routines.map RoutineCode.flag).Disjoint (code.routines.map RoutineCode.name) := by
    intro name hf hn
    obtain ⟨r, -, rfl⟩ := List.mem_map.mp hf
    obtain ⟨r', -, same⟩ := List.mem_map.mp hn
    obtain ⟨c, last, digit⟩ := r'.ending_name
    rw [same, r.ending_flag] at last
    cases last
    cases digit
  -- the last letter tells what a routine brings from all that every class can have
  have unnumbered : (fixedMembers.all fun name => !name.toList.getLast?.any endsRoutine) = true := by
    decide
  rw [(ctx.ownMembers_perm facts b).nodup_iff, h.flags, h.names]
  refine fixed.append (flags.append names apart) fun name hf hr => ?_
  have outside := List.all_eq_true.mp unnumbered name ((fixed_sublist unset facts b).subset hf)
  rw [RoutineCode.any_ending hr] at outside
  cases outside

theorem members_classWriter (named : ctx.Named) (unset : IsUnset ctx.config) {w : Writer}
    (h : ctx.classWriter.result = .ok w) :
    ∃ b, ctx.bodies.result = .ok b ∧ (declareVariables ctx.entity).result = .ok () ∧
      w.members = firstFields ctx.config ++
        (declaredNames (declaredLines ctx.entity.id [] ctx.entity.vars) ++
          ctx.furtherMembers (Facts.none.after ctx.bodies.effects) b) ∧
      (ctx.ownMembers (Facts.none.after ctx.bodies.effects) b).Nodup := by
  obtain ⟨b, hb, hd, rfl⟩ := classWriter_result h
  have fields : (declareVariables ctx.entity).Writes ctx false false := declareFrom_writes _ _ _
  obtain ⟨declared, declares, -⟩ := fields _ hd
  obtain ⟨start, contributions, -, -, collected⟩ := bodies_collects named hb
  have pieces : (declareVariables ctx.entity).pieces = declared.pieces := declares.pieces
  have lines : Declared [] ctx.entity.vars declared.pieces := by
    rw [← pieces]
    exact declareFrom_declared ctx.config hd
  have texts : declared.texts = declaredLines ctx.entity.id [] ctx.entity.vars := by
    rw [Passage.texts_of_flat lines.flat, ← pieces]
    rfl
  have distinct : ((BodyCode.of start contributions).routines.map RoutineCode.number).Nodup := by
    change ((contributions.filterMap Contribution.routine?).map RoutineCode.number).Nodup
    rw [collected.numbered]
    exact List.nodup_range
  refine ⟨b, hb, hd, ?_, nodup_ownMembers unset _ collected.holds distinct⟩
  rw [pieces, writeClass_eq _ declared collected.holds,
    ClassCode.members_run (header_isFlat _) (declaredNames_remarks _),
    declaredNames_signatures unset _ declared collected.holds, furtherMembers, collected.holds.flags,
    ← texts]
  change declaredNames (ctx.fields _ declared ((BodyCode.of start contributions).routines.map
    RoutineCode.flag)).outer ++ _ = _
  rw [declaredNames_fields unset _ lines.isFlat]
  simp only [List.append_assoc]

end Context

/-- The members of the class of an entity, where nothing is set, are the fields of its variables and
those that the class needs itself. Both are distinct, so no member is declared twice exactly if no
variable takes a name that the class needs. -/
theorem assemble_members_nodup_iff {config : Config} (valid : Config.Draft.default.check = .ok config)
    (entity : Entity) :
    (entity.hasLogic = true → (∀ n ∈ entity.integers, (Binary64.ofInt? n).isSome) →
      ∃ a, (assemble config entity).result = .ok (some a)) ∧
    ∀ a, (assemble config entity).result = .ok (some a) →
      ∃ w b, (Context.of entity config).classWriter.result = .ok w ∧
        a.source = w.render config.indent ++ "\n" ∧
        (Context.of entity config).bodies.result = .ok b ∧
        w.members = Context.firstFields config ++ ((Context.of entity config).types.map Prod.fst ++
          (Context.of entity config).furtherMembers
            (Facts.none.after (Context.of entity config).bodies.effects) b) ∧
        ((Context.of entity config).ownMembers
          (Facts.none.after (Context.of entity config).bodies.effects) b).Nodup ∧
        (w.members.Nodup ↔ ∀ v ∈ entity.vars, sanitize v.name ∉ (Context.of entity config).ownMembers
          (Facts.none.after (Context.of entity config).bodies.effects) b) := by
  refine ⟨assemble_of_fits config, fun a h => ?_⟩
  obtain ⟨ofEntity, ofConfig⟩ := Context.of_fields entity config
  obtain ⟨w, hw, source⟩ := assemble_classWriter h
  have unset : Context.IsUnset (Context.of entity config).config := by
    rw [ofConfig]
    exact Context.isUnset_default valid
  obtain ⟨b, hb, hd, members, own⟩ :=
    Context.members_classWriter (Context.of_named valid entity) unset hw
  rw [ofEntity] at hd members
  rw [ofConfig, show declaredNames _ = _ from declared_names config hd] at members
  refine ⟨w, b, hw, source, hb, members, own, ?_⟩
  have perm : w.members.Perm ((Context.of entity config).types.map Prod.fst ++
      (Context.of entity config).ownMembers
        (Facts.none.after (Context.of entity config).bodies.effects) b) := by
    rw [members, Context.ownMembers, ofConfig]
    exact List.perm_append_comm_assoc _ _ _
  rw [perm.nodup_iff, List.nodup_append']
  constructor
  · rintro ⟨-, -, apart⟩ v hv taken
    exact apart (Context.mem_types_names.mpr ⟨v, hv, rfl⟩) taken
  · intro free
    refine ⟨Context.nodup_types entity config, own, fun name hn taken => ?_⟩
    obtain ⟨v, hv, rfl⟩ := Context.mem_types_names.mp hn
    exact free v hv taken

/-- A guard with fields, routines and a receiver of damage. -/
def sentryEntity : Entity :=
  { busyEntity with vars := [⟨none, "hp", "int", .int 3⟩, ⟨none, "walk speed", "float", .int 2⟩] }

theorem assemble_members_nodup_iff_sentry :
    ∃ config a w, Config.Draft.default.check = .ok config ∧
      (assemble config sentryEntity).result = .ok (some a) ∧
      (Context.of sentryEntity config).classWriter.result = .ok w ∧
      a.source = w.render config.indent ++ "\n" ∧ w.members.Nodup := by
  obtain ⟨config, valid, evaluated⟩ : ∃ config, Config.Draft.default.check = .ok config ∧
      (Context.of sentryEntity config).bodies.result.toOption.map
        ((Context.of sentryEntity config).ownMembers
          (Facts.none.after (Context.of sentryEntity config).bodies.effects)) =
        some ["_transform", "_animator", "_context", "_updateRoutine0Running", "Awake", "Initialize",
          "Start", "Update", "OnTakeDamage", "UpdateRoutine0"] := by
    refine ⟨_, rfl, ?_⟩
    decide +kernel
  obtain ⟨returns, distinct⟩ := assemble_members_nodup_iff valid sentryEntity
  obtain ⟨a, h⟩ := returns rfl (Value.allBounded_of_small (by decide))
  obtain ⟨w, b, hw, source, hb, -, -, iff⟩ := distinct a h
  rw [hb] at evaluated
  rw [Option.some.inj evaluated] at iff
  exact ⟨config, a, w, valid, h, hw, source, iff.mpr (by decide)⟩

/-- An entity whose field has the name of one that every class has. -/
def mirrorEntity : Entity :=
  { doorEntity "mirror" 0 with vars := [⟨none, "_transform", "float", .int 1⟩] }

/-- A variable can take the name of a member that the class needs itself. -/
theorem assemble_declares_member_twice :
    ∃ config a w, Config.Draft.default.check = .ok config ∧
      (assemble config mirrorEntity).result = .ok (some a) ∧
      (Context.of mirrorEntity config).classWriter.result = .ok w ∧
      a.source = w.render config.indent ++ "\n" ∧
      w.members =
        ["_transform", "_animator", "_context", "_transform", "Awake", "Initialize", "Start"] := by
  obtain ⟨config, valid, evaluated⟩ : ∃ config, Config.Draft.default.check = .ok config ∧
      (Context.of mirrorEntity config).classWriter.result.toOption.map Writer.members =
        some ["_transform", "_animator", "_context", "_transform", "Awake", "Initialize", "Start"] := by
    refine ⟨_, rfl, ?_⟩
    decide +kernel
  have fits : Value.AllBounded mirrorEntity.integers := Value.allBounded_of_small (by decide)
  obtain ⟨a, h⟩ := assemble_of_fits config rfl fits
  obtain ⟨w, hw, source⟩ := assemble_classWriter h
  rw [hw] at evaluated
  exact ⟨config, a, w, valid, h, hw, source, Option.some.inj evaluated⟩

end GraphScript
