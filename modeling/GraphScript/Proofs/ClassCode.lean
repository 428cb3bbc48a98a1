import GraphScript.Proofs.Bodies
import GraphScript.Proofs.Passage

namespace GraphScript

open Lowered

namespace Passage

def ofLines (texts : List String) : Passage :=
  concat (texts.map line)

theorem pieces_concat (passages : List Passage) :
    (concat passages).pieces = passages.flatMap pieces := by
  induction passages with
  | nil => rfl
  | cons first rest ih => rw [concat, pieces, ih, List.flatMap_cons]

theorem pieces_ofLines (texts : List String) : (ofLines texts).pieces = texts.map .line := by
  induction texts with
  | nil => rfl
  | cons text texts ih => exact congrArg (Piece.line text :: ·) ih

end Passage

structure Method where
  signature : String
  body : Passage

/-- A method under a blank line. -/
def Method.passage (m : Method) : Passage :=
  .seq (.line "") (.block (some m.signature) m.body)

/-- A method that is left out if it has nothing to do. -/
def Method.unlessEmpty (m : Method) : List Method :=
  if m.body.lines.isEmpty then [] else [m]

theorem Method.forall_unlessEmpty {p : Method → Prop} {m : Method} (h : p m) :
    ∀ m' ∈ m.unlessEmpty, p m' := by
  unfold unlessEmpty
  split
  next => simp
  next => exact List.forall_mem_singleton.mpr h

theorem Method.mem_unlessEmpty {m : Method} (h : m.body.lines ≠ []) : m ∈ m.unlessEmpty := by
  rw [unlessEmpty, List.isEmpty_eq_false_iff.mpr h]
  exact List.mem_singleton.mpr rfl

structure ClassCode where
  header : Passage
  signature : String
  fields : Passage
  methods : List Method
  remarks : Passage

def ClassCode.passage (code : ClassCode) : Passage :=
  .seq code.header (.block (some code.signature)
    (.seq code.fields (.seq (.concat (code.methods.map Method.passage)) code.remarks)))

/-- The routine of a hook with a number, and what it runs. -/
structure RoutineCode where
  hook : Hook
  number : Nat
  body : Passage

namespace RoutineCode

def routine (r : RoutineCode) : Routine :=
  .of r.hook r.number ((Writer.new 0).run r.body.pieces)

def name (r : RoutineCode) : String :=
  r.routine.name

def flag (r : RoutineCode) : String :=
  r.routine.flag

/-- The statement that starts the routine unless it runs. -/
def call (r : RoutineCode) : String :=
  "if (!" ++ r.flag ++ ") StartCoroutine(" ++ r.name ++ "());"

def method (r : RoutineCode) : Method where
  signature := "IEnumerator " ++ r.name ++ "()"
  body := .seq (.line (r.flag ++ " = true;")) (.seq r.body (.line (r.flag ++ " = false;")))

end RoutineCode

structure BodyCode where
  start : Passage
  hook : Hook → Passage
  routines : List RoutineCode
  unhandled : List (String × Nat)

/-- Bodies that were written from passages. -/
structure Bodies.Holds (b : Bodies) (code : BodyCode) : Prop where
  start : b.start = (Writer.new 0).run code.start.pieces
  hook : ∀ hook, b.hook hook = (Writer.new 0).run (code.hook hook).pieces
  routines : b.routines = code.routines.map RoutineCode.routine
  unhandled : b.unhandled = code.unhandled

namespace Writer

theorem addLines_eq (w : Writer) (texts : List String) :
    w.addLines texts = w.run (Passage.ofLines texts).pieces := by
  rw [Passage.pieces_ofLines, run, List.foldl_map]
  rfl

theorem run_ite (w : Writer) (p : Prop) [Decidable p] (yes no : Passage) :
    w.run (if p then yes else no).pieces = if p then w.run yes.pieces else w.run no.pieces := by
  split
  next => rfl
  next => rfl

theorem run_block (w : Writer) (header : Option String) (body : Passage) :
    w.run (Passage.block header body).pieces = ((w.openBlock header).run body.pieces).close := by
  change (w.openBlock header).run (body.pieces ++ [Piece.close]) = _
  rw [run_append]
  rfl

theorem method_eq {body : Writer → Writer} {p : Passage} (h : ∀ w, body w = w.run p.pieces)
    (w : Writer) (signature : String) :
    w.method signature body = w.run (Method.passage ⟨signature, p⟩).pieces := by
  rw [Method.passage, Passage.pieces, run_append, run_block, ← h]
  rfl

theorem run_methods (w : Writer) (methods : List Method) :
    w.run (Passage.concat (methods.map Method.passage)).pieces =
      methods.foldl (fun w m => w.run m.passage.pieces) w := by
  induction methods generalizing w with
  | nil => rfl
  | cons m methods ih =>
    rw [List.foldl_cons, ← ih, ← run_append]
    rfl

end Writer

namespace Context

open Writer

variable {ctx : Context}

/-- What stands above the class. -/
def header (ctx : Context) (facts : Facts) : Passage :=
  let label := Text.flatten (if ctx.entity.name = "" then ctx.entity.id else ctx.entity.name)
  .concat
    [.line "// <auto-generated>",
     .comment ("Generated by uniforge from entity '" ++ label ++ "' (" ++ ctx.entity.id ++
       "). Changes will be overwritten."),
     .line "// </auto-generated>",
     .ofLines ((baseNamespaces ++ extraNamespaces ctx.config facts).map fun name =>
       "using " ++ name ++ ";"),
     .line ""]

def healthLine (config : Config) : String :=
  "public float " ++ config.healthField ++ " = " ++ CSharp.floatLiteral config.defaultHealth ++ ";"

/-- The fields around the declarations of the variables. -/
def fields (ctx : Context) (facts : Facts) (declared : Passage) (flags : List String) : Passage :=
  .concat
    [.line "private Transform _transform;",
     .line "private Animator _animator;",
     if ctx.config.usesContext then
       .line ("private " ++ ctx.config.contextType ++ " " ++ ServiceCall.contextField ++ ";")
     else .empty,
     if !ctx.entity.vars.isEmpty || ctx.needsHealthField facts then .line "" else .empty,
     declared,
     if ctx.needsHealthField facts then .line (healthLine ctx.config) else .empty,
     if flags.isEmpty then .empty
     else .ofLines ("" :: flags.map fun flag => "private bool " ++ flag ++ ";")]

def awakeMethod : Method :=
  ⟨"void Awake()", .ofLines ["_transform = transform;", "_animator = GetComponent<Animator>();"]⟩

def initializeMethods (config : Config) : List Method :=
  if config.usesContext then
    [⟨"public void Initialize(" ++ config.contextType ++ " context)",
      .line (ServiceCall.contextField ++ " = context;")⟩]
  else []

def startMethod (body : Passage) : Method :=
  ⟨if body.waits then "IEnumerator Start()" else "void Start()", body⟩

/-- The method through which damage reaches an entity with a health field that it can change. -/
def damageMethods (ctx : Context) (facts : Facts) : List Method :=
  if ctx.hasHealth facts then
    (damageAmount? (ctx.typeOf ctx.config.healthField)).toList.map fun amount =>
      ⟨"public void OnTakeDamage(float amount)",
        .line (ctx.config.healthField ++ " -= " ++ amount ++ ";")⟩
  else []

theorem eq_of_mem_initializeMethods {config : Config} {m : Method} (h : m ∈ initializeMethods config) :
    m = ⟨"public void Initialize(" ++ config.contextType ++ " context)",
      .line (ServiceCall.contextField ++ " = context;")⟩ := by
  unfold initializeMethods at h
  split at h
  next => exact List.mem_singleton.mp h
  next => cases h

theorem startMethod_signature (body : Passage) :
    (startMethod body).signature ∈ ["IEnumerator Start()", "void Start()"] := by
  unfold startMethod
  cases body.waits <;> simp

theorem exists_of_mem_damageMethods {facts : Facts} {m : Method} (h : m ∈ ctx.damageMethods facts) :
    ∃ amount ∈ ["Mathf.RoundToInt(amount)", "amount"],
      m = ⟨"public void OnTakeDamage(float amount)",
        .line (ctx.config.healthField ++ " -= " ++ amount ++ ";")⟩ := by
  unfold damageMethods at h
  split at h
  next =>
    obtain ⟨amount, ha, rfl⟩ := List.mem_map.mp h
    refine ⟨amount, ?_, rfl⟩
    unfold damageAmount? at ha
    split at ha
    next =>
      cases List.mem_singleton.mp ha
      decide
    next =>
      cases List.mem_singleton.mp ha
      decide
    next => cases ha
  next => cases h

/-- What is said about the triggers that have no method. -/
def remark (trigger : String) (count : Nat) : String :=
  "Trigger '" ++ (if trigger = "" then "(none)" else trigger) ++ "' has no lifecycle hook; " ++
    toString count ++ " event(s) not generated"

def remarks (unhandled : List (String × Nat)) : Passage :=
  if unhandled.isEmpty then .empty
  else .seq (.line "") (.concat (unhandled.map fun entry => .comment (remark entry.1 entry.2)))

def classCode (ctx : Context) (facts : Facts) (declared : Passage) (code : BodyCode) : ClassCode where
  header := ctx.header facts
  signature := "public class " ++ ctx.className ++ " : MonoBehaviour"
  fields := ctx.fields facts declared (code.routines.map RoutineCode.flag)
  methods :=
    awakeMethod :: initializeMethods ctx.config ++ (startMethod code.start).unlessEmpty ++
      Hook.all.flatMap (fun hook => Method.unlessEmpty ⟨hook.signature, code.hook hook⟩) ++
      ctx.damageMethods facts ++ code.routines.map RoutineCode.method
  remarks := remarks code.unhandled

theorem writeHeader_eq (facts : Facts) (w : Writer) :
    ctx.writeHeader facts w = w.run (ctx.header facts).pieces := by
  simp only [writeHeader, addLines_eq, header, Passage.pieces_concat, List.flatMap_cons, run_append]
  rfl

theorem writeFields_eq (facts : Facts) (declared : Passage) (routines : List Routine) (w : Writer) :
    ctx.writeFields facts declared.pieces routines w =
      w.run (ctx.fields facts declared (routines.map Routine.flag)).pieces := by
  simp only [writeFields, fields, Passage.pieces_concat, List.flatMap_cons, List.flatMap_nil,
    run_append, run_ite, addLines_eq, List.isEmpty_map, List.map_map]
  rfl

theorem writeInitialize_eq (config : Config) (w : Writer) :
    writeInitialize config w =
      (initializeMethods config).foldl (fun w m => w.run m.passage.pieces) w := by
  unfold writeInitialize initializeMethods
  split
  next => rfl
  next => rfl

theorem foldl_unlessEmpty (m : Method) (w : Writer) :
    m.unlessEmpty.foldl (fun w m => w.run m.passage.pieces) w =
      if m.body.lines.isEmpty then w else w.run m.passage.pieces := by
  unfold Method.unlessEmpty
  split
  next => rfl
  next => rfl

theorem writeStart_eq (body : Passage) (w : Writer) :
    writeStart ((Writer.new 0).run body.pieces) w =
      (startMethod body).unlessEmpty.foldl (fun w m => w.run m.passage.pieces) w := by
  rw [foldl_unlessEmpty, writeStart, isEmpty_run, suspends_run,
    method_eq fun w => extend_run w body]
  rfl

theorem writeHook_eq {b : Bodies} {hook : Hook} {body : Passage}
    (h : b.hook hook = (Writer.new 0).run body.pieces) (w : Writer) :
    writeHook b w hook =
      (Method.unlessEmpty ⟨hook.signature, body⟩).foldl (fun w m => w.run m.passage.pieces) w := by
  rw [foldl_unlessEmpty, writeHook, h, isEmpty_run, method_eq fun w => extend_run w body]

theorem writeDamageReceiver_eq (facts : Facts) (w : Writer) :
    ctx.writeDamageReceiver facts w =
      (ctx.damageMethods facts).foldl (fun w m => w.run m.passage.pieces) w := by
  unfold writeDamageReceiver damageMethods
  split
  next => cases damageAmount? (ctx.typeOf ctx.config.healthField) <;> rfl
  next => rfl

theorem writeRoutine_eq (r : RoutineCode) (w : Writer) :
    writeRoutine w r.routine = w.run r.method.passage.pieces := by
  refine method_eq (fun w => ?_) w _
  change ((w.line _).extend ((Writer.new 0).run r.body.pieces)).line _ =
    (w.line _).run (r.body.pieces ++ [Piece.line _])
  rw [extend_run, run_append]
  rfl

theorem writeUnhandled_eq (unhandled : List (String × Nat)) (w : Writer) :
    writeUnhandled unhandled w = w.run (remarks unhandled).pieces := by
  unfold writeUnhandled remarks
  rw [run_ite]
  split
  next => rfl
  next =>
    rw [Passage.pieces, run_append, Passage.pieces_concat, run, run, List.foldl_flatMap, List.foldl_map]
    rfl

/-- What is written around bodies that were written from passages is the class as a tree. -/
theorem writeClass_eq (facts : Facts) (declared : Passage) {b : Bodies} {code : BodyCode}
    (h : b.Holds code) :
    ctx.writeClass facts declared.pieces b =
      (Writer.new 0).run (ctx.classCode facts declared code).passage.pieces := by
  have hooks (w : Writer) : Hook.all.foldl (writeHook b) w =
      (Hook.all.flatMap fun hook => Method.unlessEmpty ⟨hook.signature, code.hook hook⟩).foldl
        (fun w m => w.run m.passage.pieces) w := by
    have each : writeHook b = fun w hook =>
        (Method.unlessEmpty ⟨hook.signature, code.hook hook⟩).foldl
          (fun w m => w.run m.passage.pieces) w := by
      funext w hook
      exact writeHook_eq (h.hook hook) w
    rw [List.foldl_flatMap, each]
  have routines (w : Writer) : b.routines.foldl writeRoutine w =
      (code.routines.map RoutineCode.method).foldl (fun w m => w.run m.passage.pieces) w := by
    have each : (fun w (r : RoutineCode) => writeRoutine w r.routine) =
        fun w r => w.run r.method.passage.pieces := by
      funext w r
      exact writeRoutine_eq r w
    rw [h.routines, List.foldl_map, List.foldl_map, each]
  have flags : b.routines.map Routine.flag = code.routines.map RoutineCode.flag := by
    rw [h.routines, List.map_map]
    rfl
  have inside (w : Writer) :
      writeUnhandled b.unhandled (b.routines.foldl writeRoutine (ctx.writeDamageReceiver facts
        (Hook.all.foldl (writeHook b) (writeStart b.start (writeInitialize ctx.config (writeAwake
          (ctx.writeFields facts declared.pieces b.routines w))))))) =
      w.run (Passage.seq (ctx.classCode facts declared code).fields
        (.seq (.concat ((ctx.classCode facts declared code).methods.map Method.passage))
          (ctx.classCode facts declared code).remarks)).pieces := by
    have awake (w : Writer) : writeAwake w = w.run awakeMethod.passage.pieces :=
      method_eq (fun w => addLines_eq w _) w _
    rw [Passage.pieces, Passage.pieces, run_append, run_append, run_methods]
    simp only [classCode, List.foldl_append, List.foldl_cons]
    rw [writeUnhandled_eq, routines, writeDamageReceiver_eq, hooks, h.start, writeStart_eq,
      writeInitialize_eq, awake, writeFields_eq, flags, h.unhandled]
  rw [ClassCode.passage, Passage.pieces, run_append, run_block, ← inside, writeClass, writeHeader_eq]
  rfl

/-- The writer that holds the file of an entity in the end. -/
def classWriter (ctx : Context) : Lowered Writer := do
  let lowered ← ctx.bodies.observe
  let declared ← (declareVariables ctx.entity).capture
  return ctx.writeClass (Facts.none.after lowered.1) declared.1 lowered.2

theorem classWriter_result {w : Writer} (h : ctx.classWriter.result = .ok w) :
    ∃ b, ctx.bodies.result = .ok b ∧ (declareVariables ctx.entity).result = .ok () ∧
      w = ctx.writeClass (Facts.none.after ctx.bodies.effects)
        (declareVariables ctx.entity).pieces b := by
  obtain ⟨⟨effects, b⟩, hb, h⟩ := bind_result_ok h
  obtain ⟨⟨declarations, _⟩, hd, h⟩ := bind_result_ok h
  obtain ⟨rfl, bodies⟩ := observe_result_ok hb
  obtain ⟨rfl, declared⟩ := capture_result_ok hd
  cases h
  exact ⟨b, bodies, declared, rfl⟩

/-- The source of a class is what its writer holds. -/
theorem assemble_source {a : Artifact} (h : ctx.assemble.result = .ok a) :
    ∃ w, ctx.classWriter.result = .ok w ∧ a.source = w.render ctx.config.indent ++ "\n" := by
  rw [assemble_eq] at h
  obtain ⟨⟨effects, b⟩, hb, h⟩ := bind_result_ok h
  obtain ⟨⟨declarations, _⟩, hd, h⟩ := bind_result_ok h
  obtain ⟨_, -, h⟩ := bind_result_ok h
  obtain ⟨_, -, h⟩ := bind_result_ok h
  obtain ⟨_, -, h⟩ := bind_result_ok h
  cases h
  refine ⟨ctx.writeClass (Facts.none.after effects) declarations b, ?_, rfl⟩
  rw [classWriter, bind_of_ok hb, bind_of_ok hd]
  rfl

end Context

/-- The source of an entity with logic is what the writer of its class holds. -/
theorem assemble_classWriter {config : Config} {entity : Entity} {a : Artifact}
    (h : (assemble config entity).result = .ok (some a)) :
    ∃ w, (Context.of entity config).classWriter.result = .ok w ∧
      a.source = w.render config.indent ++ "\n" := by
  unfold assemble at h
  split at h
  next =>
    obtain ⟨made, hm, h⟩ := bind_result_ok h
    cases h
    have source := Context.assemble_source hm
    rwa [(Context.of_fields entity config).2] at source
  next =>
    obtain ⟨_, -, h⟩ := bind_result_ok h
    cases h

end GraphScript
