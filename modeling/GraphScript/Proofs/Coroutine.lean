import GraphScript.Proofs.Contained

namespace GraphScript

open Lowered CSharp

/-- The lines of source that a text gives: it is cut where a line ends, and what follows may be
indented. -/
def sourceLines (text : String) : List (List Char) :=
  match text.toList.splitOnP lineBreaks.contains with
  | [] => []
  | first :: further => first :: further.map fun line => line.dropWhile Text.isBlank

/-- Whether a line of source that a stored line gives is a wait. -/
def Line.isWait (line : Line) : Bool :=
  (sourceLines line.text).any Passage.waitStart.isPrefixOf

/-- A line without a break is one line of source. -/
theorem isWait_of_contained {text : String} (h : Contained text) (depth : Int) :
    Line.isWait ⟨depth, text⟩ = Passage.waitStart.isPrefixOf text.toList := by
  have whole : text.toList.splitOnP lineBreaks.contains = [text.toList] :=
    List.splitOnP_eq_singleton fun c hc => by simpa using h.unbroken c hc
  rw [Line.isWait, sourceLines, whole]
  simp

theorem isWait_of_isApart {text : String} (h : Contained text) (apart : IsApart text.toList)
    (depth : Int) : Line.isWait ⟨depth, text⟩ = false := by
  obtain ⟨-, -, -, wait⟩ := isApart_iff.mp apart
  have start : ['y', 'i', 'e', 'l', 'd', ' ', 'r'] <+: Passage.waitStart := by decide
  rw [isWait_of_contained h]
  refine Bool.eq_false_iff.mpr fun hw => ?_
  exact not_prefix_of_diverges wait (start.trans (List.isPrefixOf_iff_prefix.mp hw))

namespace Passage

/-- An ordinary passage has a line that waits if it has a wait. -/
theorem any_isWait {ctx : Context} (harmless : ctx.Harmless) {p : Passage} (h : p.IsOrdinary ctx) :
    p.lines.any Line.isWait = p.waits := by
  have shifted (n : Int) (lines : List Line) :
      (lines.map (Line.shift n)).any Line.isWait = lines.any Line.isWait := by
    rw [List.any_map]
    rfl
  have still {text : String} (own : ctx.Ordinary text) : Line.isWait ⟨0, text⟩ = false :=
    isWait_of_isApart (own.neutral harmless).contained own.apart 0
  have opening : Line.isWait ⟨0, "\x7b"⟩ = false := by decide
  have closing : Line.isWait ⟨0, "\x7d"⟩ = false := by decide
  induction p with
  | empty => rfl
  | line text =>
    rcases h with rfl | ordinary
    · rfl
    · simp [lines, waits, still ordinary]
  | comment text =>
    have remark : Line.isWait ⟨0, commentText text⟩ = false :=
      isWait_of_isApart (contained_comment text) (isApart_comment text) 0
    simp [lines, waits, remark]
  | wait seconds =>
    have start := List.isPrefixOf_iff_prefix.mpr (waitText_start seconds)
    simp [lines, waits, isWait_of_contained (neutral_waitText h).contained, start]
  | under test statement =>
    obtain ⟨rfl, ordinary⟩ := h
    have test : Line.isWait ⟨0, hitLine⟩ = false := by decide
    have inner : Line.isWait ⟨1, statement⟩ = false := still ordinary
    simp [lines, waits, test, inner]
  | seq first second ih ih' => rw [lines, List.any_append, ih h.1, ih' h.2, waits]
  | block header body ih =>
    have above : (header.toList.map (Line.mk 0)).any Line.isWait = false := by
      cases header with
      | none => rfl
      | some text => simp [still (h.1 text rfl)]
    rw [lines, List.any_append, above, List.any_cons, opening, List.any_append, shifted, ih h.2,
      List.any_cons, closing, List.any_nil, waits]
    simp

theorem lines_ne_nil_of_waits {p : Passage} (h : p.waits = true) : p.lines ≠ [] := by
  induction p with
  | wait seconds => simp [lines]
  | block header body => simp [lines]
  | seq first second ih ih' =>
    rw [lines]
    rcases Bool.or_eq_true_iff.mp h with waits | waits
    · exact List.append_ne_nil_of_left_ne_nil (ih waits) _
    · exact List.append_ne_nil_of_right_ne_nil _ (ih' waits)
  | _ => cases h

theorem waits_concat (passages : List Passage) : (concat passages).waits = passages.any waits := by
  induction passages with
  | nil => rfl
  | cons first rest ih => rw [concat, waits, ih, List.any_cons]

theorem waits_guarded (guards : List String) (body : Passage) :
    (guarded guards body).waits = body.waits := by
  induction guards with
  | nil => rfl
  | cons guard guards ih => exact ih

theorem waits_ite {c : Prop} [Decidable c] (yes : Passage) :
    (if c then yes else empty).waits = (decide c && yes.waits) := by
  split
  next h => simp [h]
  next h => simp [h, waits]

end Passage

/-- How the signature of a coroutine begins. -/
def coroutineStart : List Char :=
  ['I', 'E', 'n', 'u', 'm', 'e', 'r', 'a', 't', 'o', 'r', ' ']

namespace Method

def isCoroutine (m : Method) : Bool :=
  coroutineStart.isPrefixOf m.signature.toList

def hasWait (m : Method) : Bool :=
  m.passage.lines.any Line.isWait

theorem isCoroutine_of_head {m : Method} {c : Char} (h : m.signature.toList.head? = some c)
    (hc : 'I' ≠ c) : m.isCoroutine = false := by
  refine Bool.eq_false_iff.mpr fun hp => ?_
  exact not_prefix_of_diverges (diverges_of_head h hc) (List.isPrefixOf_iff_prefix.mp hp)

end Method

namespace Context

variable {ctx : Context}

theorem Occasion.waits_of_idle {o : Occasion} (h : o.event.action.getD "" = "") :
    o.waits ctx = false := by
  have action : o.action ctx = Pure.pure () := lowerAction_idle h _
  have node : o.event.asNode.waits = false := by
    change (o.event.action.bind ActionKind.ofName? == some .wait) = false
    cases named : o.event.action with
    | none => rfl
    | some name =>
      have empty : name = "" := by simpa [named] using h
      rw [Option.bind_some, empty, ActionKind.ofName?_empty]
      rfl
  rw [Occasion.waits, node, action]
  rfl

/-- What an event contributes to a hook does not wait. -/
theorem Contributes.hook_waits {o : Occasion} {c : Contribution} (h : ctx.Contributes o c)
    (hook : Hook) : (c.passage (.hook hook)).waits = false := by
  cases h with
  | unhandled => rfl
  | nothing => rfl
  | inline _ _ _ performs here =>
    rw [Contribution.passage, Passage.waits_ite, Passage.waits_guarded, performs.wrote.waits]
    rcases here with rfl | still
    · rfl
    · rw [still, Bool.and_false]
  | routine =>
    rw [Contribution.passage, Passage.waits_ite, Passage.waits_guarded]
    exact Bool.and_false _

/-- What an event contributes to the start waits if the event does. -/
theorem Contributes.start_waits {o : Occasion} {c : Contribution} (h : ctx.Contributes o c) :
    (c.passage .start).waits = (o.event.trigger? == some .start && o.waits ctx) := by
  cases h with
  | unhandled trigger => simp [trigger, Contribution.passage, Passage.waits]
  | nothing handled idle => simp [Occasion.waits_of_idle idle, Contribution.passage, Passage.waits]
  | @inline trigger _ _ handled _ _ performs here =>
    rw [Contribution.passage, Passage.waits_ite, Passage.waits_guarded, performs.wrote.waits,
      handled]
    cases trigger <;> rfl
  | routine handled =>
    rw [Contribution.passage, Passage.waits_ite, handled]
    rfl

theorem initializeMethods_plain (config : Config) : ∀ m ∈ initializeMethods config,
    m.signature.toList.head? = some 'p' ∧ m.body.waits = false := by
  intro m hm
  cases eq_of_mem_initializeMethods hm
  exact ⟨by simp, rfl⟩

theorem damageMethods_plain (facts : Facts) : ∀ m ∈ ctx.damageMethods facts,
    m.signature.toList.head? = some 'p' ∧ m.body.waits = false := by
  intro m hm
  obtain ⟨amount, -, rfl⟩ := exists_of_mem_damageMethods hm
  exact ⟨by simp, rfl⟩

theorem hookSignature_head (hook : Hook) : hook.signature.toList.head? = some 'v' := by
  cases hook <;> simp [Hook.signature]

/-- Whether a wait was lowered into the start: in the walk of the first module, or for an event of
the start. -/
def startWaits (ctx : Context) : Bool :=
  (ctx.lowerStart ctx.config.maxEmittedNodes).visits.any Visit.waits ||
    ctx.occasions.any fun o => o.event.trigger? == some .start && o.waits ctx

namespace Assembly

theorem startBody_waits (s : ctx.Assembly) : s.startBody.waits = ctx.startWaits := by
  have events {occasions : List Occasion} {contributions : List Contribution}
      (h : List.Forall₂ ctx.Contributes occasions contributions) :
      (contributions.map (Contribution.passage .start)).any Passage.waits =
        occasions.any fun o => o.event.trigger? == some .start && o.waits ctx := by
    induction h with
    | nil => rfl
    | cons first _ ih => rw [List.map_cons, List.any_cons, List.any_cons, first.start_waits, ih]
  rw [startBody, Passage.waits, s.starts.waits, Passage.waits_concat, events s.contributes]
  rfl

theorem hookBody_waits (s : ctx.Assembly) (hook : Hook) : (s.hookBody hook).waits = false := by
  rw [hookBody, Passage.waits_concat, List.any_eq_false]
  intro p hp
  obtain ⟨c, hc, rfl⟩ := List.mem_map.mp hp
  obtain ⟨o, -, contributes⟩ := exists_of_forall₂ s.contributes c hc
  rw [contributes.hook_waits]
  exact Bool.false_ne_true

theorem routine_waits (s : ctx.Assembly) : ∀ r ∈ s.routines, r.method.body.waits = true := by
  intro r hr
  obtain ⟨_, -, performs, waits⟩ := s.routine_performs r hr
  have own : r.body.waits = true := by rw [performs.wrote.waits, waits]
  change (false || (r.body.waits || false)) = true
  rw [own]
  rfl

/-- A method waits if and only if it is declared as a coroutine. -/
theorem waits_eq_isCoroutine (s : ctx.Assembly) :
    ∀ m ∈ s.code.methods, m.body.waits = m.isCoroutine := by
  refine s.forall_methods (by decide) (fun m hm => ?_) ?_ (fun hook => ?_) (fun m hm => ?_)
    fun r hr => ?_
  · obtain ⟨head, still⟩ := initializeMethods_plain ctx.config m hm
    rw [still, Method.isCoroutine_of_head head (by decide)]
  · have declared (waits : Bool) : waits = coroutineStart.isPrefixOf
        (if waits then "IEnumerator Start()" else "void Start()").toList := by
      cases waits <;> decide
    exact declared _
  · rw [s.hookBody_waits, Method.isCoroutine_of_head (hookSignature_head hook) (by decide)]
  · obtain ⟨head, still⟩ := damageMethods_plain _ m hm
    rw [still, Method.isCoroutine_of_head head (by decide)]
  · have start : coroutineStart <+: "IEnumerator ".toList := by decide
    have declared : coroutineStart <+: r.method.signature.toList := by
      rw [RoutineCode.method, String.toList_append, String.toList_append, List.append_assoc]
      exact start.trans (List.prefix_append _ _)
    rw [s.routine_waits r hr]
    exact (List.isPrefixOf_iff_prefix.mpr declared).symm

theorem hasWait_eq_waits (named : ctx.Named) (harmless : ctx.Harmless) (s : ctx.Assembly) :
    ∀ m ∈ s.code.methods, m.hasWait = m.body.waits := by
  intro m hm
  have own := s.methods_isOrdinary named m hm
  have whole : m.passage.IsOrdinary ctx := ⟨.inl rfl, by simpa using own.signature, own.body⟩
  exact Passage.any_isWait harmless whole

theorem routine_signature_ne (r : RoutineCode) : r.method.signature ≠ "IEnumerator Start()" := by
  intro h
  -- the first letter after the type is that of a hook
  have letter := congrArg (fun text => text.toList[12]?) h
  obtain ⟨hook, number, body⟩ := r
  cases hook <;>
    simp [RoutineCode.method, RoutineCode.name, RoutineCode.routine, Routine.of,
      Hook.method] at letter

/-- The start is a coroutine if a wait was lowered into it. -/
theorem start_isCoroutine (s : ctx.Assembly) :
    (∃ m ∈ s.code.methods, m.signature = "IEnumerator Start()") ↔ ctx.startWaits = true := by
  have other {signature : String} {c : Char} (h : signature.toList.head? = some c) (hc : c ≠ 'I') :
      signature ≠ "IEnumerator Start()" := by
    rintro rfl
    cases h
    exact hc rfl
  constructor
  · have all : ∀ m ∈ s.code.methods,
        m.signature = "IEnumerator Start()" → ctx.startWaits = true := by
      refine s.forall_methods (fun h => ?_) (fun m hm h => ?_) (fun h => ?_) (fun hook h => ?_)
        (fun m hm h => ?_) fun r _ h => ?_
      · exact absurd h (by decide)
      · exact absurd h (other (initializeMethods_plain _ m hm).1 (by decide))
      · unfold startMethod at h
        rw [← s.startBody_waits]
        split at h
        next waits => exact waits
        next => exact absurd h (show "void Start()" ≠ "IEnumerator Start()" by decide)
      · exact absurd h (other (hookSignature_head hook) (by decide))
      · exact absurd h (other (damageMethods_plain _ m hm).1 (by decide))
      · exact absurd h (routine_signature_ne r)
    rintro ⟨m, hm, start⟩
    exact all m hm start
  · intro waits
    have own : s.startBody.waits = true := by rw [s.startBody_waits, waits]
    -- a start that waits has a line, so it is not left out
    have filled : s.startBody.lines.isEmpty = false :=
      List.isEmpty_eq_false_iff.mpr (Passage.lines_ne_nil_of_waits own)
    have kept : startMethod s.startBody ∈ (startMethod s.startBody).unlessEmpty := by
      simp [Method.unlessEmpty, startMethod, filled]
    refine ⟨startMethod s.startBody, ?_, by simp [startMethod, own]⟩
    exact List.mem_append_left _ (List.mem_append_left _ (List.mem_append_left _
      (List.mem_append_right _ kept)))

end Assembly

end Context

/-- The methods of a class that wait are the coroutines among them, if the keys that the entity asks
for and the texts of the settings close what they open. The start is one if a wait was lowered into it,
in whatever branch or module, all routines are, and the other methods are not. -/
theorem assemble_coroutines {draft : Config.Draft} {config : Config}
    (valid : draft.check = .ok config) (settings : ∀ text ∈ config.givenTexts, Neutral text)
    {entity : Entity} (keys : ∀ key ∈ entity.inputKeys, Neutral (Key.member key)) {a : Artifact}
    (h : (assemble config entity).result = .ok (some a)) :
    ∃ (w : Writer) (s : (Context.of entity config).Assembly),
      (Context.of entity config).classWriter.result = .ok w ∧
      a.source = w.render config.indent ++ "\n" ∧
      w.lines.toList = s.code.passage.lines ∧
      (∀ m ∈ s.code.methods, m.hasWait = m.isCoroutine) ∧
      ((∃ m ∈ s.code.methods, m.signature = "IEnumerator Start()") ↔
        (Context.of entity config).startWaits = true) ∧
      (∀ m ∈ s.code.methods, m.signature ∈ ["void Awake()",
          "public void Initialize(" ++ config.contextType ++ " context)", "void Update()",
          "void OnCollisionEnter2D(Collision2D collision)",
          "public void OnTakeDamage(float amount)"] → m.hasWait = false) ∧
      ∀ r ∈ s.routines, r.method ∈ s.code.methods ∧ r.method.hasWait = true ∧
        r.method.signature =
          "IEnumerator " ++ (r.hook.method ++ "Routine" ++ toString r.number) ++ "()" := by
  have named := Context.of_named valid entity
  have harmless := Context.of_harmless keys settings
  obtain ⟨w, s, hw, source, rfl⟩ := assemble_assembly valid h
  have waits : ∀ m ∈ s.code.methods, m.hasWait = m.isCoroutine := fun m hm =>
    (s.hasWait_eq_waits named harmless m hm).trans (s.waits_eq_isCoroutine m hm)
  refine ⟨_, s, hw, source, Writer.lines_run _, waits, s.start_isCoroutine, ?_, ?_⟩
  · intro m hm signature
    have plain {c : Char} (head : m.signature.toList.head? = some c) (hc : 'I' ≠ c) :
        m.hasWait = false := by
      rw [waits m hm, Method.isCoroutine_of_head head hc]
    simp only [List.mem_cons, List.not_mem_nil, or_false] at signature
    rcases signature with h | h | h | h | h
    · exact plain (c := 'v') (by simp [h]) (by decide)
    · exact plain (c := 'p') (by simp [h]) (by decide)
    · exact plain (c := 'v') (by simp [h]) (by decide)
    · exact plain (c := 'v') (by simp [h]) (by decide)
    · exact plain (c := 'p') (by simp [h]) (by decide)
  · intro r hr
    have member : r.method ∈ s.code.methods :=
      List.mem_append_right _ (List.mem_map.mpr ⟨r, hr, rfl⟩)
    refine ⟨member, ?_, rfl⟩
    rw [s.hasWait_eq_waits named harmless _ member, s.routine_waits r hr]

theorem assemble_coroutines_asking :
    ∃ config a, Config.Draft.default.check = .ok config ∧
      (assemble config (askingEntity "KeyW")).result = .ok (some a) ∧
      ∃ s : (Context.of (askingEntity "KeyW") config).Assembly,
        (∀ m ∈ s.code.methods, m.hasWait = m.isCoroutine) ∧
        ∃ m ∈ s.code.methods, m.signature = "IEnumerator Start()" := by
  have lowered : (Config.Draft.default.check.toOption.map fun config =>
      (Context.of (askingEntity "KeyW") config).startWaits) = some true := by
    decide +kernel
  obtain ⟨config, valid⟩ : ∃ config, Config.Draft.default.check = .ok config := ⟨_, rfl⟩
  have settings : ∀ text ∈ config.givenTexts, Neutral text := by
    cases valid
    decide
  have keys : ∀ key ∈ (askingEntity "KeyW").inputKeys, Neutral (Key.member key) := by decide
  obtain ⟨a, ha⟩ := askingEntity_assembles config "KeyW"
  obtain ⟨w, s, -, -, -, waits, start, -⟩ := assemble_coroutines valid settings keys ha
  rw [valid] at lowered
  exact ⟨config, a, valid, ha, s, waits, start.mpr (Option.some.inj lowered)⟩

/-- A key can bring a wait into a method that does not wait. -/
def wakingKey : String := "A))\nyield return new WaitForSeconds(1f);\nif ((true"

theorem wakingKey_waits :
    ∃ config a w, Config.Draft.default.check = .ok config ∧
      (assemble config (pressedEntity "door" wakingKey)).result = .ok (some a) ∧
      (Context.of (pressedEntity "door" wakingKey) config).classWriter.result = .ok w ∧
      a.source = w.render config.indent ++ "\n" ∧
      (∃ line ∈ w.lines.toList, line.isWait = true) ∧
      ∀ line ∈ w.lines.toList, ¬coroutineStart <+: line.text.toList := by
  have waits : (do
      let config ← Config.Draft.default.check.toOption
      let w ← (Context.of (pressedEntity "door" wakingKey) config).classWriter.result.toOption
      return w.lines.toList.any Line.isWait &&
        w.lines.toList.all fun line => !coroutineStart.isPrefixOf line.text.toList) = some true := by
    decide +kernel
  obtain ⟨config, a, w, valid, ha, hw, source, found⟩ := pressedEntity_source waits
  obtain ⟨waits, plain⟩ := Bool.and_eq_true_iff.mp found
  refine ⟨config, a, w, valid, ha, hw, source, List.any_eq_true.mp waits, fun line hl start => ?_⟩
  have apart := List.all_eq_true.mp plain line hl
  rw [List.isPrefixOf_iff_prefix.mpr start] at apart
  cases apart

end GraphScript
