import GraphScript.Proofs.Lines
import GraphScript.Proofs.Remark

namespace GraphScript

open Lowered CSharp

theorem shows_comment {p : Sign → Bool} (about : String) :
    Shows p ("// " ++ Text.flatten about) := by
  have silent (cs : List Char) (h : ∀ c ∈ cs, c ∉ lineBreaks) :
      (⟨.remark, []⟩ : Reader).signs cs = [] := by
    induction cs with
    | nil => rfl
    | cons c cs ih =>
      obtain ⟨inside, others⟩ := List.forall_mem_cons.mp h
      have stays : (⟨.remark, []⟩ : Reader).next c = ⟨.remark, []⟩ := by
        simp [Reader.next, inside]
      rw [Reader.signs, stays, ih others]
      rfl
  have begun : Reader.fresh.after "// ".toList = ⟨.remark, []⟩ := rfl
  rw [Shows, signs, String.toList_append, Reader.signs_append, begun,
    silent _ (Text.not_mem_lineBreaks_of_flatten about)]
  rfl

/-- Code whose lines are of the sorts of lines, and whose blocks only test. -/
def Piece.IsCovered (ctx : Context) (animations : List String) : Piece → Prop
  | line text => Utters ctx animations text
  | openBlock header => ∀ text ∈ header, Shows Sign.isTest text
  | _ => True

def Effect.IsCovered (ctx : Context) (animations : List String) (e : Effect) : Prop :=
  ∀ piece, e.piece? = some piece → piece.IsCovered ctx animations

variable {ctx : Context} {animations : List String}

theorem Piece.IsCovered.texts {piece : Piece} (h : piece.IsCovered ctx animations) :
    ∀ text ∈ piece.texts, Utters ctx animations text := by
  cases piece with
  | line own => exact List.forall_mem_singleton.mpr h
  | comment about => exact List.forall_mem_singleton.mpr (.plain (shows_comment about))
  | openBlock header =>
    refine List.forall_mem_append.mpr ⟨fun text ht => ?_, ?_⟩
    · exact .of_test (h text (Option.mem_toList.mp ht))
    · simp only [List.forall_mem_cons]
      exact ⟨.plain rfl, .plain rfl, by simp⟩
  | _ => exact fun text ht => by cases ht

theorem Effect.OfAction.isCovered {e : Effect} (h : e.OfAction ctx animations) :
    e.IsCovered ctx animations := by
  intro piece hp
  cases e with
  | write own =>
    cases hp
    cases piece with
    | line text => exact h
    | openBlock header =>
      cases header with
      | none => simp [Piece.IsCovered]
      | some text =>
        have test : Shows Sign.isTest text := h
        simpa [Piece.IsCovered] using test
    | _ => trivial
  | _ => cases hp

theorem aside_isCovered {e : Effect} (h : e.piece? = none) :
    (perform e).Within (Effect.IsCovered ctx animations) := by
  refine (within_perform e).mpr fun piece hp => ?_
  cases h.symm.trans hp

theorem written_isCovered {piece : Piece} (h : piece.IsCovered ctx animations) :
    (perform (.write piece)).Within (Effect.IsCovered ctx animations) := by
  refine (within_perform _).mpr fun own hp => ?_
  cases hp
  exact h

theorem fallback_isCovered (entity : String) (reason : Fallback) :
    (fallback entity reason).Within (Effect.IsCovered ctx animations) := by
  refine (aside_isCovered rfl).bind fun _ => ?_
  split
  next => exact written_isCovered trivial
  next => exact within_pure _

theorem block_isCovered {header : Option String} {body : Lowered Unit}
    (hh : ∀ text ∈ header, Shows Sign.isTest text)
    (h : body.Within (Effect.IsCovered ctx animations)) :
    (block header body).Within (Effect.IsCovered ctx animations) := by
  have opens : (Piece.openBlock header).IsCovered ctx animations := hh
  have closes : Piece.close.IsCovered ctx animations := trivial
  exact (written_isCovered opens).bind fun _ => h.bind fun _ => written_isCovered closes

/-- A list that holds the names of all animations that the actions of an entity play. -/
def Entity.IsListedBy (entity : Entity) (animations : List String) : Prop :=
  ∀ params ∈ entity.animationParams,
    (PlayAnimationParams.form.coerce params).2.animationName ≠ "" →
      (PlayAnimationParams.form.coerce params).2.animationName ∈ animations

/-- Such a list there always is. -/
theorem Entity.exists_isListedBy (entity : Entity) : ∃ animations, entity.IsListedBy animations :=
  ⟨entity.animationParams.map fun params => (PlayAnimationParams.form.coerce params).2.animationName,
    fun _ hp _ => List.mem_map_of_mem hp⟩

theorem not_suffix_of_last (kind : Char → Bool) {xs ys : List Char}
    (hx : ∃ c, xs.getLast? = some c ∧ kind c = false)
    (hy : ∃ c, ys.getLast? = some c ∧ kind c = true) : ¬xs <:+ ys := by
  rintro ⟨before, rfl⟩
  obtain ⟨c, last, hc⟩ := hx
  obtain ⟨d, last', hd⟩ := hy
  rw [List.getLast?_append, last] at last'
  cases last'
  cases hc.symm.trans hd

theorem header_isTest {text : String} (h : Sound Sign.isTest text) :
    Shows Sign.isTest ("if (" ++ text ++ ")") :=
  shows_join (.given _) [.part _ h, .given _] rfl

namespace Context

/-- An action alone, without the module that it may run. -/
theorem label_isCovered (named : ctx.Named) {action : Option String} {params : Params}
    (listed : playsAnimation action = true →
      (PlayAnimationParams.form.coerce params).2.animationName ≠ "" →
        (PlayAnimationParams.form.coerce params).2.animationName ∈ animations) :
    (ctx.lowerAction (some fun _ => Pure.pure ()) action params).Within
      (Effect.IsCovered ctx animations) := by
  unfold lowerAction
  cases action with
  | none => exact within_pure _
  | some name =>
    refine .ite (within_pure _) ?_
    cases hk : ActionKind.ofName? name with
    | none => exact fallback_isCovered _ _
    | some kind =>
      have performed : (ctx.lowerActionKind (some fun _ => Pure.pure ()) params kind).Within
          (Effect.OfAction ctx animations) :=
        lowerActionKind_ofAction named params kind fun plays =>
          listed (by simp [playsAnimation, hk, plays])
      exact (aside_isCovered rfl).bind fun _ => performed.mono fun _ he => he.isCovered

theorem lowerConditionNode_isCovered (node : Node) :
    (ctx.lowerConditionNode node).Within (Effect.IsCovered ctx animations) := by
  refine (lowerConditionNode_isSilent node).mono fun e he piece hp => ?_
  simp [Effect.isSilent, hp] at he

section Walks

variable (named : ctx.Named) (keys : ∀ key ∈ ctx.entity.inputKeys, Qualified (Key.member key))
  (listed : ctx.entity.IsListedBy animations)
include named keys listed

/-- The code of a walk that starts at a node of the entity. -/
theorem Plans.isCovered {path : Path} {module : Module} {start : Option Node} {walk : Walk}
    (h : ctx.Plans path module start walk) (hm : module ∈ ctx.entity.modules)
    (hs : ∀ node, start = some node → node ∈ module.nodes) :
    (ctx.lowerWalk walk).Within (Effect.IsCovered ctx animations) := by
  have follow {module : Module} {node : Node} {ports : Ports} :
      ∀ next, module.successor? node ports = some next → next ∈ module.nodes :=
    fun _ hn => Module.successor?_mem hn
  have label {module : Module} {node : Node} (hm : module ∈ ctx.entity.modules)
      (hn : node ∈ module.nodes) (role : node.role = .action) :
      (ctx.lowerAction (some fun _ => Pure.pure ()) node.action node.params).Within
        (Effect.IsCovered ctx animations) := by
    refine label_isCovered named fun plays => listed node.params ?_
    refine List.mem_append_right _ (List.mem_flatMap.mpr ⟨module, hm, List.mem_map.mpr
      ⟨node, List.mem_filter.mpr ⟨hn, ?_⟩, rfl⟩⟩)
    simp [role, plays]
  induction h with
  | done => exact within_pure _
  | cut => exact fallback_isCovered _ _
  | stop => exact aside_isCovered rfl
  | @pass path module node rest _ role _ ih =>
    refine (aside_isCovered rfl).bind fun _ => ?_
    split
    next => exact (aside_isCovered rfl).bind fun _ => ih hm follow
    next => exact ih hm follow
  | @branch path module node yes no _ role _ _ ihy ihn =>
    have other : Shows Sign.isTest "else" := rfl
    refine (aside_isCovered rfl).bind fun _ => ?_
    refine (within_bind _ _).mpr ⟨lowerConditionNode_isCovered node, fun text ht => ?_⟩
    have asked := testKeys_of_node hm (hs node rfl) role
    have test := header_isTest
      ((lowerConditionNode_form named ht).sound fun key hk => keys key (asked hk))
    refine (block_isCovered (by simpa using test) (ihy hm follow)).bind fun _ => ?_
    exact block_isCovered (by simpa using other) (ihn hm follow)
  | @act path module node rest _ role hc _ ih =>
    refine (aside_isCovered rfl).bind fun _ => ?_
    rw [lowerAction_plain hc _ fun _ => Pure.pure ()]
    exact (label hm (hs node rfl) role).bind fun _ => ih hm follow
  | @refuse path module node _ _ rest _ role hc _ _ ih =>
    refine (aside_isCovered rfl).bind fun _ => ?_
    rw [lowerAction_calls hc, bind_assoc]
    refine (label hm (hs node rfl) role).bind fun _ => ?_
    exact (fallback_isCovered _ _).bind fun _ => ih hm follow
  | @call path module node _ called entry inlined rest _ role hc starts _ _ ihi ih =>
    obtain ⟨found, -, he⟩ := moduleStart_eq_ok_iff.mp starts
    have inner := ihi (List.mem_of_find?_eq_some found) fun n hn => by
      cases hn
      exact Module.entryNode?_mem he
    refine (aside_isCovered rfl).bind fun _ => ?_
    rw [lowerAction_calls hc, bind_assoc]
    exact (label hm (hs node rfl) role).bind fun _ => inner.bind fun _ => ih hm follow

theorem traverse_isCovered {module : Module} {start : Option Node} (budget : Nat)
    (hm : module ∈ ctx.entity.modules) (hs : ∀ node, start = some node → node ∈ module.nodes) :
    (ctx.traverse budget [] module start).Within (Effect.IsCovered ctx animations) := by
  have plans : ctx.Plans [] module start (ctx.plan budget [] module start) := planFrom_plans rfl
  exact plans.isCovered named keys listed hm hs

theorem runModule_isCovered (budget : Nat) (id : String) :
    (ctx.runModule budget id).Within (Effect.IsCovered ctx animations) := by
  unfold runModule planModule
  split
  next => exact fallback_isCovered _ _
  next module entry starts =>
    obtain ⟨found, -, he⟩ := moduleStart_eq_ok_iff.mp starts
    refine traverse_isCovered named keys listed budget (List.mem_of_find?_eq_some found)
      fun node hn => ?_
    cases hn
    exact Module.entryNode?_mem he

theorem lowerStart_isCovered (budget : Nat) :
    (ctx.lowerStart budget).Within (Effect.IsCovered ctx animations) := by
  unfold lowerStart
  split
  next => exact within_pure _
  next module found =>
    refine Within.bind (written_isCovered trivial) fun _ => ?_
    exact traverse_isCovered named keys listed budget (List.mem_of_find?_eq_some found)
      fun _ he => Module.entryNode?_mem he

/-- The code of an event's action, with that of the module that it runs. -/
theorem eventAction_isCovered (budget : Nat) {event : Event} (he : event ∈ ctx.entity.events) :
    (ctx.lowerAction (some (ctx.runModule budget)) event.action event.params).Within
      (Effect.IsCovered ctx animations) := by
  have label : (ctx.lowerAction (some fun _ => Pure.pure ()) event.action event.params).Within
      (Effect.IsCovered ctx animations) := by
    refine label_isCovered named fun plays => listed event.params ?_
    exact List.mem_append_left _ (List.mem_map.mpr ⟨event, List.mem_filter.mpr ⟨he, plays⟩, rfl⟩)
  cases hc : event.asNode.calledModule? with
  | none =>
    have plain : ctx.lowerAction (some (ctx.runModule budget)) event.action event.params =
        ctx.lowerAction (some fun _ => Pure.pure ()) event.action event.params :=
      lowerAction_plain hc _ _
    rw [plain]
    exact label
  | some id =>
    have calls : ctx.lowerAction (some (ctx.runModule budget)) event.action event.params =
        ctx.lowerAction (some fun _ => Pure.pure ()) event.action event.params >>= fun _ =>
          ctx.runModule budget id := lowerAction_calls hc _
    rw [calls]
    exact label.bind fun _ => runModule_isCovered named keys listed budget id

end Walks

end Context

/-- Covered code, as it stands in a passage. -/
def Passage.IsCovered (ctx : Context) (animations : List String) (p : Passage) : Prop :=
  ∀ piece ∈ p.pieces, piece.IsCovered ctx animations

theorem Lowered.Within.isCovered {α : Type} {x : Lowered α}
    (h : x.Within (Effect.IsCovered ctx animations)) {p : Passage} (hp : x.pieces = p.pieces) :
    p.IsCovered ctx animations := by
  intro piece hm
  obtain ⟨e, he, written⟩ := List.mem_filterMap.mp (hp ▸ hm)
  exact h e he piece written

theorem Passage.IsCovered.texts {p : Passage} (h : p.IsCovered ctx animations) :
    ∀ text ∈ p.texts, Utters ctx animations text := by
  intro text ht
  obtain ⟨piece, hm, own⟩ := Passage.mem_texts.mp ht
  exact (h piece hm).texts text own

namespace Context

/-- The guards of an event only test, but for a gate that is a static call. -/
theorem Guards.cases (named : ctx.Named)
    (keys : ∀ key ∈ ctx.entity.inputKeys, Qualified (Key.member key)) {index : Nat} {event : Event}
    (he : event ∈ ctx.entity.events) {tests : List String} (h : ctx.Guards index event tests) :
    ∀ test ∈ tests, Sound Sign.isTest test ∨ ctx.config.serviceMode = .static ∧
      ∃ key seconds, test = (ServiceCall.cooldown (quote key) (floatLiteral seconds)).render .static := by
  obtain ⟨parts, hp, rfl⟩ := h
  refine List.forall_mem_append.mpr ⟨?_, ?_⟩
  · split
    next => simp
    next =>
      refine List.forall_mem_singleton.mpr (.inl (combine_sound _ fun part hm => ?_))
      obtain ⟨c, hc, own⟩ := exists_of_forall₂ hp part hm
      exact (lowerNamedCondition_form named own).sound fun key hk =>
        keys key (inputKeys_of_condition he hc hk)
  · unfold cooldownTests
    split
    next seconds _ =>
      split
      next =>
        refine List.forall_mem_singleton.mpr ?_
        cases mode : ctx.config.serviceMode with
        | static => exact .inr ⟨rfl, _, _, rfl⟩
        | context =>
          exact .inl (sound_join (.given _) [.given _, .given _, .given _, .part _ (sound_quote _),
            .given _, .part _ (sound_floatLiteral _), .given _] rfl)
      next => simp
    next => simp

theorem Guards.utters (named : ctx.Named)
    (keys : ∀ key ∈ ctx.entity.inputKeys, Qualified (Key.member key)) {index : Nat} {event : Event}
    (he : event ∈ ctx.entity.events) {tests : List String} (h : ctx.Guards index event tests) :
    ∀ test ∈ tests, Utters ctx animations ("if (" ++ test ++ ")") := by
  intro test ht
  rcases h.cases named keys he test ht with sound | ⟨static, key, seconds, rfl⟩
  · exact .of_test (header_isTest sound)
  · exact .gate _ static (by simp [ServiceCall.arguments, sound_quote, sound_floatLiteral])

end Context

namespace RoutineCode

theorem name_plain (r : RoutineCode) : ∀ c ∈ r.name.toList, c ∉ unkept := by
  have start : ((r.hook.method ++ "Routine").toList.all fun c => !unkept.contains c) = true := by
    cases r.hook <;> decide
  have digit : (unkept.all fun c => !c.isDigit) = true := by decide
  have digits : (toString r.number).toList = Nat.toDigits 10 r.number := by
    rw [Nat.toString_eq_ofList_toDigits, String.toList_ofList]
  rw [name_eq, String.toList_append, digits]
  refine List.forall_mem_append.mpr ⟨fun c hc => ?_, fun c hc hs => ?_⟩
  · simpa using List.all_eq_true.mp start c hc
  · simpa [Decimal.allDigits_toDigits r.number c hc] using List.all_eq_true.mp digit c hs

theorem inert_name (r : RoutineCode) : Inert r.name := by
  have known : (active.all fun c => unkept.contains c) = true := by decide
  refine inert_iff.mpr fun c hc ha => r.name_plain c hc ?_
  exact List.contains_iff_mem.mp (List.all_eq_true.mp known c ha)

/-- No service and no animation is called like a routine: their names do not end in a digit. -/
theorem isPlain_name (r : RoutineCode) (before : List Char) :
    (Sign.call (before ++ r.name.toList)).isPlain = true := by
  have letters : (("_animator.Play".toList :: Service.all.map Service.method).all fun method =>
      method.getLast?.any fun c => !c.isDigit) = true := by decide
  obtain ⟨d, ending, digit⟩ := r.ending_name
  refine Bool.not_eq_true' _ |>.mpr (List.any_eq_false.mpr fun method hm called => ?_)
  obtain ⟨c, last, letter⟩ := Option.any_eq_true _ _ |>.mp (List.all_eq_true.mp letters method hm)
  refine not_suffix_of_last Char.isDigit ⟨c, last, by simpa using letter⟩ ⟨d, ?_, digit⟩
    (List.isSuffixOf_iff_suffix.mp called)
  rw [List.getLast?_append, ending]
  rfl

/-- What is noticed where a routine is called or declared, behind what may stand before its name. -/
theorem signs_name (r : RoutineCode) (before : List Char) :
    (⟨.code, before⟩ : Reader).signs (r.name ++ "(").toList =
        [.call (before.reverse ++ r.name.toList)] ∧
      (⟨.code, before⟩ : Reader).after (r.name ++ "(").toList = .fresh := by
  have silent := (Reader.signs_of_inert (inert_iff.mp r.inert_name) (r := ⟨.code, before⟩) rfl).1
  have named := Reader.after_name r.name_plain before
  have given : ¬(r.name.toList.reverse ++ before).isEmpty = true := by
    obtain ⟨c, last, -⟩ := r.ending_name
    intro none
    simp only [List.isEmpty_iff, List.append_eq_nil_iff, List.reverse_eq_nil_iff] at none
    rw [none.1] at last
    cases last
  have called : (⟨.code, r.name.toList.reverse ++ before⟩ : Reader).seen '(' =
      [.call (before.reverse ++ r.name.toList)] := by
    simp [Reader.seen, given]
  rw [String.toList_append, Reader.signs_append, Reader.after_append, silent, named]
  refine ⟨?_, rfl⟩
  change (⟨.code, r.name.toList.reverse ++ before⟩ : Reader).seen '(' ++ [] = _
  rw [called]
  rfl

theorem shows_signature (r : RoutineCode) : Shows Sign.isPlain r.method.signature := by
  have whole : r.method.signature.toList =
      "IEnumerator ".toList ++ ((r.name ++ "(").toList ++ ")".toList) := by
    simp [method]
  have declared : Reader.fresh.after "IEnumerator ".toList = ⟨.code, "rotaremunEI".toList⟩ := rfl
  have silent : Reader.fresh.signs "IEnumerator ".toList = [] := rfl
  obtain ⟨noticed, fresh⟩ := r.signs_name "rotaremunEI".toList
  rw [Shows, signs, whole, Reader.signs_append, silent, declared, Reader.signs_append, noticed, fresh,
    List.nil_append, List.all_append, List.all_cons, r.isPlain_name]
  rfl

theorem inert_flag (r : RoutineCode) : Inert r.flag := by
  have start : Inert r.hook.flagStart := by cases r.hook <;> decide
  have stop : Inert "Running" := by decide
  rw [flag_eq, Inert, String.toList_append, String.toList_append, List.all_append, List.all_append,
    start, (numeric_nat r.number).inert, stop]
  rfl

theorem shows_call (r : RoutineCode) : Shows Sign.isPlain r.call := by
  have number := (numeric_nat r.number).inert
  have opens : Opens Sign.isPlain ("if (!" ++ r.hook.flagStart ++ toString r.number ++ "Running" ++
      ") StartCoroutine(") := by
    cases r.hook <;> exact opens_join (.given _) [.given _, .word _ number, .given _, .given _] rfl
  obtain ⟨noticed, fresh⟩ := r.signs_name []
  change Reader.fresh.signs _ = _ at noticed
  change Reader.fresh.after _ = _ at fresh
  have whole : r.call.toList = ("if (!" ++ r.hook.flagStart ++ toString r.number ++ "Running" ++
      ") StartCoroutine(").toList ++ ((r.name ++ "(").toList ++ "));".toList) := by
    simp [call, flag_eq]
  rw [Shows, signs, whole, Reader.signs_append, opens.fresh, Reader.signs_append, noticed, fresh,
    List.all_append, opens.signs, List.all_append, List.all_cons, r.isPlain_name]
  rfl

end RoutineCode

namespace Context.Assembly

theorem routineTexts_plain (s : ctx.Assembly) :
    ∀ text ∈ s.routineTexts, Shows Sign.isPlain text := by
  intro text ht
  obtain ⟨r, -, own⟩ := List.mem_flatMap.mp ht
  have flag := r.inert_flag
  simp only [List.mem_cons, List.not_mem_nil, or_false] at own
  rcases own with rfl | rfl | rfl
  · exact r.shows_call
  · exact shows_join (.word _ flag) [.given _] rfl
  · exact shows_join (.word _ flag) [.given _] rfl

/-- The lines of the methods of a class. -/
theorem bodies_utter (named : ctx.Named)
    (keys : ∀ key ∈ ctx.entity.inputKeys, Qualified (Key.member key))
    (listed : ctx.entity.IsListedBy animations) (s : ctx.Assembly) :
    ∀ m ∈ s.code.methods, ∀ text ∈ m.body.texts, Utters ctx animations text := by
  have given {text : String} (h : Shows Sign.isPlain text) : Utters ctx animations text := .plain h
  refine s.forall_bodies ?_ ?_ ?_ ?_ ?_ ?_ ?_ ?_
  · simp only [List.forall_mem_cons]
    exact ⟨given rfl, given rfl, by simp⟩
  · exact fun o ho guards guarded => guarded.utters named keys (event_mem_of_occasion ho)
  · intro o ho body performs
    have covered := eventAction_isCovered named keys listed o.budget (event_mem_of_occasion ho)
    exact (covered.isCovered performs.wrote.pieces).texts
  · rw [awakeMethod, Passage.texts_ofLines]
    simp only [List.forall_mem_cons]
    exact ⟨given rfl, given rfl, by simp⟩
  · intro m hm text ht
    cases eq_of_mem_initializeMethods hm
    cases List.mem_singleton.mp ht
    exact given rfl
  · intro m hm text ht
    obtain ⟨amount, ha, rfl⟩ := exists_of_mem_damageMethods hm
    cases List.mem_singleton.mp ht
    have number : Sound Sign.isPlain amount := by
      simp only [List.mem_cons, List.not_mem_nil, or_false] at ha
      rcases ha with rfl | rfl
      · exact sound_given rfl
      · exact sound_given rfl
    exact given (shows_join (.word _ named.health.inert) [.given _, .part _ number, .given _] rfl)
  · exact ((lowerStart_isCovered named keys listed _).isCovered s.starts.pieces).texts
  · exact fun text ht => .plain (s.routineTexts_plain text ht)

end Context.Assembly

end GraphScript
