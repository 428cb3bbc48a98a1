import GraphScript.Proofs.Build
import GraphScript.Proofs.Placement

namespace GraphScript

open Lowered CSharp

/-- The lines that a piece leads to. -/
def Piece.texts : Piece → List String
  | line text => [text]
  | comment text => [Passage.commentText text]
  | openBlock header => header.toList ++ ["\x7b", "\x7d"]
  | _ => []

namespace Passage

def texts (p : Passage) : List String :=
  p.lines.map Line.text

theorem texts_seq (first second : Passage) : (seq first second).texts = first.texts ++ second.texts :=
  List.map_append

theorem texts_block (header : Option String) (body : Passage) :
    (block header body).texts = header.toList ++ "\x7b" :: (body.texts ++ ["\x7d"]) := by
  have inner : (body.lines.map (Line.shift 1)).map Line.text = body.texts := by
    rw [List.map_map]
    rfl
  have above : (header.toList.map (Line.mk 0)).map Line.text = header.toList := by
    rw [List.map_map]
    exact List.map_id _
  rw [texts, lines, List.map_append, List.map_cons, List.map_append, inner, above]
  rfl

theorem mem_texts {p : Passage} {text : String} :
    text ∈ p.texts ↔ ∃ piece ∈ p.pieces, text ∈ piece.texts := by
  induction p with
  | seq first second ih ih' =>
    rw [texts_seq, List.mem_append, ih, ih']
    simp only [pieces, List.mem_append, or_and_right, exists_or]
  | block header body ih =>
    have opened : text ∈ (Piece.openBlock header).texts ↔
        text ∈ header.toList ∨ text = "\x7b" ∨ text = "\x7d" := by simp [Piece.texts]
    have closed : text ∉ Piece.close.texts := List.not_mem_nil
    rw [texts_block]
    simp only [List.mem_append, List.mem_cons, ih, pieces, or_and_right, exists_or, exists_eq_left,
      opened, closed, List.not_mem_nil, or_false]
    grind
  | _ => simp [texts, lines, pieces, Piece.texts]

theorem texts_concat (passages : List Passage) :
    (concat passages).texts = passages.flatMap texts := by
  induction passages with
  | nil => rfl
  | cons first rest ih => rw [concat, texts_seq, ih, List.flatMap_cons]

theorem texts_ite {chosen : Prop} [Decidable chosen] (p : Passage) :
    (if chosen then p else empty).texts = if chosen then p.texts else [] := by
  split
  next => rfl
  next => rfl

theorem texts_ofLines (texts : List String) : (ofLines texts).texts = texts := by
  rw [ofLines, texts_concat, List.flatMap_map]
  exact List.flatMap_singleton' texts

end Passage

theorem Method.passage_texts (m : Method) :
    m.passage.texts = "" :: m.signature :: "\x7b" :: (m.body.texts ++ ["\x7d"]) := by
  rw [passage, Passage.texts_seq, Passage.texts_block]
  rfl

theorem ClassCode.passage_texts (code : ClassCode) :
    code.passage.texts = code.header.texts ++ ([code.signature, "\x7b"] ++
      ((code.fields.texts ++ ((code.methods.flatMap fun m => m.passage.texts) ++
        code.remarks.texts)) ++ ["\x7d"])) := by
  rw [passage, Passage.texts_seq, Passage.texts_block, Passage.texts_seq, Passage.texts_seq,
    Passage.texts_concat, List.flatMap_map]
  rfl

theorem RoutineCode.begins_flag (r : RoutineCode) (rest : String) : Begins ["_"] (r.flag ++ rest) := by
  have start : Begins ["_"] r.hook.flagStart := by cases r.hook <;> decide
  rw [flag_eq]
  exact ((start.append _).append _).append rest

theorem RoutineCode.name_eq (r : RoutineCode) :
    r.name = r.hook.method ++ "Routine" ++ toString r.number := rfl

theorem RoutineCode.ending_name (r : RoutineCode) :
    ∃ c, r.name.toList.getLast? = some c ∧ c.isDigit = true := by
  have digits : (toString r.number).toList = Nat.toDigits 10 r.number := by
    rw [Nat.toString_eq_ofList_toDigits, String.toList_ofList]
  obtain ⟨c, last⟩ : ∃ c, (Nat.toDigits 10 r.number).getLast? = some c :=
    ⟨_, List.getLast?_eq_some_getLast Nat.toDigits_ne_nil⟩
  refine ⟨c, ?_, Decimal.allDigits_toDigits r.number c (List.mem_of_getLast? last)⟩
  rw [name_eq, String.toList_append, digits, List.getLast?_append, last]
  rfl

/-- What a line of a method can be, if the variables with the given names are assigned to. -/
inductive Saying (ctx : Context) (names : List String) (text : String) : Prop
  | phrase : Phrase ctx names text → Saying ctx names text
  | call (c : ServiceCall) : text = c.render ctx.config.serviceMode ++ ";" → Saying ctx names text
  | heading : Heading text → Saying ctx names text
  | gate (c : ServiceCall) : text = "if (" ++ c.render ctx.config.serviceMode ++ ")" →
      Saying ctx names text
  | remark (about : String) : text = Passage.commentText about → Saying ctx names text
  | brace : text ∈ ["\x7b", "\x7d"] → Saying ctx names text

abbrev Passage.Tells (ctx : Context) (names : List String) (p : Passage) : Prop :=
  ∀ text ∈ p.texts, Saying ctx names text

variable {ctx : Context} {names : List String}

theorem Lowered.Built.tells {α : Type} {x : Lowered α} {used : Bool} (h : x.Built ctx names used)
    {p : Passage} (hp : x.pieces = p.pieces) : p.Tells ctx names := by
  intro text ht
  obtain ⟨piece, hm, own⟩ := Passage.mem_texts.mp ht
  have said := h.said piece (hp ▸ hm)
  cases piece with
  | line text =>
    cases List.mem_singleton.mp own
    rcases said with phrase | ⟨c, rfl⟩
    · exact .phrase phrase
    · exact .call c rfl
  | comment text =>
    cases List.mem_singleton.mp own
    exact .remark _ rfl
  | openBlock header =>
    rcases List.mem_append.mp own with above | brace
    · cases header with
      | none => cases above
      | some text =>
        cases List.mem_singleton.mp above
        exact .heading said
    · exact .brace brace
  | _ => cases own

namespace Passage

/-- What stands inside tests is the tests, braces and the body. -/
theorem forall_texts_guarded {guards : List String} {body : Passage} {P : String → Prop}
    (hg : ∀ guard ∈ guards, P ("if (" ++ guard ++ ")")) (opened : P "\x7b") (closed : P "\x7d")
    (hb : ∀ text ∈ body.texts, P text) : ∀ text ∈ (guarded guards body).texts, P text := by
  induction guards with
  | nil => exact hb
  | cons guard guards ih =>
    obtain ⟨first, others⟩ := List.forall_mem_cons.mp hg
    have inner : ∀ text ∈ (guarded guards body).texts ++ ["\x7d"], P text :=
      List.forall_mem_append.mpr ⟨ih others, List.forall_mem_singleton.mpr closed⟩
    change ∀ text ∈ (block (some ("if (" ++ guard ++ ")")) (guarded guards body)).texts, P text
    rw [texts_block]
    exact List.forall_mem_cons.mpr ⟨first, List.forall_mem_cons.mpr ⟨opened, inner⟩⟩

end Passage

namespace Context

/-- The test of a cooldown is a call. -/
theorem cooldownTests_cases (ctx : Context) (index : Nat) (event : Event) :
    ctx.cooldownTests index event = [] ∨ ∃ key seconds, ctx.cooldownTests index event =
      [(ServiceCall.cooldown key seconds).render ctx.config.serviceMode] := by
  unfold cooldownTests
  split
  next seconds _ =>
    split
    next => exact .inr ⟨_, _, rfl⟩
    next => exact .inl rfl
  next => exact .inl rfl

/-- The tests around an event. -/
theorem Guards.tells (named : ctx.Named) {index : Nat} {event : Event} {tests : List String}
    (h : ctx.Guards index event tests) :
    ∀ test ∈ tests, Saying ctx names ("if (" ++ test ++ ")") := by
  obtain ⟨parts, hp, rfl⟩ := h
  refine List.forall_mem_append.mpr ⟨?_, ?_⟩
  · split
    next => simp
    next =>
      refine List.forall_mem_singleton.mpr (.heading (.tests ?_ rfl))
      refine combine_tests _ fun part hm => ?_
      obtain ⟨c, -, own⟩ := exists_of_forall₂ hp part hm
      exact (lowerNamedCondition_form named own).tests
  · rcases ctx.cooldownTests_cases index event with none | ⟨key, seconds, some⟩
    · simp [none]
    · rw [some]
      exact List.forall_mem_singleton.mpr (.gate _ rfl)

theorem Performs.tells (named : ctx.Named) {o : Occasion} (ho : o ∈ ctx.occasions) {body : Passage}
    (h : ctx.Performs o body) : body.Tells ctx ctx.entity.assigned := by
  obtain ⟨_, -, built⟩ := eventAction_built named o.budget (event_mem_of_occasion ho)
  exact built.tells h.wrote.pieces

theorem header_texts (ctx : Context) (facts : Facts) :
    ∃ about, (ctx.header facts).texts =
      ["// <auto-generated>", "// " ++ Text.flatten about, "// </auto-generated>"] ++
        (baseNamespaces ++ extraNamespaces ctx.config facts).map
          (fun name => "using " ++ name ++ ";") ++ [""] := by
  simp only [header, Passage.texts_concat, List.flatMap_cons, List.flatMap_nil,
    Passage.texts_ofLines]
  exact ⟨_, rfl⟩

/-- The fields of a class: those that all classes have, the variables, and the flags of routines. -/
theorem fields_texts (ctx : Context) (facts : Facts) (declared : Passage) (flags : List String) :
    (ctx.fields facts declared flags).texts =
      ["private Transform _transform;", "private Animator _animator;"] ++
        ((if ctx.config.usesContext then
          ["private " ++ ctx.config.contextType ++ " " ++ ServiceCall.contextField ++ ";"] else []) ++
        ((if !ctx.entity.vars.isEmpty || ctx.needsHealthField facts then [""] else []) ++
        (declared.texts ++
        ((if ctx.needsHealthField facts then [healthLine ctx.config] else []) ++
        if flags.isEmpty then [] else "" :: flags.map fun flag => "private bool " ++ flag ++ ";")))) := by
  have marks : (if flags.isEmpty then Passage.empty else .ofLines ("" :: flags.map fun flag =>
      "private bool " ++ flag ++ ";")).texts =
        if flags.isEmpty then [] else "" :: flags.map fun flag => "private bool " ++ flag ++ ";" := by
    split
    next => rfl
    next => exact Passage.texts_ofLines _
  simp only [fields, Passage.texts_concat, List.flatMap_cons, List.flatMap_nil, List.append_nil,
    Passage.texts_ite, marks]
  rfl

/-- The remarks on what is not generated are comments. -/
theorem mem_remarks {unhandled : List (String × Nat)} {text : String}
    (h : text ∈ (remarks unhandled).texts) :
    text = "" ∨ ∃ about, text = Passage.commentText about := by
  unfold remarks at h
  split at h
  next => cases h
  next =>
    rw [Passage.texts_seq, Passage.texts_concat, List.flatMap_map] at h
    rcases List.mem_append.mp h with blank | remark
    · exact .inl (List.mem_singleton.mp blank)
    · obtain ⟨entry, -, own⟩ := List.mem_flatMap.mp remark
      exact .inr ⟨_, List.mem_singleton.mp own⟩

theorem awake_phrase : ∀ text ∈ awakeMethod.body.texts, Phrase ctx names text := by
  rw [awakeMethod, Passage.texts_ofLines]
  have known : ∀ text ∈ ["_transform = transform;", "_animator = GetComponent<Animator>();"],
      Begins openings text := by decide
  exact fun text ht => .opened (known text ht)

theorem initialize_phrase : ∀ m ∈ initializeMethods ctx.config, ∀ text ∈ m.body.texts,
    Phrase ctx names text := by
  intro m hm text ht
  cases eq_of_mem_initializeMethods hm
  cases List.mem_singleton.mp ht
  exact .opened (by decide)

theorem damage_phrase (named : ctx.Named) {facts : Facts} : ∀ m ∈ ctx.damageMethods facts,
    ∀ text ∈ m.body.texts, Phrase ctx names text := by
  intro m hm text ht
  obtain ⟨amount, -, rfl⟩ := exists_of_mem_damageMethods hm
  cases List.mem_singleton.mp ht
  exact changed_phrase named.health (c := '-') (by decide) (by decide) [_, _]

namespace Assembly

theorem start_tells (named : ctx.Named) (s : ctx.Assembly) :
    s.start.Tells ctx ctx.entity.assigned := by
  obtain ⟨_, -, built⟩ := lowerStart_built named ctx.config.maxEmittedNodes
  exact built.tells s.starts.pieces

/-- The lines that start a routine or mark whether it runs. -/
def routineTexts (s : ctx.Assembly) : List String :=
  s.routines.flatMap fun r => [r.call, r.flag ++ " = true;", r.flag ++ " = false;"]

theorem mem_routineTexts (s : ctx.Assembly) {r : RoutineCode} (hr : r ∈ s.routines) :
    r.call ∈ s.routineTexts ∧ r.flag ++ " = true;" ∈ s.routineTexts ∧
      r.flag ++ " = false;" ∈ s.routineTexts := by
  have own {text : String} (h : text ∈ [r.call, r.flag ++ " = true;", r.flag ++ " = false;"]) :
      text ∈ s.routineTexts := List.mem_flatMap.mpr ⟨r, hr, h⟩
  exact ⟨own (by simp), own (by simp), own (by simp)⟩

section

variable {P : String → Prop} (braces : ∀ brace ∈ ["\x7b", "\x7d"], P brace)
  (tests : ∀ o ∈ ctx.occasions, ∀ guards, ctx.Guards o.index o.event guards →
    ∀ guard ∈ guards, P ("if (" ++ guard ++ ")"))
  (performed : ∀ o ∈ ctx.occasions, ∀ body, ctx.Performs o body → ∀ text ∈ body.texts, P text)
include braces tests performed

/-- The lines that an event contributes to a method. -/
theorem forall_contributed (s : ctx.Assembly) (routines : ∀ text ∈ s.routineTexts, P text)
    {c : Contribution} (hc : c ∈ s.contributions) (trigger : Trigger) :
    ∀ text ∈ (c.passage trigger).texts, P text := by
  obtain ⟨o, ho, contributes⟩ := exists_of_forall₂ s.contributes c hc
  have inside {guards : List String} {body : Passage} (guarded : ctx.Guards o.index o.event guards)
      (hb : ∀ text ∈ body.texts, P text) (chosen : Prop) [Decidable chosen] :
      ∀ text ∈ (if chosen then Passage.guarded guards body else .empty).texts, P text := by
    split
    next =>
      exact Passage.forall_texts_guarded (tests o ho guards guarded) (braces _ (by simp))
        (braces _ (by simp)) hb
    next => exact fun text ht => by cases ht
  cases contributes with
  | unhandled => exact fun text ht => by cases ht
  | nothing => exact fun text ht => by cases ht
  | inline _ _ guarded performs _ => exact inside guarded (performed o ho _ performs) _
  | @routine _ r _ _ guarded _ _ =>
    have mine : r ∈ s.routines := List.mem_filterMap.mpr ⟨_, hc, rfl⟩
    refine inside guarded (fun text ht => ?_) _
    cases List.mem_singleton.mp ht
    exact routines _ (s.mem_routineTexts mine).1

/-- All lines of the methods of a class, sort by sort. -/
theorem forall_bodies (s : ctx.Assembly)
    (awake : ∀ text ∈ awakeMethod.body.texts, P text)
    (context : ∀ m ∈ initializeMethods ctx.config, ∀ text ∈ m.body.texts, P text)
    (damage : ∀ m ∈ ctx.damageMethods (Facts.none.after ctx.bodies.effects),
      ∀ text ∈ m.body.texts, P text)
    (start : ∀ text ∈ s.start.texts, P text) (routines : ∀ text ∈ s.routineTexts, P text) :
    ∀ m ∈ s.code.methods, ∀ text ∈ m.body.texts, P text := by
  have contributed (trigger : Trigger) :
      ∀ text ∈ (Passage.concat (s.contributions.map (Contribution.passage trigger))).texts,
        P text := by
    intro text ht
    rw [Passage.texts_concat, List.flatMap_map] at ht
    obtain ⟨c, hc, ht⟩ := List.mem_flatMap.mp ht
    exact s.forall_contributed braces tests performed routines hc trigger text ht
  refine s.forall_methods awake context ?_ (fun hook => contributed (.hook hook)) damage ?_
  · intro text ht
    change text ∈ (Passage.seq s.start _).texts at ht
    rw [Passage.texts_seq] at ht
    rcases List.mem_append.mp ht with ht | ht
    · exact start text ht
    · exact contributed .start text ht
  · intro r hr text ht
    obtain ⟨o, ho, performs, -⟩ := s.routine_performs r hr
    have ⟨_, raised, lowered⟩ := s.mem_routineTexts hr
    change text ∈ (Passage.seq (.line (r.flag ++ " = true;")) (.seq r.body (.line _))).texts at ht
    rw [Passage.texts_seq, Passage.texts_seq] at ht
    rcases List.mem_append.mp ht with ht | ht
    · cases List.mem_singleton.mp ht
      exact routines _ raised
    · rcases List.mem_append.mp ht with ht | ht
      · exact performed o ho _ performs text ht
      · cases List.mem_singleton.mp ht
        exact routines _ lowered

end

theorem methods_tell (named : ctx.Named) (s : ctx.Assembly) :
    ∀ m ∈ s.code.methods, ∀ text ∈ m.body.texts,
      Saying ctx ctx.entity.assigned text ∨ text ∈ s.routineTexts := by
  refine s.forall_bodies ?_ ?_ ?_ ?_ ?_ ?_ ?_ fun _ => .inr
  · exact fun brace hb => .inl (.brace hb)
  · exact fun o _ guards guarded guard hg => .inl (guarded.tells named guard hg)
  · exact fun o ho body performs text ht => .inl (performs.tells named ho text ht)
  · exact fun text ht => .inl (.phrase (awake_phrase text ht))
  · exact fun m hm text ht => .inl (.phrase (initialize_phrase m hm text ht))
  · exact fun m hm text ht => .inl (.phrase (damage_phrase named m hm text ht))
  · exact fun text ht => .inl (s.start_tells named text ht)

end Assembly

end Context

end GraphScript
