import GraphScript.Proofs.Exclusion
import GraphScript.Proofs.Lines
import Std.Data.String.ToNat

namespace GraphScript

open CSharp Execution

/-- Texts with a hook and a number in them, told apart by the number. -/
theorem number_inj (start : Hook → String) {stop : String}
    (apart : diverges (start .update).toList (start .collision).toList = true)
    (apart' : diverges (start .collision).toList (start .update).toList = true)
    {hook hook' : Hook} {n n' : Nat}
    (h : start hook ++ (toString n ++ stop) = start hook' ++ (toString n' ++ stop)) : n = n' := by
  have other {first second : Hook} (differ : diverges (start first).toList (start second).toList = true)
      {more rest : String} (same : start first ++ more = start second ++ rest) : False := by
    refine not_prefix_of_diverges (diverges_of_start differ ?_)
      (List.prefix_append (start first).toList more.toList)
    rw [← String.toList_append, same, String.toList_append]
    exact List.prefix_append _ _
  have numbers {hook : Hook}
      (h : start hook ++ (toString n ++ stop) = start hook ++ (toString n' ++ stop)) : n = n' := by
    refine Nat.repr_inj.mp (String.toList_inj.mp ?_)
    have lists := congrArg String.toList h
    simp only [String.toList_append] at lists
    exact List.append_cancel_right (List.append_cancel_left lists)
  cases hook with
  | update =>
    cases hook' with
    | update => exact numbers h
    | collision => exact (other apart h).elim
  | collision =>
    cases hook' with
    | update => exact (other apart' h).elim
    | collision => exact numbers h

namespace RoutineCode

theorem number_of_flag {r r' : RoutineCode} (h : r.flag = r'.flag) : r.number = r'.number := by
  rw [flag_eq, flag_eq, String.append_assoc, String.append_assoc] at h
  exact number_inj Hook.flagStart (by decide) (by decide) h

theorem number_of_signature {r r' : RoutineCode} (h : r.method.signature = r'.method.signature) :
    r.number = r'.number := by
  have split (r : RoutineCode) : r.method.signature =
      "IEnumerator " ++ (r.hook.method ++ "Routine") ++ (toString r.number ++ "()") := by
    simp only [method, name, routine, Routine.of, String.append_assoc]
  rw [split, split] at h
  exact number_inj (fun hook => "IEnumerator " ++ (hook.method ++ "Routine")) (by decide) (by decide) h

theorem signature_head (r : RoutineCode) : r.method.signature.toList.head? = some 'I' := by
  simp [method]

theorem prefix_flag (r : RoutineCode) : r.hook.flagStart.toList <+: r.flag.toList := by
  rw [flag_eq, String.append_assoc, String.toList_append]
  exact List.prefix_append _ _

end RoutineCode

section Quiet

variable {ctx : Context} {names : List String} {routines : List RoutineCode}

/-- A line that begins like the flag of a routine begins like the flags of its hook. -/
theorem not_flag_of_diverges {r : RoutineCode} {text : String}
    (h : diverges r.hook.flagStart.toList text.toList = true) (rest : List Char) :
    ¬ r.flag.toList ++ rest <+: text.toList := fun hp =>
  not_prefix_of_diverges h (r.prefix_flag.trans ((List.prefix_append _ _).trans hp))

/-- A statement assigns to no flag if no variable has the name of one. -/
theorem Phrase.not_flag {text : String} (h : Phrase ctx names text) {r : RoutineCode}
    (free : ∀ name ∈ names, ctx.identifier name ≠ r.flag) :
    ¬ r.flag.toList ++ [' ', '=', ' '] <+: text.toList := by
  have blank {name : String} (hn : Unmarked name) : ' ' ∉ name.toList := fun hm =>
    unmarked_iff.mp hn ' ' hm (by decide)
  cases h with
  | opened begins =>
    refine not_flag_of_diverges (begins.diverges ?_) _
    cases r.hook <;> decide
  | @assigned name hm hn hp =>
    have other : r.flag.toList ≠ (ctx.identifier name).toList := fun same =>
      free name hm (String.toList_inj.mp same.symm)
    exact not_prefix_of_diverges (diverges_of_start
      (diverges_of_ne (blank hn.unmarked) (blank r.unmarked_flag) other _ _) hp)
  | @changed name sign hn hs hp =>
    have other : '=' ≠ sign := by
      rintro rfl
      exact absurd hs (by decide)
    exact not_prefix_of_diverges (diverges_of_start
      (diverges_of_next _ (blank hn.unmarked) (blank r.unmarked_flag) other _ _) hp)

/-- The lines of actions concern no routine. -/
theorem isQuiet_of_said (free : ∀ name ∈ names, ∀ r ∈ routines, ctx.identifier name ≠ r.flag)
    {text : String} (said : (Piece.line text).Said ctx names) : IsQuiet routines text := by
  constructor
  · intro r hr value read
    obtain ⟨-, hp⟩ := Deed.start_of_read_assign read
    rcases said with phrase | ⟨c, rfl⟩
    · exact phrase.not_flag (fun name hn => free name hn r hr) hp
    · refine not_flag_of_diverges ((c.begins_render _ _).diverges ?_) _ hp
      cases r.hook <;> decide
  · intro flag routine read
    have begins : "if (!".toList <+: text.toList := by
      rw [Deed.start_of_read_start read]
      exact prefix_foldl "if (!" [flag, ") StartCoroutine(", routine, "());"]
    rcases said with phrase | ⟨c, rfl⟩
    · exact not_prefix_of_diverges (phrase.diverges ⟨by decide, by decide⟩) begins
    · exact not_prefix_of_diverges ((c.begins_render _ _).diverges (by decide)) begins

theorem Lowered.Built.isCalm {α : Type} {x : Lowered α} {used : Bool} (h : x.Built ctx names used)
    (free : ∀ name ∈ names, ∀ r ∈ routines, ctx.identifier name ≠ r.flag) {p : Passage}
    (hp : x.pieces = p.pieces) : IsCalm routines p := by
  intro text ht
  rw [← hp] at ht
  exact isQuiet_of_said free (h.said _ ht)

theorem isSafe_of_phrases (free : ∀ name ∈ names, ∀ r ∈ routines, ctx.identifier name ≠ r.flag)
    {p : Passage} (h : ∀ text ∈ p.texts, Phrase ctx names text) (none : tests p = []) :
    IsSafe routines p := by
  refine ⟨fun text ht => .inl (isQuiet_of_said free (.inl ?_)), fun test ht => ?_⟩
  · exact h text (Passage.mem_texts.mpr ⟨_, ht, List.mem_singleton_self _⟩)
  · rw [none] at ht
    cases ht

theorem isSafe_empty : IsSafe routines .empty :=
  ⟨fun _ ht => absurd ht List.not_mem_nil, fun _ ht => absurd ht List.not_mem_nil⟩

theorem isSafe_seq {first second : Passage} (h : IsSafe routines first)
    (h' : IsSafe routines second) : IsSafe routines (.seq first second) :=
  ⟨fun text ht => (List.mem_append.mp ht).elim (h.tidy text) (h'.tidy text),
    fun test ht => (List.mem_append.mp ht).elim (h.testing test) (h'.testing test)⟩

theorem isSafe_concat {passages : List Passage} (h : ∀ p ∈ passages, IsSafe routines p) :
    IsSafe routines (.concat passages) := by
  induction passages with
  | nil => exact isSafe_empty
  | cons first rest ih =>
    obtain ⟨own, others⟩ := List.forall_mem_cons.mp h
    exact isSafe_seq own (ih others)

theorem line_mem_guarded {guards : List String} {body : Passage} {text : String} :
    Piece.line text ∈ (Passage.guarded guards body).pieces ↔ Piece.line text ∈ body.pieces := by
  induction guards with
  | nil => rfl
  | cons guard guards ih =>
    change Piece.line text ∈ .openBlock _ :: ((Passage.guarded guards body).pieces ++ [Piece.close]) ↔ _
    simp [ih]

theorem isSafe_guarded {guards : List String} {body : Passage} (h : IsSafe routines body)
    (hg : ∀ guard ∈ guards, Shows Sign.isGate ("if (" ++ guard ++ ")")) :
    IsSafe routines (.guarded guards body) := by
  refine ⟨fun text ht => h.tidy text (line_mem_guarded.mp ht), ?_⟩
  induction guards with
  | nil => exact h.testing
  | cons guard guards ih =>
    obtain ⟨first, others⟩ := List.forall_mem_cons.mp hg
    exact List.forall_mem_cons.mpr ⟨first, ih others⟩

/-- Covered code only tests, and so does the line above an indented one. -/
theorem Passage.IsCovered.isTesting {animations : List String} {p : Passage}
    (h : p.IsCovered ctx animations) (ordinary : p.IsOrdinary ctx) : IsTesting p := by
  induction p with
  | block header body ih =>
    obtain ⟨opened, inside⟩ := List.forall_mem_cons.mp h
    refine List.forall_mem_append.mpr ⟨fun test ht => ?_, ih (fun piece hp => ?_) ordinary.2⟩
    · exact Shows.mono Sign.isGate_of_isTest (opened test (Option.mem_toList.mp ht))
    · exact inside piece (List.mem_append_left _ hp)
  | under test statement =>
    have hit : Shows Sign.isGate hitLine := rfl
    obtain ⟨rfl, -⟩ := ordinary
    exact List.forall_mem_singleton.mpr hit
  | seq first second ih ih' =>
    refine List.forall_mem_append.mpr ⟨ih (fun piece hp => ?_) ordinary.1,
      ih' (fun piece hp => ?_) ordinary.2⟩
    · exact h piece (List.mem_append_left _ hp)
    · exact h piece (List.mem_append_right _ hp)
  | _ => exact fun test ht => by cases ht

end Quiet

/-- The guards of an event only test. -/
theorem Context.Guards.isGate {ctx : Context} (named : ctx.Named)
    (keys : ∀ key ∈ ctx.entity.inputKeys, Qualified (Key.member key)) {index : Nat} {event : Event}
    (he : event ∈ ctx.entity.events) {guards : List String} (h : ctx.Guards index event guards) :
    ∀ guard ∈ guards, Shows Sign.isGate ("if (" ++ guard ++ ")") := by
  intro guard hg
  rcases h.cases named keys he guard hg with sound | ⟨-, key, seconds, rfl⟩
  · exact (header_isTest sound).mono Sign.isGate_of_isTest
  · have call : Sound Sign.isGate
        ((ServiceCall.cooldown (quote key) (floatLiteral seconds)).render .static) :=
      sound_join (.given _) [.part _ (sound_quote _), .given _, .part _ (sound_floatLiteral _),
        .given _] rfl
    exact shows_join (.given _) [.part _ call, .given _] rfl

theorem declaredName_eq {signature : String} (before name rest : List Char)
    (h : signature.toList = before ++ ' ' :: (name ++ '(' :: rest)) (opened : '(' ∉ before)
    (blank : ' ' ∉ name) (closed : '(' ∉ name) : declaredName signature = name := by
  have front : '(' ∉ before ++ ' ' :: name := by
    simp [opened, closed]
  have split : before ++ ' ' :: (name ++ '(' :: rest) = (before ++ ' ' :: name) ++ '(' :: rest := by
    simp
  have back : (before ++ ' ' :: name).reverse = name.reverse ++ ' ' :: before.reverse := by simp
  rw [declaredName, h, split, (Deed.dropWhile_word front rest).2, back,
    (Deed.dropWhile_word (by simpa using blank) before.reverse).2, List.reverse_reverse]

namespace Context.Contributes

variable {ctx : Context} {o : Occasion} {c : Contribution} {hook : Hook}

/-- An event that acts in a hook and does not wait stands there with its guards. -/
theorem inline_of_still (h : ctx.Contributes o c) (handled : o.event.trigger? = some (.hook hook))
    (acts : o.event.action.getD "" ≠ "") (still : o.waits ctx = false) :
    ∃ guards body, c = .inline (.hook hook) guards body ∧ ctx.Guards o.index o.event guards := by
  cases h with
  | unhandled none => cases none.symm.trans handled
  | nothing _ idle => exact absurd idle acts
  | inline own _ guarded =>
    cases own.symm.trans handled
    exact ⟨_, _, rfl, guarded⟩
  | routine _ _ _ _ waits => cases still.symm.trans waits

/-- An event of a hook that waits has a routine. -/
theorem routine_of_waits (h : ctx.Contributes o c) (handled : o.event.trigger? = some (.hook hook))
    (waits : o.waits ctx = true) :
    ∃ guards r, c = .routine guards r ∧ ctx.Guards o.index o.event guards ∧ r.hook = hook := by
  cases h with
  | unhandled none => cases none.symm.trans handled
  | nothing _ idle => cases (Occasion.waits_of_idle idle).symm.trans waits
  | inline own _ _ _ here =>
    cases own.symm.trans handled
    rcases here with start | still
    · cases start
    · cases still.symm.trans waits
  | @routine guards r own _ guarded =>
    cases own.symm.trans handled
    exact ⟨guards, r, rfl, guarded, rfl⟩

end Context.Contributes

theorem Contribution.passage_routine (guards : List String) (r : RoutineCode) :
    passage (.hook r.hook) (routine guards r) = .guarded guards (.line r.call) :=
  if_pos rfl

namespace Context.Assembly

variable {ctx : Context} (s : ctx.Assembly)

theorem routine_of_number {r r' : RoutineCode} (hr : r ∈ s.routines) (hr' : r' ∈ s.routines)
    (h : r.number = r'.number) : r = r' := by
  have distinct : (s.routines.map RoutineCode.number).Nodup := by
    rw [routines, s.numbered]
    exact List.nodup_range
  exact List.inj_on_of_nodup_map distinct hr hr' h

theorem declares_flag {r : RoutineCode} (hr : r ∈ s.routines) :
    Piece.line ("private bool " ++ r.flag ++ ";") ∈ s.code.fields.pieces := by
  have flag : r.flag ∈ s.routines.map RoutineCode.flag := List.mem_map.mpr ⟨r, hr, rfl⟩
  have some : ¬ (s.routines.map RoutineCode.flag).isEmpty = true := by
    simpa using List.ne_nil_of_mem hr
  have line : Piece.line ("private bool " ++ r.flag ++ ";") ∈
      (Passage.ofLines ("" :: (s.routines.map RoutineCode.flag).map fun flag =>
        "private bool " ++ flag ++ ";")).pieces := by
    rw [Passage.pieces_ofLines]
    exact List.mem_map_of_mem (List.mem_cons_of_mem _ (List.mem_map_of_mem flag))
  change _ ∈ (ctx.fields _ s.declared (s.routines.map RoutineCode.flag)).pieces
  rw [fields, Passage.pieces_concat]
  refine List.mem_flatMap.mpr ⟨_, List.mem_of_mem_getLast? rfl, ?_⟩
  rwa [if_neg some]

/-- No test calls a method of the class. -/
theorem names_apart : ∀ m ∈ s.code.methods, ∀ method ∈ Sign.gateMethods,
    ¬declaredName m.signature <:+ method := by
  have known : ∀ signature ∈ ["void Awake()", "void Start()", "IEnumerator Start()",
      Hook.update.signature, Hook.collision.signature, "public void OnTakeDamage(float amount)"],
      ∀ method ∈ Sign.gateMethods, ¬declaredName signature <:+ method := by decide
  refine s.forall_methods (known _ (by decide)) (fun m hm => ?_) ?_ (fun hook => ?_) (fun m hm => ?_)
    fun r _ => ?_
  · have apart : ∀ method ∈ Sign.gateMethods, ¬"Initialize".toList <:+ method := by decide
    have own : declaredName ("public void Initialize(" ++ ctx.config.contextType ++ " context)") =
        "Initialize".toList :=
      declaredName_eq "public void".toList "Initialize".toList
        (ctx.config.contextType ++ " context)").toList (by simp) (by decide) (by decide) (by decide)
    cases eq_of_mem_initializeMethods hm
    rw [own]
    exact apart
  · have start : ["IEnumerator Start()", "void Start()"] ⊆ ["void Awake()", "void Start()",
        "IEnumerator Start()", Hook.update.signature, Hook.collision.signature,
        "public void OnTakeDamage(float amount)"] := by decide
    exact known _ (start (startMethod_signature _))
  · cases hook with
    | update => exact known Hook.update.signature (by decide)
    | collision => exact known Hook.collision.signature (by decide)
  · obtain ⟨amount, -, rfl⟩ := exists_of_mem_damageMethods hm
    exact known "public void OnTakeDamage(float amount)" (by decide)
  · -- the name of a routine ends in a digit
    have letters : (Sign.gateMethods.all fun method =>
        method.getLast?.any fun c => !c.isDigit) = true := by decide
    have plain {c : Char} (hc : c ∈ unkept) : c ∉ r.name.toList := fun hm => r.name_plain c hm hc
    have own : declaredName r.method.signature = r.name.toList :=
      declaredName_eq "IEnumerator".toList r.name.toList [')'] (by simp [RoutineCode.method])
        (by decide) (plain (by decide)) (plain (by decide))
    obtain ⟨d, ending, digit⟩ := r.ending_name
    intro method hm
    obtain ⟨c, last, letter⟩ := Option.any_eq_true _ _ |>.mp (List.all_eq_true.mp letters method hm)
    rw [own]
    exact not_suffix_of_last (fun c => !c.isDigit) ⟨d, ending, by simp [digit]⟩
      ⟨c, last, letter⟩

theorem exists_guards {r : RoutineCode} (hr : r ∈ s.routines) :
    ∃ guards, Contribution.routine guards r ∈ s.contributions := by
  obtain ⟨c, hc, own⟩ := List.mem_filterMap.mp hr
  cases c with
  | routine guards r' =>
    cases own
    exact ⟨guards, hc⟩
  | _ => cases own

/-- The hook of a routine is among the methods, and is called from outside. -/
theorem hook_isEntry {r : RoutineCode} (hr : r ∈ s.routines) :
    ⟨r.hook.signature, s.hookBody r.hook⟩ ∈ s.code.methods ∧
      Method.isEntry ⟨r.hook.signature, s.hookBody r.hook⟩ = true := by
  obtain ⟨guards, hc⟩ := s.exists_guards hr
  have called : Piece.line r.call ∈ (s.hookBody r.hook).pieces := by
    rw [hookBody, Passage.pieces_concat]
    refine List.mem_flatMap.mpr ⟨_, List.mem_map_of_mem hc, ?_⟩
    rw [Contribution.passage_routine]
    exact line_mem_guarded.mpr (List.mem_singleton_self _)
  have filled : (s.hookBody r.hook).lines ≠ [] := by
    intro empty
    have text := Passage.mem_texts.mpr ⟨_, called, List.mem_singleton_self _⟩
    simp [Passage.texts, empty] at text
  have plain : Method.isCoroutine ⟨r.hook.signature, s.hookBody r.hook⟩ = false :=
    Method.isCoroutine_of_head (hookSignature_head r.hook) (by decide)
  refine ⟨s.hook_mem filled, ?_⟩
  rw [Method.isEntry, plain]
  rfl

/-- An event that waits outside of the start has a routine. -/
theorem exists_routine {o : Occasion} (ho : o ∈ ctx.occasions) {hook : Hook}
    (handled : o.event.trigger? = some (.hook hook)) (waits : o.waits ctx = true) :
    ∃ r ∈ s.routines, r.hook = hook := by
  obtain ⟨c, hc, contributes⟩ := exists_of_forall₂ s.contributes.flip o ho
  obtain ⟨guards, r, rfl, -, own⟩ := contributes.routine_of_waits handled waits
  exact ⟨r, List.mem_filterMap.mpr ⟨_, hc, rfl⟩, own⟩

section Free

variable (named : ctx.Named)
  (free : ∀ name ∈ ctx.entity.assigned, ∀ r ∈ s.routines, ctx.identifier name ≠ r.flag)
include named free

theorem performs_isCalm {o : Occasion} (ho : o ∈ ctx.occasions) {body : Passage}
    (h : ctx.Performs o body) : IsCalm s.routines body := by
  obtain ⟨_, -, built⟩ := eventAction_built named o.budget (event_mem_of_occasion ho)
  exact built.isCalm free h.wrote.pieces

end Free

section Keys

variable (named : ctx.Named) (keys : ∀ key ∈ ctx.entity.inputKeys, Qualified (Key.member key))
  (free : ∀ name ∈ ctx.entity.assigned, ∀ r ∈ s.routines, ctx.identifier name ≠ r.flag)
include named keys

theorem performs_isTesting {o : Occasion} (ho : o ∈ ctx.occasions) {body : Passage}
    (h : ctx.Performs o body) : IsTesting body := by
  obtain ⟨animations, listed⟩ := ctx.entity.exists_isListedBy
  have covered := eventAction_isCovered named keys listed o.budget (event_mem_of_occasion ho)
  exact (covered.isCovered h.wrote.pieces).isTesting h.wrote.ordinary

include free

theorem contribution_isSafe {c : Contribution} (hc : c ∈ s.contributions) (trigger : Trigger) :
    IsSafe s.routines (c.passage trigger) := by
  obtain ⟨o, ho, contributes⟩ := exists_of_forall₂ s.contributes c hc
  cases contributes with
  | unhandled => exact isSafe_empty
  | nothing => exact isSafe_empty
  | inline _ _ guarded performs _ =>
    rw [Contribution.passage]
    split
    next =>
      exact isSafe_guarded ⟨(s.performs_isCalm named free ho performs).isTidy,
        performs_isTesting named keys ho performs⟩
          (guarded.isGate named keys (event_mem_of_occasion ho))
    next => exact isSafe_empty
  | @routine _ r _ _ guarded =>
    have mine : r ∈ s.routines := List.mem_filterMap.mpr ⟨_, hc, rfl⟩
    have call : IsSafe s.routines (.line r.call) := by
      refine ⟨fun text ht => .inr ⟨r, mine, ?_⟩, fun test ht => by cases ht⟩
      cases List.mem_singleton.mp ht
      rfl
    rw [Contribution.passage]
    split
    next => exact isSafe_guarded call (guarded.isGate named keys (event_mem_of_occasion ho))
    next => exact isSafe_empty

theorem contributed_isSafe {contributions : List Contribution} (sub : contributions ⊆ s.contributions)
    (trigger : Trigger) :
    IsSafe s.routines (.concat (contributions.map (Contribution.passage trigger))) := by
  refine isSafe_concat fun p hp => ?_
  obtain ⟨c, hc, rfl⟩ := List.mem_map.mp hp
  exact s.contribution_isSafe named keys free (sub hc) trigger

/-- A method is a routine, or has another signature than all of them and starts them as it should. -/
theorem method_cases : ∀ m ∈ s.code.methods, (∃ r ∈ s.routines, m = r.method) ∨
    (∀ r : RoutineCode, m.signature ≠ r.method.signature) ∧ IsSafe s.routines m.body := by
  have other {m : Method} {c : Char} (head : m.signature.toList.head? = some c) (hc : 'I' ≠ c)
      (r : RoutineCode) : m.signature ≠ r.method.signature := by
    intro same
    rw [same, r.signature_head] at head
    exact hc (Option.some.inj head)
  have start : IsSafe s.routines s.startBody := by
    obtain ⟨_, -, built⟩ := lowerStart_built named ctx.config.maxEmittedNodes
    obtain ⟨animations, listed⟩ := ctx.entity.exists_isListedBy
    have covered := (lowerStart_isCovered named keys listed _).isCovered s.starts.pieces
    exact isSafe_seq ⟨(built.isCalm free s.starts.pieces).isTidy, covered.isTesting s.starts.ordinary⟩
      (s.contributed_isSafe named keys free (List.Subset.refl _) .start)
  have context : ∀ m ∈ initializeMethods ctx.config, tests m.body = [] := by
    intro m hm
    cases eq_of_mem_initializeMethods hm
    rfl
  have damage (facts : Facts) : ∀ m ∈ ctx.damageMethods facts, tests m.body = [] := by
    intro m hm
    obtain ⟨amount, -, rfl⟩ := exists_of_mem_damageMethods hm
    rfl
  refine s.forall_methods (.inr ⟨?_, ?_⟩) (fun m hm => .inr ⟨?_, ?_⟩) (.inr ⟨fun r => ?_, start⟩)
    (fun hook => .inr ⟨?_, ?_⟩) (fun m hm => .inr ⟨?_, ?_⟩) fun r hr => .inl ⟨r, hr, rfl⟩
  · exact other (c := 'v') (by decide) (by decide)
  · exact isSafe_of_phrases free awake_phrase rfl
  · exact other (initializeMethods_plain _ m hm).1 (by decide)
  · exact isSafe_of_phrases free (initialize_phrase m hm) (context m hm)
  · have signature := startMethod_signature s.startBody
    simp only [List.mem_cons, List.not_mem_nil, or_false] at signature
    rcases signature with waiting | plain
    · rw [waiting]
      exact (routine_signature_ne r).symm
    · exact other (c := 'v') (by simp [plain]) (by decide) r
  · exact other (hookSignature_head hook) (by decide)
  · exact s.contributed_isSafe named keys free (List.Subset.refl _) (.hook hook)
  · exact other (damageMethods_plain _ m hm).1 (by decide)
  · exact isSafe_of_phrases free (damage_phrase named m hm) (damage _ m hm)

/-- A class keeps the rules about its routines if it assigns to no variable with the name of a
flag. -/
theorem hosts : Hosts s.code s.routines where
  flags r hr r' hr' same := s.routine_of_number hr hr' (RoutineCode.number_of_flag same)
  declares _ hr := s.declares_flag hr
  bodies r hr := by
    obtain ⟨o, ho, performs, -⟩ := s.routine_performs r hr
    exact s.performs_isCalm named free ho performs
  tests r hr := by
    obtain ⟨o, ho, performs, -⟩ := s.routine_performs r hr
    exact performs_isTesting named keys ho performs
  waits r hr := by
    obtain ⟨o, -, performs, waits⟩ := s.routine_performs r hr
    rw [performs.wrote.waits, waits]
  members _ hr := s.routine_mem hr
  signatures r hr r' hr' same := s.routine_of_number hr hr' (RoutineCode.number_of_signature same)
  methods m hm r hr same := by
    rcases s.method_cases named keys free m hm with ⟨r', hr', rfl⟩ | ⟨other, -⟩
    · rw [s.routine_of_number hr' hr (RoutineCode.number_of_signature same)]
    · exact absurd same (other r)
  entries m hm entry := by
    rcases s.method_cases named keys free m hm with ⟨r, hr, rfl⟩ | ⟨other, safe⟩
    · have coroutine : r.method.isCoroutine = true := by
        rw [← s.waits_eq_isCoroutine _ hm, s.routine_waits r hr]
      simp [Method.isEntry, coroutine, routine_signature_ne] at entry
    · exact ⟨fun r _ => other r, safe⟩
  names := s.names_apart

/-- Each routine comes to wait: its hook calls it, and what stands before the call can be run. -/
theorem routine_comes_to_wait {r : RoutineCode} (hr : r ∈ s.routines) :
    ∃ state, Reachable s.code state ∧ state.stack = [] ∧ state.fields r.flag = true := by
  obtain ⟨guards, hc⟩ := s.exists_guards hr
  obtain ⟨before, after, split⟩ := List.append_of_mem hc
  obtain ⟨member, entry⟩ := s.hook_isEntry hr
  have body : (s.hookBody r.hook).steps =
      (Passage.concat (before.map (Contribution.passage (.hook r.hook)))).steps ++
        ((Passage.guarded guards (.line r.call)).steps ++
          (Passage.concat (after.map (Contribution.passage (.hook r.hook)))).steps) := by
    rw [hookBody, split, List.map_append, List.map_cons, Contribution.passage_routine,
      Passage.steps_append]
    rfl
  have still := s.hookBody_waits r.hook
  rw [hookBody, split, List.map_append, List.map_cons, Passage.waits_concat, List.any_append,
    List.any_cons] at still
  obtain ⟨first, last⟩ := Bool.or_eq_false_iff.mp still
  have safe {contributions : List Contribution} (sub : contributions ⊆ s.contributions) :=
    s.contributed_isSafe named keys free sub (.hook r.hook)
  refine (s.hosts named keys free).comes_to_wait hr member entry
    ⟨(safe (by simp [split])).tidy, (safe (by simp [split])).tidy⟩ ⟨?_, ?_⟩ body
  · rwa [Passage.waits_concat]
  · rw [Passage.waits_concat]
    exact (Bool.or_eq_false_iff.mp last).2

end Keys

end Context.Assembly

/-- A waiting event does not overlap itself. Whatever is called and resumed in whatever order, each
routine of a class has at most one live instance, and where nothing runs its flag tells whether it has
one, unless the entity sets a variable with the name of such a flag or asks for a key that is no name.
Each routine does come to be live. -/
theorem assemble_never_overlaps {draft : Config.Draft} {config : Config}
    (valid : draft.check = .ok config) {entity : Entity}
    (keys : ∀ key ∈ entity.inputKeys, Qualified (Key.member key)) {a : Artifact}
    (h : (assemble config entity).result = .ok (some a)) :
    ∃ (w : Writer) (s : (Context.of entity config).Assembly),
      (Context.of entity config).classWriter.result = .ok w ∧
      a.source = w.render config.indent ++ "\n" ∧
      w.lines.toList = s.code.passage.lines ∧
      (∀ r ∈ s.routines, r.method ∈ s.code.methods ∧ r.method.signature =
        "IEnumerator " ++ (r.hook.method ++ "Routine" ++ toString r.number) ++ "()") ∧
      ((∀ name ∈ entity.assigned, ∀ r ∈ s.routines, sanitize name ≠ r.flag) →
        ∀ r ∈ s.routines,
          (∀ state, Reachable s.code state → state.live r.method ≤ 1 ∧
            (state.stack = [] → (state.fields r.flag = true ↔ state.live r.method = 1))) ∧
          ∃ state, Reachable s.code state ∧ state.stack = [] ∧ state.live r.method = 1) := by
  have named := Context.of_named valid entity
  obtain ⟨w, s, hw, source, rfl⟩ := assemble_assembly valid h
  refine ⟨_, s, hw, source, Writer.lines_run _, fun r hr => ⟨s.routine_mem hr, rfl⟩, ?_⟩
  intro distinct r hr
  have he := (Context.of_fields entity config).1
  have free : ∀ name ∈ (Context.of entity config).entity.assigned, ∀ r ∈ s.routines,
      (Context.of entity config).identifier name ≠ r.flag := by
    intro name hn r hr
    rw [he] at hn
    rw [Context.of_identifier]
    exact distinct name hn r hr
  rw [← he] at keys
  have hosts := s.hosts named keys free
  refine ⟨fun state reachable => (reachable.invariant hosts).live hosts hr, ?_⟩
  obtain ⟨state, reachable, idle, up⟩ := s.routine_comes_to_wait named keys free hr
  exact ⟨state, reachable, idle, (((reachable.invariant hosts).live hosts hr).2 idle).mp up⟩

theorem assemble_never_overlaps_asking :
    ∃ config a, Config.Draft.default.check = .ok config ∧
      (assemble config (askingEntity "KeyW")).result = .ok (some a) ∧
      ∃ s : (Context.of (askingEntity "KeyW") config).Assembly, ∃ r ∈ s.routines, r.hook = .update ∧
        (∀ state, Reachable s.code state → state.live r.method ≤ 1) ∧
        ∃ state, Reachable s.code state ∧ state.stack = [] ∧ state.live r.method = 1 := by
  have waiting : (Config.Draft.default.check.toOption.map fun config =>
      (Context.of (askingEntity "KeyW") config).occasions.any fun o =>
        o.event.trigger? == some (.hook .update) && o.waits (Context.of (askingEntity "KeyW") config)) =
      some true := by
    decide +kernel
  have unset : (askingEntity "KeyW").assigned = [] := by decide +kernel
  have keys : ∀ key ∈ (askingEntity "KeyW").inputKeys, Qualified (Key.member key) := by decide
  obtain ⟨config, valid⟩ : ∃ config, Config.Draft.default.check = .ok config := ⟨_, rfl⟩
  obtain ⟨a, ha⟩ := askingEntity_assembles config "KeyW"
  obtain ⟨w, s, -, -, -, -, live⟩ := assemble_never_overlaps valid keys ha
  rw [valid] at waiting
  obtain ⟨o, ho, own⟩ := List.any_eq_true.mp (Option.some.inj waiting)
  obtain ⟨handled, waits⟩ := Bool.and_eq_true_iff.mp own
  obtain ⟨r, hr, hook⟩ := s.exists_routine ho (beq_iff_eq.mp handled) waits
  have free : ∀ name ∈ (askingEntity "KeyW").assigned, ∀ r ∈ s.routines, sanitize name ≠ r.flag := by
    simp [unset]
  obtain ⟨most, comes⟩ := live free r hr
  exact ⟨config, a, valid, ha, s, r, hr, hook, fun state reachable => (most state reachable).1, comes⟩

/-- Where a method tests something, assigns to the flag of a routine in that test and then calls the
routine, it can be called twice so that both calls start the routine. -/
theorem Execution.overlaps_of_assign {code : ClassCode} {routines : List RoutineCode}
    {r : RoutineCode} (hr : r ∈ routines) (member : r.method ∈ code.methods)
    (calm : IsCalm routines r.body) (waits : r.body.waits = true) {m : Method}
    (hm : m ∈ code.methods) (entry : m.isEntry = true) {header : String} {body : Passage}
    (split : m.body.steps = [.block (some header) body, .line r.call])
    (assigns : .assign ∈ signs header) (names : r.flag.toList <:+: header.toList) :
    ∃ state, Reachable code state ∧ state.live r.method = 2 := by
  have enter (fields : String → Bool) (suspended : List Frame) :
      Runs code ⟨fields, [], suspended⟩
        ⟨fields, [⟨m.signature, [.block (some header) body, .line r.call]⟩], suspended⟩ := by
    rw [← split]
    exact .single (.call hm entry)
  have clear (fields : String → Bool) (suspended : List Frame) :
      Runs code ⟨fields, [⟨m.signature, [.block (some header) body, .line r.call]⟩], suspended⟩
        ⟨Function.update fields r.flag false, [⟨m.signature, [.line r.call]⟩], suspended⟩ := by
    refine .head (.alter rfl assigns fun name changed => ?_) (.single (.proceed (.skip header body)))
    by_cases own : name = r.flag
    · rwa [own]
    · exact absurd (Function.update_of_ne own false fields) changed
  have started (fields : String → Bool) (suspended : List Frame) :
      ∃ fields' left, Runs code ⟨fields, [], suspended⟩
        ⟨fields', [], ⟨r.method.signature, left⟩ :: suspended⟩ := by
    have low : Function.update fields r.flag false r.flag = false := Function.update_self ..
    obtain ⟨fields', left, runs, -, -⟩ := start_runs hr member calm waits low m.signature [] [] suspended
    exact ⟨fields', left, (((enter fields suspended).trans (clear fields suspended)).trans runs).tail
      .finish⟩
  obtain ⟨fields₁, left₁, first⟩ := started (fun _ => false) []
  obtain ⟨fields₂, left₂, second⟩ := started fields₁ [⟨r.method.signature, left₁⟩]
  have start : Reachable code ⟨fun _ => false, [], []⟩ := .initial fun _ _ => rfl
  refine ⟨_, start.runs (first.trans second), ?_⟩
  simp [State.live]

/-- What two events of the update contribute, the second of which waits. -/
theorem Context.Assembly.contributions_of_two {ctx : Context} (s : ctx.Assembly)
    {first second : Event} (events : ctx.entity.events = [first, second])
    (handled : ∀ event ∈ [first, second],
      event.trigger? = some (.hook .update) ∧ event.action.getD "" ≠ "")
    (waits : ctx.occasions.map (fun o => o.waits ctx) = [false, true]) :
    ∃ guards body guards' r, s.contributions =
        [.inline (.hook .update) guards body, .routine guards' r] ∧
      ctx.Guards 0 first guards ∧ ctx.Guards 1 second guards' ∧ r.hook = .update := by
  have places := ctx.occasions_events
  have contributes := s.contributes
  rw [events] at places
  generalize ctx.occasions = occasions at places waits contributes
  obtain ⟨o, rest, rfl, place, places⟩ := List.map_eq_cons_iff.mp places
  obtain ⟨o', rest, rfl, place', places⟩ := List.map_eq_cons_iff.mp places
  obtain rfl := List.map_eq_nil_iff.mp places
  obtain ⟨rfl, index⟩ := Prod.mk.inj place
  obtain ⟨rfl, index'⟩ := Prod.mk.inj place'
  obtain ⟨still, waits⟩ := List.cons.inj waits
  obtain ⟨waits, -⟩ := List.cons.inj waits
  obtain ⟨own, acts⟩ := handled o.event List.mem_cons_self
  obtain ⟨own', -⟩ := handled o'.event (List.mem_cons_of_mem _ List.mem_cons_self)
  generalize s.contributions = contributions at contributes
  obtain _ | ⟨contributes, _ | ⟨contributes', _ | _⟩⟩ := contributes
  obtain ⟨guards, body, rfl, guarded⟩ := contributes.inline_of_still own acts still
  obtain ⟨guards', r, rfl, guarded', hook⟩ := contributes'.routine_of_waits own' waits
  rw [index] at guarded
  rw [index'] at guarded'
  exact ⟨guards, body, guards', r, rfl, guarded, guarded', hook⟩

/-- An entity that asks for a key, and then waits. -/
def waitingEntity (key : String) : Entity :=
  { pressedEntity "door" key with
    events := (pressedEntity "door" key).events ++
      [⟨none, "OnUpdate", [], none, [], some "Wait", []⟩] }

theorem waitingEntity_assembles (config : Config) (key : String) :
    ∃ a, (assemble config (waitingEntity key)).result = .ok (some a) := by
  have none : (waitingEntity key).integers = [] := rfl
  refine assemble_of_fits config rfl fun n hn => ?_
  rw [none] at hn
  cases hn

/-- A key can lower the flag of a routine that runs. -/
def clearingKey : String := "A)) _updateRoutine0Running = false; if ((true"

theorem clearingKey_overlaps :
    ∃ config a, Config.Draft.default.check = .ok config ∧
      (assemble config (waitingEntity clearingKey)).result = .ok (some a) ∧
      (waitingEntity clearingKey).assigned = [] ∧
      ∃ (w : Writer) (s : (Context.of (waitingEntity clearingKey) config).Assembly),
        (Context.of (waitingEntity clearingKey) config).classWriter.result = .ok w ∧
        a.source = w.render config.indent ++ "\n" ∧
        w.lines.toList = s.code.passage.lines ∧
        ∃ r ∈ s.routines, ∃ state, Reachable s.code state ∧ state.live r.method = 2 := by
  have lowered : (Config.Draft.default.check.toOption.map fun config =>
      let ctx := Context.of (waitingEntity clearingKey) config
      (ctx.occasions.map fun o => o.waits ctx,
        (ctx.lowerCondition ⟨"InputDown", some clearingKey, []⟩).result.toOption)) =
      some ([false, true],
        some "Input.GetKey(KeyCode.A)) _updateRoutine0Running = false; if ((true)") := by
    decide +kernel
  have unset : (waitingEntity clearingKey).assigned = [] := by decide +kernel
  obtain ⟨config, valid⟩ : ∃ config, Config.Draft.default.check = .ok config := ⟨_, rfl⟩
  obtain ⟨a, ha⟩ := waitingEntity_assembles config clearingKey
  obtain ⟨w, s, hw, source, rfl⟩ := assemble_assembly valid ha
  refine ⟨config, a, valid, ha, unset, _, s, hw, source, Writer.lines_run _, ?_⟩
  have he := (Context.of_fields (waitingEntity clearingKey) config).1
  have handled : ∀ event ∈ (waitingEntity clearingKey).events,
      event.trigger? = some (.hook .update) ∧ event.action.getD "" ≠ "" := by decide
  rw [valid] at lowered
  obtain ⟨waits, test⟩ := Prod.mk.inj (Option.some.inj lowered)
  obtain ⟨guards, body, guards', r, contributions, guarded, guarded', hook⟩ :=
    s.contributions_of_two (congrArg Entity.events he) handled waits
  have guard : guards = ["Input.GetKey(KeyCode.A)) _updateRoutine0Running = false; if ((true)"] := by
    obtain ⟨parts, hp, rfl⟩ := guarded
    obtain _ | ⟨own, _ | _⟩ := hp
    rw [own] at test
    cases Option.some.inj test
    rfl
  have none : guards' = [] := by
    obtain ⟨parts, hp, rfl⟩ := guarded'
    rfl
  subst guard none
  have hr : r ∈ s.routines := by
    rw [Context.Assembly.routines, contributions]
    exact List.mem_singleton_self r
  have free : ∀ name ∈ (Context.of (waitingEntity clearingKey) config).entity.assigned,
      ∀ r ∈ s.routines, (Context.of (waitingEntity clearingKey) config).identifier name ≠ r.flag := by
    rw [he, unset]
    simp
  obtain ⟨o, ho, performs, long⟩ := s.routine_performs r hr
  have calm := s.performs_isCalm (Context.of_named valid _) free ho performs
  have waits : r.body.waits = true := performs.wrote.waits.trans long
  have split : (s.hookBody r.hook).steps = [.block (some ("if (" ++
      "Input.GetKey(KeyCode.A)) _updateRoutine0Running = false; if ((true)" ++ ")")) body,
        .line r.call] := by
    have update : Contribution.passage (.hook .update) (.routine [] r) = .line r.call := by
      rw [← hook]
      exact Contribution.passage_routine [] r
    rw [hook, Context.Assembly.hookBody, contributions, List.map_cons, List.map_singleton, update]
    rfl
  have number : r.number = 0 := by
    have numbered := s.numbered
    rw [contributions] at numbered
    exact List.singleton_inj.mp numbered
  have flag : r.flag = "_updateRoutine0Running" := by
    rw [r.flag_eq, hook, number]
    rfl
  obtain ⟨member, entry⟩ := s.hook_isEntry hr
  exact ⟨r, hr, overlaps_of_assign hr (s.routine_mem hr) calm waits member entry split (by decide)
    (by rw [flag]; decide)⟩

end GraphScript
