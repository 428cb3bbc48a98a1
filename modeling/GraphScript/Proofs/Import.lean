import GraphScript.Proofs.Contained
import GraphScript.Proofs.Utterance

namespace GraphScript

open Lowered CSharp

namespace Service

/-- How a line begins that calls a service as a static method: in a statement, or as a test. -/
def callStarts (service : Service) : List (List Char) :=
  [(service.opening .static).toList, "if (".toList ++ (service.opening .static).toList]

/-- Whether a line begins with the call of a service as a static method. -/
def isInvokedIn (service : Service) (text : String) : Bool :=
  service.callStarts.any fun start => start.isPrefixOf text.toList

theorem mem_all (service : Service) : service ∈ all := by
  cases service <;> decide

theorem opening_diverges {service other : Service} (h : service ≠ other) :
    diverges (service.opening .static).toList (other.opening .static).toList = true := by
  have apart : (all.all fun s => all.all fun t => s == t ||
      diverges (s.opening .static).toList (t.opening .static).toList) = true := by decide
  have own := List.all_eq_true.mp (List.all_eq_true.mp apart service service.mem_all) other
    other.mem_all
  simpa [h] using own

theorem test_diverges (service : Service) :
    diverges "if (".toList (service.opening .static).toList = true ∧
      diverges (service.opening .static).toList "if (".toList = true := by
  cases service <;> decide

/-- No statement begins like a static call, and no header but one that tests such a call. -/
theorem callStarts_foreign (service : Service) :
    ∀ start ∈ service.callStarts, NoPhrase start ∧ NoHeading start := by
  have dotted : isDotted (service.opening .static).toList = true := by cases service <;> decide
  have words : (["true", "Input."].all fun word =>
      diverges (service.opening .static).toList word.toList) = true := by
    cases service <;> decide
  have phrases : ∀ start ∈ service.callStarts, NoPhrase start := by
    have openings : (service.callStarts.all fun start =>
        openings.all fun opening => diverges start opening.toList) = true := by
      cases service <;> decide
    have names : (service.callStarts.all fun start => isDotted start || isParted start) = true := by
      cases service <;> decide
    intro start hs
    exact ⟨List.all_eq_true.mp openings start hs, List.all_eq_true.mp names start hs⟩
  have headings : (service.callStarts.all fun start =>
      headings.all fun heading => diverges start heading.toList) = true := by
    cases service <;> decide
  intro start hs
  refine ⟨phrases start hs, List.all_eq_true.mp headings start hs, ?_⟩
  rcases List.mem_cons.mp hs with rfl | hs
  · exact .inl service.test_diverges.2
  · cases List.mem_singleton.mp hs
    exact .inr ⟨_, rfl, dotted, words⟩

theorem isInvokedIn_of_diverges {service : Service} {text : String}
    (h : ∀ start ∈ service.callStarts, diverges start text.toList = true) :
    service.isInvokedIn text = false := by
  refine List.any_eq_false.mpr fun start hs called => ?_
  exact not_prefix_of_diverges (h start hs) (List.isPrefixOf_iff_prefix.mp called)

theorem isInvokedIn_render (c : ServiceCall) (rest : String) (service : Service) :
    service.isInvokedIn (c.render .static ++ rest) = true ↔ service = c.service := by
  have start : (c.service.opening .static).toList <+: (c.render .static ++ rest).toList := by
    rw [String.toList_append]
    exact (c.render_opening .static).trans (List.prefix_append _ _)
  constructor
  · intro called
    by_contra other
    have test := diverges_append c.service.test_diverges.1 (service.opening .static).toList []
    rw [List.append_nil] at test
    have apart : service.isInvokedIn (c.render .static ++ rest) = false :=
      isInvokedIn_of_diverges (List.forall_mem_cons.mpr ⟨diverges_of_start (opening_diverges other) start,
        List.forall_mem_singleton.mpr (diverges_of_start test start)⟩)
    cases apart.symm.trans called
  · rintro rfl
    exact List.any_eq_true.mpr ⟨_, List.mem_cons_self, List.isPrefixOf_iff_prefix.mpr start⟩

theorem isInvokedIn_test (c : ServiceCall) (service : Service) :
    service.isInvokedIn ("if (" ++ c.render .static ++ ")") = true ↔ service = c.service := by
  have parts : ("if (" ++ c.render .static ++ ")").toList =
      "if (".toList ++ (c.render .static ++ ")").toList := by
    rw [String.append_assoc, String.toList_append]
  have start : (c.service.opening .static).toList <+: (c.render .static ++ ")").toList := by
    rw [String.toList_append]
    exact (c.render_opening .static).trans (List.prefix_append _ _)
  constructor
  · intro called
    by_contra other
    have statement : diverges (service.opening .static).toList
        ("if (" ++ c.render .static ++ ")").toList = true := by
      rw [parts]
      exact diverges_of_start service.test_diverges.2 (List.prefix_append _ _)
    have test : diverges ("if (".toList ++ (service.opening .static).toList)
        ("if (" ++ c.render .static ++ ")").toList = true := by
      rw [parts, diverges_common]
      exact diverges_of_start (opening_diverges other) start
    have apart : service.isInvokedIn ("if (" ++ c.render .static ++ ")") = false :=
      isInvokedIn_of_diverges (List.forall_mem_cons.mpr ⟨statement, List.forall_mem_singleton.mpr test⟩)
    cases apart.symm.trans called
  · rintro rfl
    refine List.any_eq_true.mpr ⟨_, List.mem_cons_of_mem _ List.mem_cons_self, ?_⟩
    rw [parts]
    exact List.isPrefixOf_iff_prefix.mpr ((List.prefix_append_right_inj _).mpr start)

end Service

variable {ctx : Context} {names : List String}

theorem Phrase.isInvokedIn {text : String} (h : Phrase ctx names text) (service : Service) :
    service.isInvokedIn text = false :=
  Service.isInvokedIn_of_diverges fun start hs => h.diverges (service.callStarts_foreign start hs).1

theorem Heading.isInvokedIn {text : String} (h : Heading text) (service : Service) :
    service.isInvokedIn text = false :=
  Service.isInvokedIn_of_diverges fun start hs => h.diverges (service.callStarts_foreign start hs).2

/-- Comments, braces and the lines of routines call nothing. -/
theorem isInvokedIn_of_begins {text : String} (h : Begins ["//", "\x7b", "\x7d", "if (!", "_"] text)
    (service : Service) : service.isInvokedIn text = false := by
  have apart : (service.callStarts.all fun start => ["//", "\x7b", "\x7d", "if (!", "_"].all
      fun word => diverges start word.toList) = true := by
    cases service <;> decide
  refine Service.isInvokedIn_of_diverges fun start hs => ?_
  exact h.diverges (List.all_eq_true.mp apart start hs)


namespace Passage

/-- Whether a line of a passage begins with the call of a service. -/
def Invokes (p : Passage) (service : Service) : Prop :=
  ∃ text ∈ p.texts, service.isInvokedIn text = true

variable {service : Service}

theorem not_invokes_empty : ¬ empty.Invokes service := fun ⟨_, ht, _⟩ => List.not_mem_nil ht

theorem invokes_line {text : String} : (line text).Invokes service ↔ service.isInvokedIn text = true := by
  simp [Invokes, texts, lines]

theorem invokes_ite {chosen : Prop} [Decidable chosen] {p : Passage} :
    (if chosen then p else empty).Invokes service ↔ chosen ∧ p.Invokes service := by
  split
  next h => simp [h]
  next h => simp [h, not_invokes_empty]

theorem invokes_seq {first second : Passage} :
    (seq first second).Invokes service ↔ first.Invokes service ∨ second.Invokes service := by
  simp only [Invokes, texts_seq, List.mem_append, or_and_right, exists_or]

theorem invokes_concat {passages : List Passage} :
    (concat passages).Invokes service ↔ ∃ p ∈ passages, p.Invokes service := by
  simp only [Invokes, texts_concat, List.mem_flatMap]
  grind

theorem invokes_block {header : Option String} {body : Passage} :
    (block header body).Invokes service ↔
      (∃ text ∈ header, service.isInvokedIn text = true) ∨ body.Invokes service := by
  have opened : service.isInvokedIn "\x7b" = false := isInvokedIn_of_begins (by decide) service
  have closed : service.isInvokedIn "\x7d" = false := isInvokedIn_of_begins (by decide) service
  simp only [Invokes, texts_block, List.mem_append, List.mem_cons, Option.mem_toList, Option.mem_def,
    List.not_mem_nil, or_false]
  constructor
  · rintro ⟨text, above | rfl | inside | rfl, called⟩
    · exact .inl ⟨text, above, called⟩
    · cases opened.symm.trans called
    · exact .inr ⟨text, inside, called⟩
    · cases closed.symm.trans called
  · rintro (⟨text, above, called⟩ | ⟨text, inside, called⟩)
    · exact ⟨text, .inl above, called⟩
    · exact ⟨text, .inr (.inr (.inl inside)), called⟩

theorem invokes_guarded {guards : List String} {body : Passage} :
    (guarded guards body).Invokes service ↔
      (∃ guard ∈ guards, service.isInvokedIn ("if (" ++ guard ++ ")") = true) ∨
        body.Invokes service := by
  induction guards with
  | nil => simp [guarded]
  | cons guard guards ih =>
    change (block (some ("if (" ++ guard ++ ")")) (guarded guards body)).Invokes service ↔ _
    rw [invokes_block, ih]
    simp [or_assoc]

end Passage

/-- Effects that note what the services need that are called in the lines they write, and nothing
else. -/
def Accounted (ctx : Context) (effects : List Effect) : Prop :=
  ∀ name, .needNamespace name ∈ effects ↔
    ∃ service, (∃ text, .write (.line text) ∈ effects ∧ service.isInvokedIn text = true) ∧
      name ∈ ctx.needs service

theorem Accounted.append {effects more : List Effect} (h : Accounted ctx effects)
    (h' : Accounted ctx more) : Accounted ctx (effects ++ more) := by
  intro name
  simp only [List.mem_append, h name, h' name, or_and_right, exists_or]

theorem accounted_of_other {e : Effect} (hn : e.namespace? = none)
    (hl : ∀ text, e = .write (.line text) → ∀ service : Service, service.isInvokedIn text = false) :
    Accounted ctx [e] := by
  intro name
  constructor
  · intro noted
    cases List.mem_singleton.mp noted
    cases hn
  · rintro ⟨service, ⟨text, ht, called⟩, -⟩
    have own := hl text (List.mem_singleton.mp ht).symm service
    cases own.symm.trans called

namespace Lowered

variable {α β : Type} {used : Bool} {x : Lowered α}

theorem accounted_bind {f : α → Lowered β} (hx : Accounted ctx x.effects)
    (hf : ∀ a, x.result = .ok a → Accounted ctx (f a).effects) :
    Accounted ctx (x >>= f).effects := by
  cases hr : x.result with
  | ok a =>
    rw [bind_of_ok hr]
    exact hx.append (hf a hr)
  | error fault =>
    rw [bind_of_error hr]
    exact hx

/-- In static mode lowered code needs what the services need that it calls. -/
theorem Built.accounted (static : ctx.config.serviceMode = .static) (h : x.Built ctx names used) :
    Accounted ctx x.effects := by
  have nothing : Accounted ctx [] := by simp [Accounted]
  have written {piece : Piece} (hp : ∀ text, piece = .line text →
      ∀ service : Service, service.isInvokedIn text = false) : Accounted ctx [.write piece] :=
    accounted_of_other rfl fun text ht => hp text (Effect.write.inj ht)
  have enclosed {body : Lowered Unit} {piece : Piece} (hp : ∀ text, piece ≠ .line text)
      (hb : Accounted ctx body.effects) : Accounted ctx
        (do perform (.write piece); body; perform (.write .close) : Lowered Unit).effects :=
    accounted_bind (written fun text ht => absurd ht (hp text)) fun _ _ =>
      accounted_bind hb fun _ _ => written (by simp)
  induction h with
  | pure => exact nothing
  | ofExcept => exact nothing
  | @aside e he =>
    cases e with
    | write => cases he
    | needNamespace => cases he
    | _ => exact accounted_of_other rfl (by simp)
  | health => exact accounted_bind (accounted_of_other rfl (by simp)) fun _ _ => nothing
  | line phrase =>
    refine written fun text ht => ?_
    cases ht
    exact phrase.isInvokedIn
  | comment => exact written (by simp)
  | suspend => exact written (by simp)
  | call c =>
    intro name
    rw [callStatement_effects, static]
    simp [Service.isInvokedIn_render]
  | bind _ _ ih ih' => exact accounted_bind ih ih'
  | block _ _ ih => exact enclosed (by simp) ih
  | indented _ ih => exact enclosed (by simp) ih

/-- What is needed for code that stands in a passage. -/
theorem Built.needs_iff (static : ctx.config.serviceMode = .static) (h : x.Built ctx names used)
    {p : Passage} (hp : x.pieces = p.pieces) (name : String) :
    .needNamespace name ∈ x.effects ↔
      ∃ service, p.Invokes service ∧ name ∈ ctx.needs service := by
  have written (text : String) : .write (.line text) ∈ x.effects ↔ .line text ∈ x.pieces := by
    constructor
    · exact fun ht => List.mem_filterMap.mpr ⟨_, ht, rfl⟩
    · intro ht
      obtain ⟨e, he, own⟩ := List.mem_filterMap.mp ht
      cases e with
      | write piece =>
        cases own
        exact he
      | _ => cases own
  have same (service : Service) :
      (∃ text, .write (.line text) ∈ x.effects ∧ service.isInvokedIn text = true) ↔
        p.Invokes service := by
    constructor
    · rintro ⟨text, ht, called⟩
      rw [written, hp] at ht
      exact ⟨text, Passage.mem_texts.mpr ⟨_, ht, List.mem_singleton.mpr rfl⟩, called⟩
    · rintro ⟨text, ht, called⟩
      obtain ⟨piece, hm, own⟩ := Passage.mem_texts.mp ht
      rw [← hp] at hm
      have said := h.said piece hm
      have still (begins : Begins ["//", "\x7b", "\x7d", "if (!", "_"] text) : False := by
        cases (isInvokedIn_of_begins begins service).symm.trans called
      cases piece with
      | line other =>
        cases List.mem_singleton.mp own
        exact ⟨text, (written text).mpr hm, called⟩
      | comment about =>
        cases List.mem_singleton.mp own
        exact (still ⟨"//", by simp, by simp [Passage.commentText]⟩).elim
      | openBlock header =>
        rcases List.mem_append.mp own with above | brace
        · cases header with
          | none => cases above
          | some test =>
            cases List.mem_singleton.mp above
            cases (Heading.isInvokedIn said service).symm.trans called
        · have braces : ∀ brace ∈ ["\x7b", "\x7d"],
              Begins ["//", "\x7b", "\x7d", "if (!", "_"] brace := by decide
          exact (still (braces text brace)).elim
      | _ => cases own
  rw [h.accounted static name]
  simp only [same]

end Lowered

/-- Whether a line of an event's code begins with the call of a service, in a method or in a routine of
its own. -/
def Contribution.Invokes (c : Contribution) (service : Service) : Prop :=
  (∃ trigger, (c.passage trigger).Invokes service) ∨ ∃ r ∈ c.routine?, r.body.Invokes service

namespace Context

theorem Guards.needs_iff (static : ctx.config.serviceMode = .static) (named : ctx.Named)
    {index : Nat} {event : Event} {tests : List String} (h : ctx.Guards index event tests)
    (name : String) :
    .needNamespace name ∈ (ctx.guards index event).effects ↔
      ∃ service : Service, (∃ test ∈ tests, service.isInvokedIn ("if (" ++ test ++ ")") = true) ∧
        name ∈ ctx.needs service := by
  -- a condition writes nothing, so it has no call to account for
  have conditions (c : Condition) : .needNamespace name ∉ (ctx.lowerCondition c).effects := by
    have built : (ctx.lowerCondition c).Built ctx [] _ := lowerNamedCondition_built _ _ _
    intro noted
    obtain ⟨service, ⟨text, written, -⟩, -⟩ := (built.accounted static name).mp noted
    have silent : (ctx.lowerCondition c).IsSilent ctx.config := lowerNamedCondition_isSilent _ _ _
    cases silent _ written
  have unneeded : .needNamespace name ∉
      event.conditions.flatMap fun c => (ctx.lowerCondition c).effects := by
    intro noted
    obtain ⟨c, -, own⟩ := List.mem_flatMap.mp noted
    exact conditions c own
  have combined (parts : List String) (hp : List.Forall₂
      (fun c text => (ctx.lowerCondition c).result = .ok text) event.conditions parts)
      (service : Service) :
      service.isInvokedIn ("if (" ++ combine event.usesOr parts ++ ")") = false := by
    refine Heading.isInvokedIn (.tests (combine_tests _ fun part hm => ?_) rfl) service
    obtain ⟨c, -, own⟩ := exists_of_forall₂ hp part hm
    exact (lowerNamedCondition_form named own).tests
  have tested (service : Service) :
      (∃ test ∈ tests, service.isInvokedIn ("if (" ++ test ++ ")") = true) ↔
        ∃ test ∈ ctx.cooldownTests index event,
          service.isInvokedIn ("if (" ++ test ++ ")") = true := by
    obtain ⟨parts, hp, rfl⟩ := h
    split
    next => rfl
    next => simp [combined parts hp service]
  simp only [h.effects, List.mem_append, unneeded, false_or, tested]
  rcases ctx.cooldownTests_cases index event with none | ⟨key, seconds, some⟩
  · simp [none]
  · simp [some, static, Service.isInvokedIn_test, ServiceCall.service]

theorem Contributes.needs_iff (static : ctx.config.serviceMode = .static) (named : ctx.Named)
    {o : Occasion} (ho : o ∈ ctx.occasions) {c : Contribution} (h : ctx.Contributes o c)
    (name : String) :
    .needNamespace name ∈ ctx.occasionEffects o ↔
      ∃ service, c.Invokes service ∧ name ∈ ctx.needs service := by
  have captured : .needNamespace name ∈ (o.action ctx).capture.effects ↔
      .needNamespace name ∈ (o.action ctx).effects := by
    simp [capture, Effect.piece?]
  -- the code of an event is its action inside its guards
  have whole {trigger : Trigger} {guards : List String} {body : Passage}
      (handled : o.event.trigger? = some trigger) (acts : o.event.action.getD "" ≠ "")
      (guarded : ctx.Guards o.index o.event guards) (performs : ctx.Performs o body) :
      .needNamespace name ∈ ctx.occasionEffects o ↔ ∃ service,
        ((∃ test ∈ guards, service.isInvokedIn ("if (" ++ test ++ ")") = true) ∨
          body.Invokes service) ∧ name ∈ ctx.needs service := by
    have does : o.event.asNode.acts = true := by simpa [Node.acts, Event.asNode] using acts
    obtain ⟨_, -, built⟩ := eventAction_built named o.budget (event_mem_of_occasion ho)
    have body := built.needs_iff static performs.wrote.pieces name
    change .needNamespace name ∈ (o.action ctx).effects ↔ _ at body
    simp only [occasionEffects, handled, does, if_true, List.mem_append, captured, body,
      guarded.needs_iff static named, or_and_right, exists_or]
    exact or_comm
  cases h with
  | unhandled trigger =>
    have idle (service : Service) : ¬ (Contribution.unhandled (Text.trim o.event.trigger)).Invokes
        service := by
      rintro (⟨_, called⟩ | ⟨_, hr, -⟩)
      · exact Passage.not_invokes_empty called
      · cases hr
    simp [occasionEffects, trigger, idle]
  | nothing handled still =>
    have idle (service : Service) : ¬ Contribution.nothing.Invokes service := by
      rintro (⟨_, called⟩ | ⟨_, hr, -⟩)
      · exact Passage.not_invokes_empty called
      · cases hr
    have action : o.action ctx = Pure.pure () := lowerAction_idle still _
    have acts : o.event.asNode.acts = false := by simpa [Node.acts, Event.asNode] using still
    simp only [occasionEffects, handled, acts, action, idle]
    simp [capture, Pure.pure, Lowered.pure]
  | @inline trigger guards body handled acts guarded performs _ =>
    have calls (service : Service) : (Contribution.inline trigger guards body).Invokes service ↔
        (∃ test ∈ guards, service.isInvokedIn ("if (" ++ test ++ ")") = true) ∨
          body.Invokes service := by
      simp [Contribution.Invokes, Contribution.passage, Contribution.routine?, Passage.invokes_ite,
        Passage.invokes_guarded]
    simp only [whole handled acts guarded performs, calls]
  | @routine guards r handled acts guarded performs _ =>
    have test : Begins ["//", "\x7b", "\x7d", "if (!", "_"] "if (!" := by decide
    have starting (service : Service) : service.isInvokedIn r.call = false :=
      isInvokedIn_of_begins (begins_foldl test [_, _, _, _]) service
    have calls (service : Service) : (Contribution.routine guards r).Invokes service ↔
        (∃ test ∈ guards, service.isInvokedIn ("if (" ++ test ++ ")") = true) ∨
          r.body.Invokes service := by
      simp [Contribution.Invokes, Contribution.passage, Contribution.routine?, Passage.invokes_ite,
        Passage.invokes_guarded, Passage.invokes_line, starting]
    simp only [whole handled acts guarded performs, calls]

namespace Assembly

theorem invokes_iff (named : ctx.Named) (s : ctx.Assembly) (service : Service) :
    (∃ m ∈ s.code.methods, m.body.Invokes service) ↔
      s.start.Invokes service ∨ ∃ c ∈ s.contributions, c.Invokes service := by
  have contributed (trigger : Trigger) :
      (Passage.concat (s.contributions.map (Contribution.passage trigger))).Invokes service ↔
        ∃ c ∈ s.contributions, (c.passage trigger).Invokes service := by
    simp [Passage.invokes_concat]
  have filled {p : Passage} (h : p.Invokes service) : p.lines ≠ [] := by
    obtain ⟨text, ht, -⟩ := h
    exact fun none => by simp [Passage.texts, none] at ht
  constructor
  · have all : ∀ m ∈ s.code.methods, m.body.Invokes service →
        s.start.Invokes service ∨ ∃ c ∈ s.contributions, c.Invokes service := by
      have still {p : Passage} (h : ∀ text ∈ p.texts, Phrase ctx [] text) : ¬ p.Invokes service := by
        rintro ⟨text, ht, called⟩
        cases ((h text ht).isInvokedIn service).symm.trans called
      have event {trigger : Trigger} (h : (Passage.concat (s.contributions.map
          (Contribution.passage trigger))).Invokes service) :
          ∃ c ∈ s.contributions, c.Invokes service := by
        obtain ⟨c, hc, called⟩ := (contributed trigger).mp h
        exact ⟨c, hc, .inl ⟨trigger, called⟩⟩
      refine s.forall_methods ?_ ?_ ?_ ?_ ?_ ?_
      · exact fun called => absurd called (still awake_phrase)
      · exact fun m hm called => absurd called (still (initialize_phrase m hm))
      · intro called
        exact (Passage.invokes_seq.mp called).imp id event
      · exact fun hook called => .inr (event called)
      · exact fun m hm called => absurd called (still (damage_phrase named m hm))
      · intro r hr called
        have marks (rest : String) : service.isInvokedIn (r.flag ++ rest) = false :=
          isInvokedIn_of_begins ((r.begins_flag rest).mono (by decide)) service
        obtain ⟨c, hc, own⟩ := List.mem_filterMap.mp hr
        refine .inr ⟨c, hc, .inr ⟨r, own, ?_⟩⟩
        simpa [RoutineCode.method, Passage.invokes_seq, Passage.invokes_line, marks] using called
    rintro ⟨m, hm, called⟩
    exact all m hm called
  · rintro (called | ⟨c, hc, ⟨trigger, called⟩ | ⟨r, hr, called⟩⟩)
    · have whole : s.startBody.Invokes service := Passage.invokes_seq.mpr (.inl called)
      exact ⟨_, s.start_mem (filled whole), whole⟩
    · have part := (contributed trigger).mpr ⟨c, hc, called⟩
      cases trigger with
      | start =>
        have whole : s.startBody.Invokes service := Passage.invokes_seq.mpr (.inr part)
        exact ⟨_, s.start_mem (filled whole), whole⟩
      | hook hook => exact ⟨_, s.hook_mem (filled part), part⟩
    · have mine : r ∈ s.routines := List.mem_filterMap.mpr ⟨c, hc, hr⟩
      exact ⟨_, s.routine_mem mine, Passage.invokes_seq.mpr (.inr (Passage.invokes_seq.mpr (.inl called)))⟩

/-- In static mode the methods of a class need what the services need that they call. -/
theorem needs_iff (static : ctx.config.serviceMode = .static) (named : ctx.Named) (s : ctx.Assembly)
    {b : Bodies} (hb : ctx.bodies.result = .ok b) (name : String) :
    .needNamespace name ∈ ctx.bodies.effects ↔ ∃ service,
      (∃ m ∈ s.code.methods, m.body.Invokes service) ∧ name ∈ ctx.needs service := by
  obtain ⟨_, -, built⟩ := lowerStart_built named ctx.config.maxEmittedNodes
  have started := built.needs_iff static s.starts.pieces name
  have captured : .needNamespace name ∈
      (ctx.lowerStart ctx.config.maxEmittedNodes).capture.effects ↔
        .needNamespace name ∈ (ctx.lowerStart ctx.config.maxEmittedNodes).effects := by
    simp [capture, Effect.piece?]
  have events : .needNamespace name ∈ ctx.occasions.flatMap ctx.occasionEffects ↔
      ∃ service, (∃ c ∈ s.contributions, c.Invokes service) ∧ name ∈ ctx.needs service := by
    rw [List.mem_flatMap]
    constructor
    · rintro ⟨o, ho, own⟩
      obtain ⟨c, hc, contributes⟩ := exists_of_forall₂ s.contributes.flip o ho
      obtain ⟨service, called, needed⟩ := (contributes.needs_iff static named ho name).mp own
      exact ⟨service, ⟨c, hc, called⟩, needed⟩
    · rintro ⟨service, ⟨c, hc, called⟩, needed⟩
      obtain ⟨o, ho, contributes⟩ := exists_of_forall₂ s.contributes c hc
      exact ⟨o, ho, (contributes.needs_iff static named ho name).mpr ⟨service, called, needed⟩⟩
  simp only [bodies_effects named hb, List.mem_append, captured, started, events, s.invokes_iff named,
    or_and_right, exists_or]

end Assembly

end Context

theorem mem_namespaces {effects : List Effect} {name : String} :
    name ∈ effects.filterMap Effect.namespace? ↔ .needNamespace name ∈ effects := by
  constructor
  · intro hn
    obtain ⟨e, he, own⟩ := List.mem_filterMap.mp hn
    cases e with
    | needNamespace other =>
      cases own
      exact he
    | _ => cases own
  · exact fun hn => List.mem_filterMap.mpr ⟨_, hn, rfl⟩

namespace Context

/-- The further namespaces of a file with static calls. -/
theorem Assembly.mem_further (static : ctx.config.serviceMode = .static) (named : ctx.Named)
    (s : ctx.Assembly) {b : Bodies} (hb : ctx.bodies.result = .ok b) {name : String} :
    name ∈ extraNamespaces ctx.config (Facts.none.after ctx.bodies.effects) ↔
      (∃ service, (∃ m ∈ s.code.methods, m.body.Invokes service) ∧ name ∈ ctx.needs service) ∧
        name ∉ baseNamespaces := by
  have noted : name ∈ (Facts.none.after ctx.bodies.effects).namespaces ↔
      .needNamespace name ∈ ctx.bodies.effects := mem_namespaces
  have direct : ctx.config.usesContext = false := by simp [Config.usesContext, static]
  rw [mem_extraNamespaces, noted, s.needs_iff static named hb]
  simp [direct]

end Context

/-- Whether a service is called as a static method anywhere in the code of a text. -/
def Service.isCalledIn (service : Service) (text : String) : Bool :=
  (signs text).any (Sign.isCallOf service.method)

/-- Whether a service is called anywhere in a passage. -/
def Passage.Calls (p : Passage) (service : Service) : Prop :=
  ∃ text ∈ p.texts, service.isCalledIn text = true

namespace Service

theorem isCalledIn_of_isInvokedIn {service : Service} {text : String}
    (h : service.isInvokedIn text = true) : service.isCalledIn text = true := by
  have seen : (service.callStarts.all fun start =>
      (Reader.fresh.signs start).any (Sign.isCallOf service.method)) = true := by
    cases service <;> decide
  obtain ⟨start, hs, begins⟩ := List.any_eq_true.mp h
  obtain ⟨rest, whole⟩ := List.isPrefixOf_iff_prefix.mp begins
  rw [isCalledIn, signs, ← whole, Reader.signs_append, List.any_append,
    List.all_eq_true.mp seen start hs, Bool.true_or]

theorem not_isCallOf_of_isPlain (service : Service) {sign : Sign} (h : sign.isPlain = true) :
    sign.isCallOf service.method = false :=
  Sign.not_isCallOf_of_isPlain h (List.mem_cons_of_mem _ (List.mem_map_of_mem service.mem_all))

theorem eq_of_isOf {service other : Service} {sign : Sign} (h : sign.isOf other = true)
    (called : sign.isCallOf service.method = true) : service = other := by
  have apart : (all.all fun s => all.all fun t => s == t ||
      !s.method.isSuffixOf t.method) = true := by decide
  cases sign with
  | call name =>
    rcases Bool.or_eq_true_iff.mp h with plain | own
    · cases (service.not_isCallOf_of_isPlain plain).symm.trans called
    · rw [← eq_of_beq own] at called
      have known := List.all_eq_true.mp (List.all_eq_true.mp apart service service.mem_all) other
        other.mem_all
      have suffix : service.method.isSuffixOf other.method = true := called
      simpa [suffix] using known
  | _ => cases called

end Service

/-- Where a service is called in a line of a method, the line begins with the call. -/
theorem Utters.isInvokedIn {animations : List String} {text : String}
    (h : Utters ctx animations text) {service : Service} (called : service.isCalledIn text = true) :
    service.isInvokedIn text = true := by
  obtain ⟨sign, hs, own⟩ := List.any_eq_true.mp called
  cases h with
  | plain plain =>
    cases (service.not_isCallOf_of_isPlain (List.all_eq_true.mp plain sign hs)).symm.trans own
  | @plays animation =>
    have apart : Shows (fun sign => !sign.isCallOf service.method) (playText animation) := by
      cases service <;>
        exact shows_join (.given _) [.part _ (sound_quote _), .given _, .given _] rfl
    have other := List.all_eq_true.mp apart sign hs
    rw [own] at other
    cases other
  | serves c _ sound =>
    have shown : Shows (Sign.isOf c.service) (c.render .static ++ ";") :=
      shows_join (.part _ (ServiceCall.sound_renderStatic sound)) [.given _] rfl
    exact (Service.isInvokedIn_render c ";" service).mpr
      (Service.eq_of_isOf (List.all_eq_true.mp shown sign hs) own)
  | gate c _ sound =>
    have shown : Shows (Sign.isOf c.service) ("if (" ++ c.render .static ++ ")") :=
      shows_join (.given _) [.part _ (ServiceCall.sound_renderStatic sound), .given _] rfl
    exact (Service.isInvokedIn_test c service).mpr
      (Service.eq_of_isOf (List.all_eq_true.mp shown sign hs) own)

theorem Passage.calls_iff_invokes {animations : List String} {p : Passage}
    (h : ∀ text ∈ p.texts, Utters ctx animations text) {service : Service} :
    p.Calls service ↔ p.Invokes service := by
  constructor
  · rintro ⟨text, ht, called⟩
    exact ⟨text, ht, (h text ht).isInvokedIn called⟩
  · rintro ⟨text, ht, invoked⟩
    exact ⟨text, ht, Service.isCalledIn_of_isInvokedIn invoked⟩

/-- A file begins with a remark and then imports two namespaces that are always the same and further
ones in increasing order, none of them twice. In static mode the namespace of the runtime is among
the further ones if and only if a service is called anywhere in a method, be it in a statement or in a
guard, and what the call of a service needs besides is imported, if the keys that the entity asks for
are names. Where calls go through a context the namespace of the runtime is always imported. -/
theorem assemble_imports {draft : Config.Draft} {config : Config} (valid : draft.check = .ok config)
    {entity : Entity} {a : Artifact} (h : (assemble config entity).result = .ok (some a)) :
    ∃ (w : Writer) (s : (Context.of entity config).Assembly) (remark : String)
      (further : List String),
      (Context.of entity config).classWriter.result = .ok w ∧
      a.source = w.render config.indent ++ "\n" ∧
      w.lines.toList = s.code.passage.lines ∧
      s.code.header.texts = ["// <auto-generated>", "// " ++ remark, "// </auto-generated>"] ++
        (["UnityEngine", "System.Collections"] ++ further).map
          (fun name => "using " ++ name ++ ";") ++ [""] ∧
      further.Pairwise (· < ·) ∧ (["UnityEngine", "System.Collections"] ++ further).Nodup ∧
      (config.serviceMode = .static → (∀ key ∈ entity.inputKeys, Qualified (Key.member key)) →
        (config.runtimeNamespace ∉ ["UnityEngine", "System.Collections"] →
          (config.runtimeNamespace ∈ further ↔
            ∃ m ∈ s.code.methods, ∃ service, m.body.Calls service)) ∧
        ∀ m ∈ s.code.methods, ∀ service, m.body.Calls service → ∀ name ∈ service.namespaces,
          name ∈ ["UnityEngine", "System.Collections"] ++ further) ∧
      (config.serviceMode = .context →
        config.runtimeNamespace ∈ ["UnityEngine", "System.Collections"] ++ further) := by
  have named := Context.of_named valid entity
  obtain ⟨w, s, hw, source, rfl⟩ := assemble_assembly valid h
  obtain ⟨b, hb, -, -⟩ := Context.classWriter_result hw
  have ⟨he, hc⟩ := Context.of_fields entity config
  let ctx := Context.of entity config
  let facts := Facts.none.after ctx.bodies.effects
  obtain ⟨about, header⟩ := ctx.header_texts facts
  have increasing := extraNamespaces_sorted ctx.config facts
  have apart : ∀ name ∈ extraNamespaces ctx.config facts, name ∉ baseNamespaces :=
    fun name hn => (mem_extraNamespaces.mp hn).2
  have once : (baseNamespaces ++ extraNamespaces ctx.config facts).Nodup := by
    refine List.nodup_append.mpr ⟨by decide, increasing.imp fun less => ?_, fun base hb name hn => ?_⟩
    · rintro rfl
      exact String.lt_irrefl _ less
    · rintro rfl
      exact apart _ hn hb
  refine ⟨_, s, Text.flatten about, extraNamespaces ctx.config facts, hw, source, Writer.lines_run _,
    header, increasing, once, fun static keys => ?_, fun context => ?_⟩
  · have mode : ctx.config.serviceMode = .static := by rw [hc, static]
    have runtime (service : Service) : config.runtimeNamespace ∈ ctx.needs service := by
      rw [Context.needs, mode, ← hc]
      exact List.mem_cons_self
    obtain ⟨animations, listed⟩ := ctx.entity.exists_isListedBy
    have invoked {m : Method} (hm : m ∈ s.code.methods) {service : Service} :
        m.body.Calls service ↔ m.body.Invokes service :=
      Passage.calls_iff_invokes (s.bodies_utter named (by rwa [he]) listed m hm)
    refine ⟨fun extra => ?_, fun m hm service called name hn => ?_⟩
    · rw [s.mem_further mode named hb]
      constructor
      · rintro ⟨⟨service, ⟨m, hm, called⟩, -⟩, -⟩
        exact ⟨m, hm, service, (invoked hm).mpr called⟩
      · rintro ⟨m, hm, service, called⟩
        exact ⟨⟨service, ⟨m, hm, (invoked hm).mp called⟩, runtime service⟩, extra⟩
    · have needed : name ∈ ctx.needs service := by simp [Context.needs, mode, hn]
      by_cases base : name ∈ baseNamespaces
      · exact List.mem_append_left _ base
      · exact List.mem_append_right _ ((s.mem_further mode named hb).mpr
          ⟨⟨service, ⟨m, hm, (invoked hm).mp called⟩, needed⟩, base⟩)
  · have used : ctx.config.usesContext = true := by simp [Config.usesContext, ctx, hc, context]
    by_cases base : config.runtimeNamespace ∈ baseNamespaces
    · exact List.mem_append_left _ base
    · have own : config.runtimeNamespace = ctx.config.runtimeNamespace := by simp [ctx, hc]
      exact List.mem_append_right _ (mem_extraNamespaces.mpr ⟨.inr ⟨used, own⟩, base⟩)

/-- Default settings, but with static calls. -/
def staticDraft : Config.Draft :=
  { Config.Draft.default with serviceMode := "static" }

theorem assemble_imports_asking :
    ∃ config a, staticDraft.check = .ok config ∧ config.serviceMode = .static ∧
      (assemble config (askingEntity "KeyW")).result = .ok (some a) ∧
      ∃ (s : (Context.of (askingEntity "KeyW") config).Assembly) (further : List String),
        config.runtimeNamespace ∈ further ∧ further.Pairwise (· < ·) ∧
        ∃ m ∈ s.code.methods, ∃ service, m.body.Calls service := by
  have lowered : (staticDraft.check.toOption.map fun config =>
      (Context.of (askingEntity "KeyW") config).bodies.effects.filterMap Effect.namespace?) =
        some ["Uniforge.FastTrack.Runtime"] := by
    decide +kernel
  obtain ⟨config, valid, static, runtime⟩ : ∃ config, staticDraft.check = .ok config ∧
      config.serviceMode = .static ∧ config.runtimeNamespace = "Uniforge.FastTrack.Runtime" :=
    ⟨_, rfl, rfl, rfl⟩
  have keys : ∀ key ∈ (askingEntity "KeyW").inputKeys, Qualified (Key.member key) := by decide
  obtain ⟨a, ha⟩ := askingEntity_assembles config "KeyW"
  obtain ⟨w, s, _, further, hw, -, -, -, increasing, -, calls, -⟩ := assemble_imports valid ha
  obtain ⟨b, hb, -, -⟩ := Context.classWriter_result hw
  have mode : (Context.of (askingEntity "KeyW") config).config.serviceMode = .static := by
    rw [(Context.of_fields (askingEntity "KeyW") config).2, static]
  rw [valid] at lowered
  have noted : .needNamespace config.runtimeNamespace ∈
      (Context.of (askingEntity "KeyW") config).bodies.effects := by
    have all : (Context.of (askingEntity "KeyW") config).bodies.effects.filterMap
        Effect.namespace? = ["Uniforge.FastTrack.Runtime"] := Option.some.inj lowered
    rw [← mem_namespaces, runtime, all]
    exact List.mem_singleton.mpr rfl
  obtain ⟨service, ⟨m, hm, text, ht, invoked⟩, -⟩ :=
    (s.needs_iff mode (Context.of_named valid (askingEntity "KeyW")) hb _).mp noted
  have called : m.body.Calls service := ⟨text, ht, Service.isCalledIn_of_isInvokedIn invoked⟩
  have extra : config.runtimeNamespace ∉ ["UnityEngine", "System.Collections"] := by
    rw [runtime]
    decide
  exact ⟨config, a, valid, static, ha, s, further,
    ((calls static keys).1 extra).mpr ⟨m, hm, service, called⟩, increasing, m, hm, service, called⟩

/-- A key can call a service for which nothing is imported. -/
def callingKey : String := "A)) EventBus.Emit(\"x\"); if ((true"

theorem callingKey_not_imported :
    ∃ config a w, staticDraft.check = .ok config ∧
      (assemble config (pressedEntity "door" callingKey)).result = .ok (some a) ∧
      (Context.of (pressedEntity "door" callingKey) config).classWriter.result = .ok w ∧
      a.source = w.render config.indent ++ "\n" ∧ config.serviceMode = .static ∧
      (∃ line ∈ w.lines.toList, Service.emitSignal.isCalledIn line.text = true) ∧
      ∀ line ∈ w.lines.toList, line.text ≠ "using " ++ config.runtimeNamespace ++ ";" := by
  have found : (do
      let config ← staticDraft.check.toOption
      let w ← (Context.of (pressedEntity "door" callingKey) config).classWriter.result.toOption
      return config.serviceMode == .static &&
        (w.lines.toList.any (fun line => Service.emitSignal.isCalledIn line.text) &&
          w.lines.toList.all fun line =>
            line.text != "using " ++ config.runtimeNamespace ++ ";")) = some true := by
    decide +kernel
  obtain ⟨config, a, w, valid, ha, hw, source, found⟩ := pressedEntity_source found
  simp only [Bool.and_eq_true, List.any_eq_true, List.all_eq_true, bne_iff_ne, beq_iff_eq] at found
  obtain ⟨static, called, missing⟩ := found
  exact ⟨config, a, w, valid, ha, hw, source, static, called, missing⟩

end GraphScript
