import GraphScript.Proofs.Diagnostic
import GraphScript.Proofs.Placement
import GraphScript.Proofs.Remark

namespace GraphScript

open Lowered CSharp

/-- An effect that tells of no decision, in neither way. -/
structure Effect.IsCasual (e : Effect) : Prop where
  record : ∀ r, e.record? = some r → Diagnostic.ofRecord? r = none
  piece : ∀ piece, e.piece? = some piece → piece.diagnostic? = none

theorem Effect.isCasual_aside {e : Effect} (hr : e.record? = none) (hp : e.piece? = none) :
    e.IsCasual := by
  constructor
  · intro r own
    rw [hr] at own
    cases own
  · intro piece own
    rw [hp] at own
    cases own

namespace Lowered

/-- What the records tell is what the code tells, and it is about the entity. -/
structure Paired (entity : String) {α : Type} (x : Lowered α) : Prop where
  told : x.records.filterMap Diagnostic.ofRecord? = x.pieces.filterMap Piece.diagnostic?
  owned : ∀ r ∈ x.records, (Diagnostic.ofRecord? r).isSome → r.lookup "entity_id" = some (.text entity)

variable {entity : String} {α β : Type}

theorem Paired.bind {x : Lowered α} {f : α → Lowered β} (h : x.Paired entity)
    (h' : ∀ a, x.result = .ok a → (f a).Paired entity) : (x >>= f).Paired entity := by
  cases hx : x.result with
  | error fault =>
    rw [bind_of_error hx]
    exact ⟨h.told, h.owned⟩
  | ok a =>
    have rest := h' a hx
    have records : (x >>= f).records = x.records ++ (f a).records := records_of_ok hx f
    have pieces : (x >>= f).pieces = x.pieces ++ (f a).pieces := pieces_of_ok hx f
    constructor
    · rw [records, pieces, List.filterMap_append, List.filterMap_append, h.told, rest.told]
    · rw [records]
      exact fun r hr => (List.mem_append.mp hr).elim (h.owned r) (rest.owned r)

theorem Paired.ite {c : Prop} [Decidable c] {x y : Lowered α} (h : x.Paired entity)
    (h' : y.Paired entity) : (if c then x else y).Paired entity := by
  split
  next => exact h
  next => exact h'

/-- Nothing is told if no effect tells anything. -/
theorem paired_of_within {x : Lowered α} (h : x.Within Effect.IsCasual) : x.Paired entity := by
  have recorded : ∀ r ∈ x.records, Diagnostic.ofRecord? r = none := by
    intro r hr
    obtain ⟨e, he, own⟩ := List.mem_filterMap.mp hr
    exact (h e he).record r own
  have written : ∀ piece ∈ x.pieces, piece.diagnostic? = none := by
    intro piece hp
    obtain ⟨e, he, own⟩ := List.mem_filterMap.mp hp
    exact (h e he).piece piece own
  refine ⟨?_, fun r hr told => ?_⟩
  · rw [List.filterMap_eq_nil_iff.mpr recorded, List.filterMap_eq_nil_iff.mpr written]
  · rw [recorded r hr] at told
    cases told

theorem paired_aside {e : Effect} (hr : e.record? = none) (hp : e.piece? = none) :
    (perform e).Paired entity :=
  paired_of_within ((within_perform e).mpr (Effect.isCasual_aside hr hp))

theorem paired_write {piece : Piece} (h : piece.diagnostic? = none) :
    (perform (.write piece)).Paired entity := by
  refine paired_of_within ((within_perform _).mpr ⟨fun r own => ?_, fun other own => ?_⟩)
  · cases own
  · cases own
    exact h

theorem Paired.block {header : Option String} {body : Lowered Unit} (hh : ∀ text ∈ header, Heading text)
    (h : body.Paired entity) : (block header body).Paired entity := by
  have told : (Piece.openBlock header).diagnostic? = none := by
    cases header with
    | none => rfl
    | some text => exact (hh text rfl).ofLine?
  exact (paired_write told).bind fun _ _ => h.bind fun _ _ => paired_write rfl

/-- A decision is recorded, and the comment that it leaves tells the same. -/
theorem fallback_paired (f : Fallback) : (fallback entity f).Paired entity := by
  have owned : ∀ r ∈ [f.record entity], (Diagnostic.ofRecord? r).isSome →
      r.lookup "entity_id" = some (.text entity) := by
    intro r hr _
    cases List.mem_singleton.mp hr
    rfl
  unfold fallback
  cases hc : f.comment? with
  | none =>
    refine ⟨?_, owned⟩
    change [f.record entity].filterMap Diagnostic.ofRecord? = []
    rw [List.filterMap_cons, f.ofRecord?_record, Fallback.diagnostic?_of_silent hc]
    rfl
  | some text =>
    refine ⟨?_, owned⟩
    change [f.record entity].filterMap Diagnostic.ofRecord? =
      [Piece.comment text].filterMap Piece.diagnostic?
    rw [List.filterMap_cons, List.filterMap_cons, f.ofRecord?_record, Piece.diagnostic?,
      Fallback.ofLine?_comment hc]
    rfl

end Lowered

/-- The remarks of actions tell of no decision. -/
theorem ofLine?_of_remark {text : String} (h : Begins actionRemarks text) :
    Diagnostic.ofLine? (Passage.commentText text) = none := by
  have known : (remarkWords.all fun word => !(Text.words word).isEmpty &&
      Text.flatten word == word && Diagnostic.all.all fun d =>
        diverges d.start ("// ".toList ++ word.toList)) = true := by decide
  obtain ⟨start, hs, rest, hr⟩ := h
  obtain ⟨word, hw, rfl⟩ := List.mem_map.mp hs
  have checked := List.all_eq_true.mp known word hw
  simp only [Bool.and_eq_true, Bool.not_eq_true', List.isEmpty_eq_false_iff, beq_iff_eq] at checked
  obtain ⟨⟨given, orderly⟩, apart⟩ := checked
  have whole : text = word ++ " " ++ String.ofList rest := by
    rw [← String.toList_inj, ← hr]
    simp
  rw [whole]
  refine Diagnostic.ofLine?_remark given orderly (fun d => ?_) _
  exact List.all_eq_true.mp apart d (by cases d <;> decide)

/-- Statements that only remark on what they do tell nothing. -/
theorem Lowered.Built.paired {ctx : Context} {names animations : List String} {used : Bool}
    {α : Type} {x : Lowered α} (h : x.Built ctx names used)
    (remarked : x.Within (Effect.OfAction ctx animations)) (entity : String) : x.Paired entity := by
  refine paired_of_within fun e he => ⟨fun r hr => ?_, fun piece hp => ?_⟩
  · have remark := remarked e he
    cases e with
    | fallback owner f =>
      cases hr
      rw [f.ofRecord?_record, Fallback.diagnostic?_of_silent remark]
    | record => exact absurd remark id
    | _ => cases hr
  · have said := h.said piece (List.mem_filterMap.mpr ⟨e, he, hp⟩)
    have remark := remarked e he
    cases e with
    | write written =>
      cases hp
      cases piece with
      | comment text => exact ofLine?_of_remark remark
      | _ => exact said.diagnostic? (by simp)
    | _ => cases hp

namespace Context

variable {ctx : Context}

/-- An action tells what the modules tell that it runs, or that it is unknown. -/
theorem lowerAction_paired (named : ctx.Named) {entity : String} (own : entity = ctx.entity.id)
    {inline : Inline} (h : ∀ run, inline = some run → ∀ id, (run id).Paired entity)
    (action : Option String) (params : Params) :
    (ctx.lowerAction inline action params).Paired entity := by
  have known (kind : ActionKind) :
      (ctx.lowerActionKind (some fun _ => Pure.pure ()) params kind).Paired entity := by
    have built : (ctx.lowerActionKind (some fun _ => Pure.pure ()) params kind).Built ctx
        [(SetVarParams.form.coerce params).2.name] kind.usesHealth :=
      lowerActionKind_built named params kind fun _ => List.mem_singleton_self _
    have remarked : (ctx.lowerActionKind (some fun _ => Pure.pure ()) params kind).Within
        (Effect.OfAction ctx [(PlayAnimationParams.form.coerce params).2.animationName]) :=
      lowerActionKind_ofAction named params kind fun _ _ => List.mem_singleton_self _
    exact built.paired remarked entity
  have runs : (ctx.lowerActionKind inline params .runModule).Paired entity := by
    have read : (readParams RunModuleParams.form params).Paired entity :=
      paired_of_within (readParams_within (fun _ => Effect.isCasual_aside rfl rfl) _ _)
    refine read.bind fun p _ => ?_
    have remarked : (Piece.comment ("RunModule: " ++ p.moduleId)).diagnostic? = none :=
      ofLine?_of_remark (begins_foldl (by decide : Begins actionRemarks "RunModule: ") [_])
    refine (paired_write remarked).bind fun _ _ => .ite (paired_aside rfl rfl) ?_
    cases inline with
    | none => exact paired_aside rfl rfl
    | some run => exact h run rfl _
  unfold lowerAction
  cases action with
  | none => exact paired_of_within (within_pure _)
  | some name =>
    refine .ite (paired_of_within (within_pure _)) ?_
    cases ActionKind.ofName? name with
    | none =>
      rw [← own]
      exact fallback_paired _
    | some kind =>
      refine (paired_aside rfl rfl).bind fun _ _ => ?_
      by_cases called : kind = .runModule
      · rw [called]
        exact runs
      · have same : ctx.lowerActionKind inline params kind =
            ctx.lowerActionKind (some fun _ => Pure.pure ()) params kind := by
          cases kind with
          | runModule => exact absurd rfl called
          | _ => rfl
        rw [same]
        exact known kind

/-- A walk tells what its parts tell, and where it was cut. -/
theorem lowerWalk_paired (named : ctx.Named) (walk : Walk) :
    (ctx.lowerWalk walk).Paired ctx.entity.id := by
  induction walk with
  | done => exact paired_of_within (within_pure _)
  | cut reason => exact fallback_paired reason
  | stop visit => exact paired_aside rfl rfl
  | pass visit rest ih =>
    refine (paired_aside rfl rfl).bind fun _ _ => ?_
    dsimp only
    split
    next => exact (paired_aside rfl rfl).bind fun _ _ => ih
    next => exact ih
  | perform visit inlined rest ihi ih =>
    refine (paired_aside rfl rfl).bind fun _ _ => ?_
    refine (lowerAction_paired named rfl (fun run hr id => ?_) _ _).bind fun _ _ => ih
    cases hr
    exact ihi
  | branch visit yes no ihy ihn =>
    have silent : (ctx.lowerConditionNode visit.node).Paired ctx.entity.id := by
      refine paired_of_within (lowerConditionNode_within ?_ ?_ ?_ visit.node)
      · exact fun _ => Effect.isCasual_aside rfl rfl
      · exact Effect.isCasual_aside rfl rfl
      · refine fun f hf => ⟨fun r hr => ?_, fun _ hp => by cases hp⟩
        cases hr
        rw [f.ofRecord?_record, Fallback.diagnostic?_of_silent hf]
    have other : Heading "else" := .opened (by decide)
    refine (paired_aside rfl rfl).bind fun _ _ => silent.bind fun text ht => ?_
    have test : Heading ("if (" ++ text ++ ")") := .tests (lowerConditionNode_form named ht).tests rfl
    exact (Paired.block (by simpa using test) ihy).bind fun _ _ => .block (by simpa using other) ihn

end Context

/-- The lines that a lowering adds to any code tell of the same decisions as its records, one by one,
and these records are about the entity. -/
structure Lowered.Reports (entity : String) (x : Lowered Unit) : Prop where
  matched : ∀ w : Writer, ∃ added, (w.run x.pieces).lines.toList = w.lines.toList ++ added ∧
    x.records.filterMap Diagnostic.ofRecord? =
      added.filterMap fun line => Diagnostic.ofLine? line.text
  owned : ∀ r ∈ x.records, (Diagnostic.ofRecord? r).isSome → r.lookup "entity_id" = some (.text entity)

theorem Lowered.reports_iff {entity : String} {x : Lowered Unit} :
    x.Reports entity ↔ x.Paired entity := by
  constructor
  · intro h
    obtain ⟨added, lines, told⟩ := h.matched (Writer.new 0)
    obtain ⟨added', lines', told'⟩ := (Writer.new 0).run_diagnostics x.pieces
    obtain rfl : added = added' := List.append_cancel_left (lines.symm.trans lines')
    exact ⟨told.trans told', h.owned⟩
  · intro h
    refine ⟨fun w => ?_, h.owned⟩
    obtain ⟨added, lines, told⟩ := w.run_diagnostics x.pieces
    exact ⟨added, lines, h.told.trans told.symm⟩

/-- Actions, walks and runs of modules report each decision that cuts code short: it is recorded for
the entity, and a comment of the same kind stands in the code, in the same order. -/
theorem diagnostics_match_records {draft : Config.Draft} {config : Config}
    (valid : draft.check = .ok config) (entity : Entity) :
    (∀ inline action params,
      (∀ run, inline = some run → ∀ id, (run id).Reports entity.id) →
        ((Context.of entity config).lowerAction inline action params).Reports entity.id) ∧
    (∀ budget path module start,
      ((Context.of entity config).traverse budget path module start).Reports entity.id) ∧
    ∀ budget path id, ((Context.of entity config).lowerWalk
      ((Context.of entity config).planModule budget path id)).Reports entity.id := by
  have named := Context.of_named valid entity
  have ⟨own, _⟩ := Context.of_fields entity config
  have walks (walk : Walk) : ((Context.of entity config).lowerWalk walk).Reports entity.id := by
    have paired := Context.lowerWalk_paired named walk
    rw [own] at paired
    exact reports_iff.mpr paired
  refine ⟨fun inline action params h => ?_, fun _ _ _ _ => walks _, fun _ _ _ => walks _⟩
  refine reports_iff.mpr (Context.lowerAction_paired named (by rw [own]) ?_ action params)
  exact fun run hr id => reports_iff.mp (h run hr id)

/-- An entity whose first module comes back to itself, past an action that is unknown and past modules
that cannot be run. -/
def strayEntity : Entity :=
  { busyEntity with
    modules :=
      [.make "loop" "" none
        [⟨"in", "Entry", none, []⟩, ⟨"fly", "Action", some "Fly", []⟩,
         ⟨"gone", "Action", some "RunModule", [("moduleId", .text "gone")]⟩,
         ⟨"again", "Action", some "RunModule", [("moduleId", .text "loop")]⟩,
         ⟨"bare", "Action", some "RunModule", [("moduleId", .text "bare")]⟩]
        [⟨none, some "in", some "out", some "fly", none⟩,
         ⟨none, some "fly", some "out", some "gone", none⟩,
         ⟨none, some "gone", some "out", some "again", none⟩,
         ⟨none, some "again", some "out", some "bare", none⟩,
         ⟨none, some "bare", some "out", some "in", none⟩],
       .make "bare" "" none [] []] }

theorem diagnostics_match_records_stray :
    ∃ config x, Config.Draft.default.check = .ok config ∧
      (Context.of strayEntity config).runModule 9 "loop" = x ∧ x.Reports "guard" ∧
      x.records.filterMap Diagnostic.ofRecord? =
        [.unknownAction, .missingModule, .recursiveModule, .missingEntry, .cycle] := by
  obtain ⟨config, valid⟩ : ∃ config, Config.Draft.default.check = .ok config := ⟨_, rfl⟩
  have told : Config.Draft.default.check.toOption.map (fun config =>
      ((Context.of strayEntity config).runModule 9 "loop").records.filterMap Diagnostic.ofRecord?) =
        some [.unknownAction, .missingModule, .recursiveModule, .missingEntry, .cycle] := by
    decide +kernel
  rw [valid] at told
  exact ⟨config, _, valid, rfl, (diagnostics_match_records valid strayEntity).2.2 9 [] "loop",
    Option.some.inj told⟩

end GraphScript
