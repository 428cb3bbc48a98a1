import GraphScript.Lowering.Effect

namespace GraphScript.Lowered

variable {α β γ : Type}

@[simp] theorem effects_pure (a : α) : (Pure.pure a : Lowered α).effects = [] := rfl

@[simp] theorem result_pure (a : α) : (Pure.pure a : Lowered α).result = .ok a := rfl

@[simp] theorem effects_perform (e : Effect) : (perform e).effects = [e] := rfl

@[simp] theorem result_perform (e : Effect) : (perform e).result = .ok () := rfl

@[simp] theorem effects_ofExcept (r : Except Fault α) : (ofExcept r).effects = [] := rfl

@[simp] theorem result_ofExcept (r : Except Fault α) : (ofExcept r).result = r := rfl

theorem bind_of_ok {x : Lowered α} {a : α} (h : x.result = .ok a) (f : α → Lowered β) :
    x >>= f = ⟨x.effects ++ (f a).effects, (f a).result⟩ := by
  change x.bind f = _
  simp only [bind, h]

theorem bind_of_error {x : Lowered α} {fault : Fault} (h : x.result = .error fault)
    (f : α → Lowered β) : x >>= f = ⟨x.effects, .error fault⟩ := by
  change x.bind f = _
  simp only [bind, h]

instance : LawfulMonad Lowered := LawfulMonad.mk' Lowered
  (by
    intro α x
    obtain ⟨effects, result⟩ := x
    cases result with
    | ok a => exact congrArg (mk · (.ok a)) (List.append_nil effects)
    | error fault => rfl)
  (fun a f => rfl)
  (by
    intro α β γ x f g
    cases hx : x.result with
    | error fault => simp only [bind_of_error hx]; exact bind_of_error rfl g
    | ok a =>
      rw [bind_of_ok hx, bind_of_ok hx]
      cases hf : (f a).result with
      | error fault =>
        rw [bind_of_error hf]
        exact bind_of_error rfl g
      | ok b =>
        rw [bind_of_ok hf, bind_of_ok (a := b) rfl g, List.append_assoc])

/-- What `f` goes on with, after a fault nothing. -/
theorem effects_bind (x : Lowered α) (f : α → Lowered β) :
    (x >>= f).effects = x.effects ++ (match x.result with
      | .ok a => (f a).effects
      | .error _ => []) := by
  cases h : x.result with
  | ok a => rw [bind_of_ok h]
  | error fault => rw [bind_of_error h, List.append_nil]

theorem bind_result_ok {x : Lowered α} {f : α → Lowered β} {b : β} (h : (x >>= f).result = .ok b) :
    ∃ a, x.result = .ok a ∧ (f a).result = .ok b := by
  cases hx : x.result with
  | ok a => exact ⟨a, rfl, by rw [bind_of_ok hx] at h; exact h⟩
  | error fault => rw [bind_of_error hx] at h; cases h

theorem records_of_ok {x : Lowered α} {a : α} (h : x.result = .ok a) (f : α → Lowered β) :
    (x >>= f).records = x.records ++ (f a).records := by
  rw [bind_of_ok h]
  exact List.filterMap_append

/-- How a lowering goes on matters only for the result that it has. -/
theorem bind_congr_ok {x : Lowered α} {f g : α → Lowered β}
    (h : ∀ a, x.result = .ok a → f a = g a) : x >>= f = x >>= g := by
  cases hx : x.result with
  | ok a => rw [bind_of_ok hx, bind_of_ok hx, h a hx]
  | error fault => rw [bind_of_error hx, bind_of_error hx]

/-- Two lowerings that write the same code and end alike; what they log and visit may differ. -/
structure SameCode (x y : Lowered α) : Prop where
  pieces : x.pieces = y.pieces
  result : x.result = y.result

theorem SameCode.refl (x : Lowered α) : SameCode x x := ⟨rfl, rfl⟩

theorem SameCode.trans {x y z : Lowered α} (h : SameCode x y) (h' : SameCode y z) : SameCode x z :=
  ⟨h.pieces.trans h'.pieces, h.result.trans h'.result⟩

theorem SameCode.bind {x y : Lowered α} {f g : α → Lowered β} (h : SameCode x y)
    (h' : ∀ a, SameCode (f a) (g a)) : SameCode (x >>= f) (y >>= g) := by
  have hp : x.effects.filterMap Effect.piece? = y.effects.filterMap Effect.piece? := h.pieces
  cases hx : x.result with
  | error fault =>
    rw [bind_of_error hx, bind_of_error (h.result ▸ hx)]
    exact ⟨hp, rfl⟩
  | ok a =>
    rw [bind_of_ok hx, bind_of_ok (h.result ▸ hx)]
    refine ⟨?_, (h' a).result⟩
    simp only [Lowered.pieces, List.filterMap_append, hp]
    exact congrArg _ (h' a).pieces

/-- What writes nothing can be left out. -/
theorem SameCode.skip {e : Effect} (h : e.piece? = none) (f : Unit → Lowered β) :
    SameCode (perform e >>= f) (f ()) := by
  rw [bind_of_ok (result_perform e)]
  refine ⟨?_, rfl⟩
  simp only [Lowered.pieces, effects_perform, List.filterMap_append, List.filterMap_cons, h,
    List.filterMap_nil, List.nil_append]

theorem SameCode.block {x y : Lowered Unit} (header : Option String) (h : SameCode x y) :
    SameCode (block header x) (block header y) :=
  .bind (.refl _) fun _ => .bind h fun _ => .refl _

/-- All effects of a lowering have a property. -/
def Within (p : Effect → Prop) (x : Lowered α) : Prop :=
  ∀ e ∈ x.effects, p e

variable {p q : Effect → Prop}

@[simp] theorem within_pure (a : α) : (Pure.pure a : Lowered α).Within p := by
  intro e he
  cases he

@[simp] theorem within_perform (e : Effect) : (perform e).Within p ↔ p e := by
  simp [Within]

@[simp] theorem within_ofExcept (r : Except Fault α) : (ofExcept r).Within p := by
  intro e he
  cases he

@[simp] theorem within_bind (x : Lowered α) (f : α → Lowered β) :
    (x >>= f).Within p ↔ x.Within p ∧ ∀ a, x.result = .ok a → (f a).Within p := by
  cases hx : x.result with
  | ok a => simp [Within, bind_of_ok hx, or_imp, forall_and]
  | error fault => simp [Within, bind_of_error hx]

theorem records_eq_nil {x : Lowered α} (h : x.Within fun e => e.record? = none) : x.records = [] :=
  List.filterMap_eq_nil_iff.mpr h

theorem Within.mono {x : Lowered α} (h : x.Within p) (hp : ∀ e, p e → q e) : x.Within q :=
  fun e he => hp e (h e he)

theorem Within.bind {x : Lowered α} {f : α → Lowered β} (h : x.Within p)
    (h' : ∀ a, (f a).Within p) : (x >>= f).Within p :=
  (within_bind x f).mpr ⟨h, fun a _ => h' a⟩

theorem Within.ite {c : Prop} [Decidable c] {x y : Lowered α} (h : x.Within p)
    (h' : y.Within p) : (if c then x else y).Within p := by
  split
  next => exact h
  next => exact h'

theorem Within.forM {l : List α} {f : α → Lowered Unit} (h : ∀ a ∈ l, (f a).Within p) :
    (l.forM f).Within p := by
  induction l with
  | nil => exact within_pure _
  | cons a l ih => exact (h a (by simp)).bind fun _ => ih fun b hb => h b (by simp [hb])

theorem Within.mapM {l : List α} {f : α → Lowered β} (h : ∀ a ∈ l, (f a).Within p) :
    (l.mapM f).Within p := by
  induction l with
  | nil => exact within_pure _
  | cons a l ih =>
    rw [List.mapM_cons]
    have rest := ih fun b hb => h b (by simp [hb])
    exact (h a (by simp)).bind fun _ => rest.bind fun _ => within_pure _

/-- Lowerings that are put together from single effects, with whole blocks among them. Nothing goes
deeper without a line above it. -/
inductive Composed (p : Effect → Prop) : {α : Type} → Lowered α → Prop
  | pure {α : Type} (a : α) : Composed p (Pure.pure a : Lowered α)
  | perform {e : Effect} : p e → Composed p (perform e)
  | ofExcept {α : Type} (r : Except Fault α) : Composed p (ofExcept r)
  | bind {α β : Type} {x : Lowered α} {f : α → Lowered β} :
      Composed p x → (∀ a, Composed p (f a)) → Composed p (x >>= f)
  | block {body : Lowered Unit} (header : Option String) :
      Composed p body → Composed p (block header body)
  /-- A test, and what stands under it without braces. -/
  | under {test : String} {body : Lowered Unit} :
      p (.write (.line test)) → Composed p body → Composed p (do line test; indented body)

theorem Composed.ite {c : Prop} [Decidable c] {x y : Lowered α} (h : x.Composed p)
    (h' : y.Composed p) : (if c then x else y).Composed p := by
  split
  next => exact h
  next => exact h'

/-- A lowering is put together from its effects. -/
theorem Within.composed {x : Lowered α} (h : x.Within p) : x.Composed p := by
  obtain ⟨effects, result⟩ := x
  induction effects with
  | nil => exact .ofExcept result
  | cons e effects ih =>
    obtain ⟨first, others⟩ := List.forall_mem_cons.mp h
    exact .bind (.perform first) fun _ => ih others

/-- Beside the effects it is put together from, a lowering only opens and closes. -/
theorem Composed.within {x : Lowered α} (h : x.Composed p) (hp : ∀ e, p e → q e)
    (opens : ∀ header, q (.write (.openBlock header))) (indents : q (.write .indent))
    (closes : q (.write .close)) : x.Within q := by
  induction h with
  | pure => exact within_pure _
  | perform he => exact (within_perform _).mpr (hp _ he)
  | ofExcept => exact within_ofExcept _
  | bind _ _ hx hf => exact (within_bind _ _).mpr ⟨hx, fun a _ => hf a⟩
  | block header _ hb => simp [Lowered.block, hb, opens, closes]
  | under ht _ hb => simp [Lowered.line, Lowered.indented, hb, hp _ ht, indents, closes]

theorem Composed.mono {x : Lowered α} (h : x.Composed p) (hp : ∀ e, p e → q e) : x.Composed q := by
  induction h with
  | pure a => exact .pure a
  | perform he => exact .perform (hp _ he)
  | ofExcept r => exact .ofExcept r
  | bind _ _ hx hf => exact .bind hx hf
  | block header _ hb => exact .block header hb
  | under ht _ hb => exact .under (hp _ ht) hb

/-- A finished lowering that is shown is the lowering itself. -/
theorem shown_eq_of_ok {x : Lowered α} {settings : Log.Settings} {a : α}
    (h : (x.shown settings).result = .ok a) : x.shown settings = x := by
  unfold shown at h ⊢
  dsimp only at h ⊢
  split at h
  next => cases h
  next whole => exact if_neg whole

end GraphScript.Lowered
