import GraphScript.Proofs.Bodies
import GraphScript.Proofs.Bounded

namespace GraphScript

/-- Whether an effect can be shown in the log. -/
def Effect.isShowable : Effect → Bool
  | note (.unwritable _ _) => false
  | _ => true

theorem Effect.isBroken_of_isShowable {e : Effect} (h : e.isShowable = true)
    (settings : Log.Settings) : (e.note?.map (Log.Note.isBroken settings)).getD false = false := by
  cases e with
  | note n =>
    cases n with
    | unwritable => cases h
    | _ => rfl
  | _ => rfl

namespace Lowered

variable {α β : Type}

/-- A lowering has a result, and all its notes can be shown. -/
structure Succeeds (x : Lowered α) : Prop where
  ends : ∃ a, x.result = .ok a
  showable : x.Within fun e => e.isShowable = true

@[simp] theorem succeeds_pure (a : α) : (Pure.pure a : Lowered α).Succeeds :=
  ⟨⟨a, rfl⟩, within_pure a⟩

@[simp] theorem succeeds_perform (e : Effect) : (perform e).Succeeds ↔ e.isShowable = true :=
  ⟨fun h => (within_perform e).mp h.showable, fun h => ⟨⟨(), rfl⟩, (within_perform e).mpr h⟩⟩

@[simp] theorem succeeds_ofExcept (r : Except Fault α) : (ofExcept r).Succeeds ↔ ∃ a, r = .ok a :=
  ⟨fun h => h.ends, fun h => ⟨h, within_ofExcept r⟩⟩

@[simp] theorem succeeds_bind (x : Lowered α) (f : α → Lowered β) :
    (x >>= f).Succeeds ↔ x.Succeeds ∧ ∀ a, x.result = .ok a → (f a).Succeeds := by
  constructor
  · rintro ⟨⟨b, hb⟩, hs⟩
    obtain ⟨a, ha, hf⟩ := bind_result_ok hb
    obtain ⟨first, rest⟩ := (within_bind x f).mp hs
    refine ⟨⟨⟨a, ha⟩, first⟩, fun a' ha' => ?_⟩
    cases ha.symm.trans ha'
    exact ⟨⟨b, hf⟩, rest a ha⟩
  · rintro ⟨⟨⟨a, ha⟩, first⟩, rest⟩
    obtain ⟨b, hb⟩ := (rest a ha).ends
    refine ⟨⟨b, ?_⟩, (within_bind x f).mpr ⟨first, fun a ha => (rest a ha).showable⟩⟩
    rw [bind_of_ok ha]
    exact hb

@[simp] theorem succeeds_map (f : α → β) (x : Lowered α) : (f <$> x).Succeeds ↔ x.Succeeds := by
  rw [← bind_pure_comp, succeeds_bind]
  exact and_iff_left fun a _ => succeeds_pure (f a)

@[simp] theorem succeeds_block (header : Option String) (body : Lowered Unit) :
    (block header body).Succeeds ↔ body.Succeeds := by
  simp [block, Effect.isShowable]

@[simp] theorem succeeds_indented (body : Lowered Unit) :
    (indented body).Succeeds ↔ body.Succeeds := by
  simp [indented, Effect.isShowable]

@[simp] theorem succeeds_line (text : String) : (line text).Succeeds := by
  simp [line, Effect.isShowable]

@[simp] theorem succeeds_comment (text : String) : (comment text).Succeeds := by
  simp [comment, Effect.isShowable]

@[simp] theorem succeeds_suspend : suspend.Succeeds := by
  simp [suspend, Effect.isShowable]

@[simp] theorem succeeds_note (source : String) (level : Log.Level) (text : String) :
    (note source level text).Succeeds := by
  simp [note, Effect.isShowable]

theorem succeeds_noteAbout {value : Value} (h : value.Bounded) (source : String) (level : Log.Level)
    (text : String) : (noteAbout value source level text).Succeeds := by
  simp [noteAbout, Log.Note.about, Value.isWritable_of_bounded value h, Effect.isShowable]

@[simp] theorem succeeds_fallback (entity : String) (f : Fallback) : (fallback entity f).Succeeds := by
  refine (succeeds_bind _ _).mpr ⟨(succeeds_perform _).mpr rfl, fun _ _ => ?_⟩
  split
  next => exact succeeds_comment _
  next => exact succeeds_pure ()

@[simp] theorem succeeds_ite {c : Prop} [Decidable c] (x y : Lowered α) :
    (if c then x else y).Succeeds ↔ (c → x.Succeeds) ∧ (¬c → y.Succeeds) := by
  by_cases h : c <;> simp [h]

theorem succeeds_forM {l : List α} {f : α → Lowered Unit} (h : ∀ a ∈ l, (f a).Succeeds) :
    (l.forM f).Succeeds := by
  induction l with
  | nil => exact succeeds_pure ()
  | cons a l ih =>
    exact (succeeds_bind _ _).mpr ⟨h a (by simp), fun _ _ => ih fun b hb => h b (by simp [hb])⟩

theorem succeeds_mapM {l : List α} {f : α → Lowered β} (h : ∀ a ∈ l, (f a).Succeeds) :
    (l.mapM f).Succeeds := by
  induction l with
  | nil => exact succeeds_pure _
  | cons a l ih =>
    rw [List.mapM_cons]
    have rest := ih fun b hb => h b (by simp [hb])
    simp [h, rest]

theorem Succeeds.capture {x : Lowered α} (h : x.Succeeds) : x.capture.Succeeds := by
  obtain ⟨a, ha⟩ := h.ends
  exact ⟨⟨_, by simp only [Lowered.capture, ha]; rfl⟩, h.showable.capture⟩

theorem Succeeds.observe {x : Lowered α} (h : x.Succeeds) : x.observe.Succeeds := by
  obtain ⟨a, ha⟩ := h.ends
  exact ⟨⟨_, by simp only [Lowered.observe, ha]; rfl⟩, h.showable.observe⟩

/-- What can be shown is not ended by being shown. -/
theorem Succeeds.shown_eq {x : Lowered α} (h : x.Succeeds) (settings : Log.Settings) :
    x.shown settings = x := by
  unfold shown
  dsimp only
  rw [if_neg]
  intro broken
  obtain ⟨e, he, hb⟩ := List.any_eq_true.mp broken
  rw [Effect.isBroken_of_isShowable (h.showable e he)] at hb
  cases hb

end Lowered

/-- A computation of several steps has a result when each step has one. -/
theorem exists_ok_bind {α β : Type} {x : Except Fault α} {f : α → Except Fault β}
    (hx : ∃ a, x = .ok a) (hf : ∀ a, ∃ b, f a = .ok b) : ∃ b, (x >>= f) = .ok b := by
  obtain ⟨a, rfl⟩ := hx
  exact hf a

end GraphScript
