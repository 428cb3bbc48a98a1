import GraphScript.Proofs.Bounded
import GraphScript.Proofs.Plan
import Mathlib.Data.List.Pairwise

namespace GraphScript

theorem lookup_filter {α : Type} (keep : String → Bool) (data : List (String × α)) (key : String) :
    (data.filter fun entry => keep entry.1).lookup key = if keep key then data.lookup key else none := by
  induction data with
  | nil => simp
  | cons entry rest ih =>
    by_cases same : entry.1 = key
    · subst same
      by_cases kept : keep entry.1 = true
      · rw [List.filter_cons_of_pos (by simpa using kept), if_pos kept, List.lookup_cons, List.lookup_cons,
          beq_self_eq_true]
      · rw [List.filter_cons_of_neg (by simpa using kept), ih, if_neg kept, if_neg kept]
    · have other : (key == entry.1) = false := beq_false_of_ne fun h => same h.symm
      rw [List.lookup_cons, other]
      by_cases kept : keep entry.1 = true
      · rw [List.filter_cons_of_pos (by simpa using kept), List.lookup_cons, other]
        exact ih
      · rw [List.filter_cons_of_neg (by simpa using kept)]
        exact ih

theorem lookup_without (bad : List Dropped) (data : Params) (key : String) :
    (without bad data).lookup key =
      if bad.any (fun d => d.key == key) then none else data.lookup key := by
  rw [without, lookup_filter (fun key => !(bad.any fun d => d.key == key))]
  cases bad.any fun d => d.key == key <;> rfl

theorem findSome?_congr {α β : Type} {f g : α → Option β} {l : List α} (h : ∀ a ∈ l, f a = g a) :
    l.findSome? f = l.findSome? g := by
  induction l with
  | nil => rfl
  | cons a l ih =>
    obtain ⟨head, tail⟩ := List.forall_mem_cons.mp h
    rw [List.findSome?_cons, List.findSome?_cons, head, ih tail]

theorem takeWhile_congr {α : Type} {p q : α → Bool} {l : List α} (h : ∀ a ∈ l, p a = q a) :
    l.takeWhile p = l.takeWhile q := by
  induction l with
  | nil => rfl
  | cons a l ih =>
    obtain ⟨head, tail⟩ := List.forall_mem_cons.mp h
    rw [List.takeWhile_cons, List.takeWhile_cons, head, ih tail]

theorem mem_malformed {fields : List Field} {data : Params} {d : Dropped} :
    d ∈ malformed fields data ↔ ∃ field ∈ fields, field.malformed? data = some d := by
  rw [malformed, List.mem_mergeSort, List.mem_filterMap]

theorem malformed?_eq_none {fields : List Field} {data : Params} (h : malformed fields data = [])
    {field : Field} (hf : field ∈ fields) : field.malformed? data = none := by
  cases bad : field.malformed? data with
  | none => rfl
  | some d =>
    have hd := mem_malformed.mpr ⟨field, hf, bad⟩
    rw [h] at hd
    cases hd

theorem present?_eq_some {keys : List String} {data : Params} {key : String} {value : Value}
    (h : present? keys data = some (key, value)) :
    data.lookup key = some value ∧ ∃ before after, keys = before ++ key :: after ∧
      ∀ k ∈ before, data.lookup k = none := by
  obtain ⟨before, k, after, rfl, hk, absent⟩ := List.findSome?_eq_some_iff.mp h
  obtain ⟨v, hv, pair⟩ := Option.map_eq_some_iff.mp hk
  cases pair
  exact ⟨hv, before, after, rfl, fun k hk => Option.map_eq_none_iff.mp (absent k hk)⟩

namespace Field

variable {field : Field} {data : Params} {d : Dropped}

/-- The value under a key, if it fits. -/
def fitting? (field : Field) (data : Params) (key : String) : Option Value :=
  (data.lookup key).filter fun value => (field.normal? value).isSome

/-- The value under the first of the keys whose value fits. -/
def source? (field : Field) (data : Params) : Option Value :=
  field.keys.findSome? (field.fitting? data)

/-- What a field is read as on its own. -/
def own (field : Field) (data : Params) : Value :=
  ((field.source? data).bind field.normal?).getD field.default

/-- What is given under the keys before the first whose value fits. -/
def passed (field : Field) (data : Params) : List Dropped :=
  (field.keys.takeWhile fun key => (field.fitting? data key).isNone).filterMap fun key =>
    (data.lookup key).map fun value => ⟨key, value⟩

/-- Whether a field can take the first of its values that fits. -/
def isLegible (field : Field) (data : Params) : Bool :=
  (field.source? data).all field.canTake

theorem malformed?_eq_some :
    field.malformed? data = some d ↔
      present? field.keys data = some (d.key, d.value) ∧ field.normal? d.value = none := by
  unfold malformed?
  constructor
  · intro h
    split at h
    next present =>
      split at h
      next => cases h
      next unfit =>
        cases h
        exact ⟨present, by simpa using unfit⟩
    next => cases h
  · rintro ⟨present, unfit⟩
    rw [present]
    simp [unfit]

theorem fits_of_present {key : String} {value : Value} (h : field.malformed? data = none)
    (present : present? field.keys data = some (key, value)) : (field.normal? value).isSome = true := by
  cases hv : field.normal? value with
  | some _ => rfl
  | none =>
    have bad : field.malformed? data = some ⟨key, value⟩ := malformed?_eq_some.mpr ⟨present, hv⟩
    rw [bad] at h
    cases h

/-- A field whose first value fits takes it. -/
theorem source?_of_fits (h : field.malformed? data = none) :
    field.source? data = (present? field.keys data).map (·.2) := by
  cases present : present? field.keys data with
  | none =>
    have absent := List.findSome?_eq_none_iff.mp present
    apply List.findSome?_eq_none_iff.mpr
    intro key hk
    rw [fitting?, Option.map_eq_none_iff.mp (absent key hk)]
    rfl
  | some entry =>
    obtain ⟨key, value⟩ := entry
    obtain ⟨found, before, after, hkeys, absent⟩ := present?_eq_some present
    have fits := fits_of_present h present
    apply List.findSome?_eq_some_iff.mpr
    refine ⟨before, key, after, hkeys, ?_, ?_⟩
    · simp [fitting?, found, fits]
    · intro k hk
      rw [fitting?, absent k hk]
      rfl

theorem passed_of_fits (h : field.malformed? data = none) : field.passed data = [] := by
  cases present : present? field.keys data with
  | none =>
    have absent := List.findSome?_eq_none_iff.mp present
    apply List.filterMap_eq_nil_iff.mpr
    intro key hk
    have found := Option.map_eq_none_iff.mp (absent key ((List.takeWhile_sublist _).subset hk))
    rw [found]
    rfl
  | some entry =>
    obtain ⟨key, value⟩ := entry
    obtain ⟨found, before, after, hkeys, absent⟩ := present?_eq_some present
    have fits := fits_of_present h present
    have none_before : ∀ k ∈ before, (field.fitting? data k).isNone = true := by
      intro k hk
      simp [fitting?, absent k hk]
    have some_here : ¬(field.fitting? data key).isNone = true := by
      simpa [fitting?, found] using Option.isSome_iff_ne_none.mp fits
    have keys_before : (field.keys.takeWhile fun key => (field.fitting? data key).isNone) = before := by
      rw [hkeys, List.takeWhile_append_of_pos none_before]
      simp [some_here]
    rw [passed, keys_before]
    apply List.filterMap_eq_nil_iff.mpr
    intro k hk
    rw [absent k hk]
    rfl

/-- The value that makes a field malformed is one that it passes. -/
theorem mem_passed_of_malformed (h : field.malformed? data = some d) : d ∈ field.passed data := by
  obtain ⟨present, unfit⟩ := malformed?_eq_some.mp h
  obtain ⟨found, before, after, hkeys, absent⟩ := present?_eq_some present
  have none_before : ∀ k ∈ before, (field.fitting? data k).isNone = true := by
    intro k hk
    simp [fitting?, absent k hk]
  have none_here : (field.fitting? data d.key).isNone = true := by
    simp [fitting?, found, unfit]
  apply List.mem_filterMap.mpr
  refine ⟨d.key, ?_, by simp [found]⟩
  rw [hkeys, List.takeWhile_append_of_pos none_before]
  simp [none_here]

theorem key_mem_of_malformed (h : field.malformed? data = some d) : d.key ∈ field.keys := by
  obtain ⟨-, before, after, hkeys, -⟩ := present?_eq_some (malformed?_eq_some.mp h).1
  rw [hkeys]
  simp

theorem lookup_of_malformed (h : field.malformed? data = some d) : data.lookup d.key = some d.value :=
  (present?_eq_some (malformed?_eq_some.mp h).1).1

end Field

/-- No two fields share a key. -/
def Apart (fields : List Field) : Prop :=
  fields.Pairwise fun f g => ∀ key ∈ f.keys, key ∉ g.keys

instance (fields : List Field) : Decidable (Apart fields) :=
  inferInstanceAs (Decidable (List.Pairwise _ fields))

section Round

variable {fields : List Field} (apart : Apart fields) {field : Field} (hf : field ∈ fields)
  {data : Params}

include apart hf

/-- What is dropped under a key of a field is dropped because of that field. -/
theorem malformed?_of_key {d : Dropped} (hd : d ∈ malformed fields data) (hk : d.key ∈ field.keys) :
    field.malformed? data = some d := by
  obtain ⟨other, ho, hd⟩ := mem_malformed.mp hd
  by_cases same : field = other
  · rw [same]
    exact hd
  · have : Std.Symm fun f g : Field => ∀ key ∈ f.keys, key ∉ g.keys :=
      ⟨fun _ _ h key hg hf => h key hf hg⟩
    have apart := apart.forall hf ho same
    exact absurd (Field.key_mem_of_malformed hd) (apart d.key hk)

/-- A round takes away the value under a key only if the field is malformed there. -/
theorem lookup_round {key : String} (hk : key ∈ field.keys) :
    (without (malformed fields data) data).lookup key = data.lookup key ∨
      (without (malformed fields data) data).lookup key = none ∧
        ∃ d, field.malformed? data = some d ∧ d.key = key := by
  rw [lookup_without]
  by_cases dropped : (malformed fields data).any (fun d => d.key == key) = true
  · obtain ⟨d, hd, same⟩ := List.any_eq_true.mp dropped
    obtain rfl : d.key = key := beq_iff_eq.mp same
    exact .inr ⟨if_pos dropped, d, malformed?_of_key apart hf hd hk, rfl⟩
  · exact .inl (if_neg dropped)

theorem fitting?_round {key : String} (hk : key ∈ field.keys) :
    field.fitting? (without (malformed fields data) data) key = field.fitting? data key := by
  unfold Field.fitting?
  rcases lookup_round apart hf hk with same | ⟨gone, d, hd, rfl⟩
  · rw [same]
  · rw [gone, Field.lookup_of_malformed hd]
    have unfit := (Field.malformed?_eq_some.mp hd).2
    simp [Option.filter, unfit]

theorem source?_round :
    field.source? (without (malformed fields data) data) = field.source? data :=
  findSome?_congr fun _ hk => fitting?_round apart hf hk

theorem mem_passed_round {d : Dropped} :
    d ∈ field.passed data ↔
      field.malformed? data = some d ∨ d ∈ field.passed (without (malformed fields data) data) := by
  have keys : (field.keys.takeWhile fun key =>
      (field.fitting? (without (malformed fields data) data) key).isNone) =
        field.keys.takeWhile fun key => (field.fitting? data key).isNone :=
    takeWhile_congr fun key hk => by rw [fitting?_round apart hf hk]
  constructor
  · intro hd
    obtain ⟨key, hk, given⟩ := List.mem_filterMap.mp hd
    obtain ⟨value, found, rfl⟩ := Option.map_eq_some_iff.mp given
    rcases lookup_round apart hf ((List.takeWhile_sublist _).subset hk) with same | ⟨-, d, hd, rfl⟩
    · refine .inr (List.mem_filterMap.mpr ⟨key, keys ▸ hk, ?_⟩)
      rw [same, found]
      rfl
    · have own : d.value = value := by
        rw [Field.lookup_of_malformed hd] at found
        exact Option.some.inj found
      rw [← own]
      exact .inl hd
  · rintro (hd | hd)
    · exact Field.mem_passed_of_malformed hd
    · obtain ⟨key, hk, given⟩ := List.mem_filterMap.mp hd
      have hk' : key ∈ field.keys := (List.takeWhile_sublist _).subset hk
      rcases lookup_round apart hf hk' with same | ⟨gone, -⟩
      · rw [same] at given
        exact List.mem_filterMap.mpr ⟨key, keys ▸ hk, given⟩
      · rw [gone] at given
        cases given

end Round

theorem length_round {fields : List Field} {data : Params} (h : malformed fields data ≠ []) :
    (without (malformed fields data) data).length < data.length := by
  obtain ⟨d, hd⟩ := List.exists_mem_of_ne_nil _ h
  obtain ⟨field, hf, bad⟩ := mem_malformed.mp hd
  apply List.length_filter_lt_length_iff_exists.mpr
  refine ⟨(d.key, d.value), Field.malformed?_mem bad, ?_⟩
  simpa using ⟨d, hd, rfl⟩

/-- With enough rounds, a field ends with the value that it would take on its own. -/
theorem settle_source {fields : List Field} (apart : Apart fields) {field : Field}
    (hf : field ∈ fields) {rounds : Nat} {data : Params} (enough : data.length < rounds) :
    field.source? (settle fields rounds data).2 = field.source? data ∧
      field.malformed? (settle fields rounds data).2 = none := by
  induction rounds generalizing data with
  | zero => omega
  | succ rounds ih =>
    unfold settle
    split
    next none => exact ⟨rfl, malformed?_eq_none none hf⟩
    next some =>
      have shorter := length_round some
      have settled := @ih (without (malformed fields data) data) (by omega)
      rw [source?_round apart hf] at settled
      exact settled

namespace Field

variable {field : Field} {data : Params}

theorem canTake_of_unfit {value : Value} (h : field.normal? value = none) : field.canTake value = true := by
  unfold canTake
  rw [h]
  cases value <;> rfl

theorem isWritable_of_fits (fits : field.malformed? data = none) :
    field.isWritable data = field.isLegible data := by
  rw [isWritable, isLegible, source?_of_fits fits]
  cases present? field.keys data <;> rfl

theorem isWritable_of_isLegible (h : field.isLegible data = true) : field.isWritable data = true := by
  cases bad : field.malformed? data with
  | none => rw [isWritable_of_fits bad, h]
  | some d =>
    obtain ⟨present, unfit⟩ := malformed?_eq_some.mp bad
    rw [isWritable, present]
    exact canTake_of_unfit unfit

end Field

/-- The note about a dropped parameter. -/
def Form.dropNote {σ : Type} (form : Form σ σ) (d : Dropped) : Effect :=
  .note (.about d.value "params" .debug (form.dropMessage d))

theorem forM_perform {α : Type} (l : List α) (f : α → Effect) :
    (l.forM fun a => Lowered.perform (f a)) = ⟨l.map f, .ok ()⟩ := by
  induction l with
  | nil => rfl
  | cons a l ih =>
    show (Lowered.perform (f a) >>= fun _ => l.forM fun a => Lowered.perform (f a)) = _
    rw [ih]
    rfl

section Reading

variable {σ : Type} {form : Form σ σ} {rounds : Nat} {data : Params}

theorem settleNoting_unwritable (h : ¬form.isWritable data = true) :
    settleNoting form (rounds + 1) data = ⟨[], .error .integerTooLong⟩ := by
  unfold settleNoting requireWritable
  rw [if_neg h]
  rfl

theorem settleNoting_last (h : form.isWritable data = true) (fits : malformed form.fields data = []) :
    settleNoting form (rounds + 1) data = ⟨[], .ok data⟩ := by
  unfold settleNoting requireWritable
  rw [if_pos h, fits]
  rfl

theorem settleNoting_round (h : form.isWritable data = true) (bad : malformed form.fields data ≠ []) :
    settleNoting form (rounds + 1) data =
      ⟨(malformed form.fields data).map form.dropNote ++
        (settleNoting form rounds (without (malformed form.fields data) data)).effects,
       (settleNoting form rounds (without (malformed form.fields data) data)).result⟩ := by
  rw [settleNoting, requireWritable, if_pos h, pure_bind]
  split
  next none => exact absurd none bad
  next =>
    have noted := forM_perform (malformed form.fields data) form.dropNote
    exact (congrArg (· >>= fun _ => settleNoting form rounds _) noted).trans (Lowered.bind_of_ok rfl _)

theorem settleNoting_fault {fault : Fault} (h : (settleNoting form rounds data).result = .error fault) :
    fault = .integerTooLong := by
  induction rounds generalizing data with
  | zero => cases h
  | succ rounds ih =>
    by_cases writable : form.isWritable data = true
    · by_cases fits : malformed form.fields data = []
      · rw [settleNoting_last writable fits] at h
        cases h
      · rw [settleNoting_round writable fits] at h
        exact ih h
    · rw [settleNoting_unwritable writable] at h
      cases h
      rfl

variable (apart : Apart form.fields) (enough : data.length < rounds)

include apart enough

/-- Reading ends unless a field takes its text from an integer that cannot be written. -/
theorem settleNoting_ends :
    (∃ kept, (settleNoting form rounds data).result = .ok kept) ↔
      ∀ field ∈ form.fields, field.isLegible data = true := by
  induction rounds generalizing data with
  | zero => omega
  | succ rounds ih =>
    by_cases writable : form.isWritable data = true
    · by_cases fits : malformed form.fields data = []
      · rw [settleNoting_last writable fits]
        refine iff_of_true ⟨data, rfl⟩ fun field hf => ?_
        rw [← Field.isWritable_of_fits (malformed?_eq_none fits hf)]
        exact List.all_eq_true.mp writable field hf
      · have shorter := length_round fits
        have rest := @ih (without (malformed form.fields data) data) (by omega)
        rw [settleNoting_round writable fits, rest]
        refine forall₂_congr fun field hf => ?_
        rw [Field.isLegible, source?_round apart hf, Field.isLegible]
    · rw [settleNoting_unwritable writable]
      refine iff_of_false (fun ⟨_, h⟩ => by cases h) fun legible => writable ?_
      exact List.all_eq_true.mpr fun field hf => Field.isWritable_of_isLegible (legible field hf)

/-- What is noted is what the fields pass. -/
theorem mem_effects_settleNoting {e : Effect} (he : e ∈ (settleNoting form rounds data).effects) :
    ∃ field ∈ form.fields, ∃ d ∈ field.passed data, e = form.dropNote d := by
  induction rounds generalizing data with
  | zero => omega
  | succ rounds ih =>
    by_cases writable : form.isWritable data = true
    · by_cases fits : malformed form.fields data = []
      · rw [settleNoting_last writable fits] at he
        cases he
      · have shorter := length_round fits
        rw [settleNoting_round writable fits] at he
        rcases List.mem_append.mp he with he | he
        · obtain ⟨d, hd, rfl⟩ := List.mem_map.mp he
          obtain ⟨field, hf, bad⟩ := mem_malformed.mp hd
          exact ⟨field, hf, d, Field.mem_passed_of_malformed bad, rfl⟩
        · obtain ⟨field, hf, d, hd, rfl⟩ := ih (by omega) he
          exact ⟨field, hf, d, (mem_passed_round apart hf).mpr (.inr hd), rfl⟩
    · rw [settleNoting_unwritable writable] at he
      cases he

theorem effects_settleNoting_of_ok {kept : Params} (h : (settleNoting form rounds data).result = .ok kept)
    {field : Field} (hf : field ∈ form.fields) {d : Dropped} (hd : d ∈ field.passed data) :
    form.dropNote d ∈ (settleNoting form rounds data).effects := by
  induction rounds generalizing data with
  | zero => omega
  | succ rounds ih =>
    by_cases writable : form.isWritable data = true
    · by_cases fits : malformed form.fields data = []
      · rw [Field.passed_of_fits (malformed?_eq_none fits hf)] at hd
        cases hd
      · have shorter := length_round fits
        rw [settleNoting_round writable fits] at h ⊢
        apply List.mem_append.mpr
        rcases (mem_passed_round apart hf).mp hd with hd | hd
        · exact .inl (List.mem_map_of_mem (mem_malformed.mpr ⟨field, hf, hd⟩))
        · exact .inr (ih (by omega) h hd)
    · rw [settleNoting_unwritable writable] at h
      cases h

end Reading

/-- What a field reads from parameters that fit: the value of its first key, or its default. -/
def Field.current (field : Field) (data : Params) : Value :=
  match present? field.keys data with
  | some (_, value) => (field.normal? value).getD field.default
  | none => field.default

theorem Slot.give_get {α : Type} [Readable α] (slot : Slot α) (data : Params) :
    Readable.give (slot.get data) = slot.field.current data := by
  unfold Slot.get Field.current
  have keys : slot.field.keys = slot.keys := rfl
  rw [keys]
  cases present? slot.keys data with
  | none => rfl
  | some entry =>
    show Readable.give ((Readable.read? entry.2).getD slot.default) =
      ((Readable.read? entry.2 : Option α).map Readable.give).getD (Readable.give slot.default)
    cases (Readable.read? entry.2 : Option α) <;> rfl

/-- The slots of a record, so far as a form knows them, hold what the fields read. -/
def Form.Holds {σ α : Type} (form : Form σ α) (data : Params) (record : σ) : Prop :=
  form.view record = form.fields.map fun field => (field.name, field.current data)

theorem Form.Holds.start {σ α : Type} {title : String} {make : α} {data : Params} {record : σ} :
    (Form.start title make).Holds data record :=
  rfl

theorem Form.Holds.slot {σ α β : Type} [Readable α] {form : Form σ (α → β)} {data : Params} {record : σ}
    {slot : Slot α} {part : σ → α} (h : form.Holds data record) (own : part record = slot.get data) :
    (form.slot slot part).Holds data record := by
  show form.view record ++ [(slot.name, Readable.give (part record))] =
    (form.fields ++ [slot.field]).map _
  rw [List.map_append, h, own, slot.give_get]
  rfl

theorem paramForms_hold : ∀ entry : (Σ σ : Type, Form σ σ), entry ∈ paramForms →
    ∀ data, entry.2.Holds data (entry.2.build data) := by
  repeat' first
    | exact List.forall_mem_nil _
    | refine List.forall_mem_cons.mpr ⟨fun data => ?_, ?_⟩
  all_goals repeat first
    | exact .start
    | refine .slot ?_ rfl

theorem Field.current_eq_own {field : Field} {data : Params} (h : field.malformed? data = none) :
    field.current data = field.own data := by
  rw [own, source?_of_fits h, current]
  cases present? field.keys data <;> rfl

theorem Field.own_congr {field : Field} {data data' : Params}
    (h : ∀ key ∈ field.keys, data.lookup key = data'.lookup key) : field.own data = field.own data' := by
  have same : field.source? data = field.source? data' :=
    findSome?_congr fun key hk => by rw [fitting?, h key hk, fitting?]
  rw [own, same, own]

theorem paramForms_apart {entry : Σ σ : Type, Form σ σ} (h : entry ∈ paramForms) :
    Apart entry.2.fields := by
  have all : paramForms.all (fun entry => decide (Apart entry.2.fields)) = true := by decide +kernel
  exact of_decide_eq_true (List.all_eq_true.mp all entry h)

namespace Lowered

variable {α : Type} {x : Lowered α} {settings : Log.Settings}

/-- A shown lowering ends if the lowering does and all its notes can be shown. -/
theorem shown_ends :
    (∃ a, (x.shown settings).result = .ok a) ↔ (∃ a, x.result = .ok a) ∧
      ∀ e ∈ x.effects, (e.note?.map (Log.Note.isBroken settings)).getD false = false := by
  unfold shown
  dsimp only
  split
  next broken =>
    obtain ⟨e, he, hb⟩ := List.any_eq_true.mp broken
    refine iff_of_false (fun ⟨_, h⟩ => by cases h) fun ⟨_, whole⟩ => ?_
    rw [whole e he] at hb
    cases hb
  next whole =>
    refine (and_iff_left fun e he => ?_).symm
    by_contra broken
    exact whole (List.any_eq_true.mpr ⟨e, he, by simpa using broken⟩)

theorem shown_fault {fault : Fault} (h : (x.shown settings).result = .error fault) :
    fault = .integerTooLong ∨ x.result = .error fault := by
  unfold shown at h
  dsimp only at h
  split at h
  next =>
    cases h
    exact .inl rfl
  next => exact .inr h

theorem shown_effects_subset : (x.shown settings).effects ⊆ x.effects := by
  unfold shown
  dsimp only
  split
  next => exact (List.takeWhile_sublist _).subset
  next => exact List.Subset.refl _

end Lowered

theorem Form.dropNote_shows {σ : Type} (form : Form σ σ) (d : Dropped) (settings : Log.Settings) :
    ((form.dropNote d).note?.map (Log.Note.isBroken settings)).getD false = false ↔
      (settings.shows "params" .debug = true → d.value.isWritable = true) := by
  show Log.Note.isBroken settings (.about d.value "params" .debug (form.dropMessage d)) = false ↔ _
  unfold Log.Note.about
  split
  next writable => exact iff_of_true rfl fun _ => writable
  next unwritable =>
    show settings.shows "params" .debug = false ↔ _
    simp [unwritable]

theorem Form.dropNote_ne_defaults {σ : Type} (form : Form σ σ) (d : Dropped) :
    (form.dropNote d).note? ≠ some (.message "params" .debug form.defaultsMessage) := by
  show some (Log.Note.about d.value "params" .debug (form.dropMessage d)) ≠ _
  unfold Log.Note.about
  split
  next =>
    intro same
    have texts : form.dropMessage d = form.defaultsMessage := by simpa using same
    simp only [dropMessage, defaultsMessage, String.append_assoc, String.append_right_inj] at texts
    have third := congrArg (fun text => text.toList[2]?) texts
    simp at third
  next => simp

section Params

variable {σ : Type} {form : Form σ σ}

theorem readParams_effects (raw : Params) : (readParams form raw).effects =
    (settleNoting form ((Form.given raw).length + 1) (Form.given raw)).effects := by
  rw [readParams, Lowered.effects_bind]
  split <;> simp

theorem readParams_fault {raw : Params} {fault : Fault}
    (h : (readParams form raw).result = .error fault) : fault = .integerTooLong := by
  cases settled : (settleNoting form ((Form.given raw).length + 1) (Form.given raw)).result with
  | ok kept =>
    rw [readParams, Lowered.bind_of_ok settled] at h
    cases h
  | error other =>
    rw [readParams, Lowered.bind_of_error settled] at h
    cases h
    exact settleNoting_fault settled

theorem readParams_ends (apart : Apart form.fields) (raw : Params) :
    (∃ p, (readParams form raw).result = .ok p) ↔
      ∀ field ∈ form.fields, field.isLegible (Form.given raw) = true := by
  rw [← settleNoting_ends apart (Nat.lt_succ_self (Form.given raw).length)]
  constructor
  · rintro ⟨p, h⟩
    obtain ⟨kept, settled, -⟩ := Lowered.bind_result_ok h
    exact ⟨kept, settled⟩
  · rintro ⟨kept, settled⟩
    refine ⟨form.build kept, ?_⟩
    rw [readParams, Lowered.bind_of_ok settled]
    rfl

theorem shown_readParams_fault {raw : Params} {settings : Log.Settings} {fault : Fault}
    (h : ((readParams form raw).shown settings).result = .error fault) : fault = .integerTooLong := by
  rcases Lowered.shown_fault h with h | h
  · exact h
  · exact readParams_fault h

/-- A shown reading ends if no integer that it writes is too long, in a text or in a note. -/
theorem shown_readParams_ends (apart : Apart form.fields) (raw : Params) (settings : Log.Settings) :
    (∃ p, ((readParams form raw).shown settings).result = .ok p) ↔
      (∀ field ∈ form.fields, field.isLegible (Form.given raw) = true) ∧
        (settings.shows "params" .debug = true → ∀ field ∈ form.fields,
          ∀ d ∈ field.passed (Form.given raw), d.value.isWritable = true) := by
  have enough := Nat.lt_succ_self (Form.given raw).length
  rw [Lowered.shown_ends, readParams_ends apart, readParams_effects]
  refine and_congr_right fun legible => ?_
  constructor
  · intro unbroken shows field hf d hd
    obtain ⟨kept, settled⟩ := (settleNoting_ends apart enough).mpr legible
    have noted := effects_settleNoting_of_ok apart enough settled hf hd
    exact (form.dropNote_shows d settings).mp (unbroken _ noted) shows
  · intro writable e he
    obtain ⟨field, hf, d, hd, rfl⟩ := mem_effects_settleNoting apart enough he
    exact (form.dropNote_shows d settings).mpr fun shows => writable shows field hf d hd

theorem readParams_view (known : ⟨σ, form⟩ ∈ paramForms) {raw : Params} {p : σ}
    (h : (readParams form raw).result = .ok p) :
    form.view p = form.fields.map fun field => (field.name, field.own (Form.given raw)) := by
  have apart : Apart form.fields := paramForms_apart known
  rw [readParams_result h]
  refine (paramForms_hold _ known _).trans (List.map_congr_left fun field hf => ?_)
  obtain ⟨source, fits⟩ := settle_source apart hf (Nat.lt_succ_self (Form.given raw).length)
  have same : field.own (form.settled raw).2 = field.own (Form.given raw) :=
    congrArg (fun taken => (taken.bind field.normal?).getD field.default) source
  exact congrArg (Prod.mk field.name) ((Field.current_eq_own fits).trans same)

end Params

/-- Reading parameters is reading each field on its own. It ends exactly when no field takes its text
from an integer that cannot be written and, where drops are shown, no such integer is dropped; it
never gives up on the parameters as a whole. -/
theorem readParams_fieldwise {σ : Type} {form : Form σ σ} (known : ⟨σ, form⟩ ∈ paramForms)
    (raw : Option Params) (settings : Log.Settings) :
    let data := Form.given (raw.getD [])
    let read := (readParams form (raw.getD [])).shown settings
    ((∃ p, read.result = .ok p) ↔ (∀ field ∈ form.fields, field.isLegible data = true) ∧
      (settings.shows "params" .debug = true →
        ∀ field ∈ form.fields, ∀ d ∈ field.passed data, d.value.isWritable = true)) ∧
    (∀ fault, read.result = .error fault → fault = .integerTooLong) ∧
    (∀ p, read.result = .ok p →
      form.view p = form.fields.map (fun field => (field.name, field.own data)) ∧
      ∀ other p', ((readParams form other).shown settings).result = .ok p' →
        ∀ (i : Nat) (field : Field), form.fields[i]? = some field →
          (∀ key ∈ field.keys, data.lookup key = (Form.given other).lookup key) →
          (form.view p)[i]? = (form.view p')[i]?) ∧
    .message "params" .debug form.defaultsMessage ∉ read.notes := by
  intro data read
  have apart : Apart form.fields := paramForms_apart known
  have viewed {raw : Params} {p : σ} (h : ((readParams form raw).shown settings).result = .ok p) :
      form.view p = form.fields.map fun field => (field.name, field.own (Form.given raw)) := by
    rw [Lowered.shown_eq_of_ok h] at h
    exact readParams_view known h
  refine ⟨shown_readParams_ends apart _ settings, fun _ => shown_readParams_fault, ?_, ?_⟩
  · intro p h
    refine ⟨viewed h, ?_⟩
    intro other p' h' i field hi same
    rw [viewed h, viewed h', List.getElem?_map, List.getElem?_map, hi]
    show some (field.name, field.own data) = some (field.name, field.own (Form.given other))
    rw [Field.own_congr same]
  · intro noted
    obtain ⟨e, he, note⟩ := List.mem_filterMap.mp noted
    have he := Lowered.shown_effects_subset he
    rw [readParams_effects] at he
    obtain ⟨-, -, d, -, rfl⟩ := mem_effects_settleNoting apart (Nat.lt_succ_self data.length) he
    exact form.dropNote_ne_defaults d note

/-- An enemy with a broken and a numeric name, no mode, and a position that is no number. -/
def spawnParams : Params :=
  [("templateId", .list []), ("template_id", .int 7), ("positionMode", .null), ("x", .text "left"),
   ("y", .text "2.5")]

theorem readParams_fieldwise_spawn :
    (⟨_, SpawnEntityParams.form⟩ : Σ σ : Type, Form σ σ) ∈ paramForms ∧
    ∃ p, ((readParams SpawnEntityParams.form spawnParams).shown
        { Log.Settings.initial with level := .debug }).result = .ok p ∧
      SpawnEntityParams.form.view p = [("template_id", .text "7"), ("position_mode", .text "relative"),
        ("offset_x", .float (.zero false)), ("offset_y", .float (.zero false)),
        ("x", .float (.zero false)), ("y", .float (tenths 25))] := by
  have known : (⟨_, SpawnEntityParams.form⟩ : Σ σ : Type, Form σ σ) ∈ paramForms := by
    simp only [paramForms, List.mem_cons, true_or, or_true]
  obtain ⟨ends, -, fields, -⟩ := readParams_fieldwise known (some spawnParams)
    { Log.Settings.initial with level := .debug }
  have legible : (SpawnEntityParams.form.fields.all fun field =>
      field.isLegible (Form.given spawnParams) &&
        (field.passed (Form.given spawnParams)).all fun d => d.value.isWritable) = true := by
    decide +kernel
  have each := fun field hf => Bool.and_eq_true_iff.mp (List.all_eq_true.mp legible field hf)
  obtain ⟨p, h⟩ := ends.mpr
    ⟨fun field hf => (each field hf).1, fun _ field hf => List.all_eq_true.mp (each field hf).2⟩
  refine ⟨known, p, h, (fields p h).1.trans ?_⟩
  rfl

/-- What does not fit is dropped only if the note about it can be shown. -/
theorem readParams_unwritable :
    ((readParams RotateParams.form [("speed", .int (16 ^ 3600 - 1))]).shown
      { Log.Settings.initial with level := .debug }).result = .error .integerTooLong := by
  have ends : ((readParams RotateParams.form [("speed", .int (16 ^ 3600 - 1))]).shown
      { Log.Settings.initial with level := .debug }).result.toOption.isSome = false := by
    decide +kernel
  cases h : ((readParams RotateParams.form [("speed", .int (16 ^ 3600 - 1))]).shown
      { Log.Settings.initial with level := .debug }).result with
  | ok p =>
    rw [h] at ends
    cases ends
  | error fault => rw [shown_readParams_fault h]

end GraphScript
