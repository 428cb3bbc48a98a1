import GraphScript.Model.Project
import GraphScript.Params.Condition
import GraphScript.Proofs.NumberLiteral

namespace GraphScript

namespace Value

mutual

/-- The integers in a value, at every depth. -/
def integers : Value → List Int
  | int n => [n]
  | list items => itemIntegers items
  | map entries => entryIntegers entries
  | _ => []

def itemIntegers : List Value → List Int
  | [] => []
  | item :: rest => item.integers ++ itemIntegers rest

def entryIntegers : List (Value × Value) → List Int
  | [] => []
  | (key, value) :: rest => key.integers ++ value.integers ++ entryIntegers rest

end

/-- No integer in the list is too large. -/
abbrev AllBounded (ns : List Int) : Prop :=
  ∀ n ∈ ns, (Binary64.ofInt? n).isSome

/-- No integer in the value is too large. -/
abbrev Bounded (value : Value) : Prop :=
  AllBounded value.integers

theorem allBounded_of_le {ns : List Int} (h : ∀ n ∈ ns, n.natAbs ≤ 2 ^ 1023) : AllBounded ns := by
  intro n hn
  rw [Binary64.ofInt?_eq_some (h n hn)]
  rfl

theorem allBounded_of_small {ns : List Int} (h : ∀ n ∈ ns, n.natAbs ≤ 2 ^ 10) : AllBounded ns := by
  have power {k limit : Nat} (hk : k ≤ limit) : 2 ^ k ≤ 2 ^ limit :=
    Nat.pow_le_pow_right (by decide) hk
  have room : 10 ≤ 1023 := by decide
  exact allBounded_of_le fun n hn => (h n hn).trans (power room)

theorem bounded_lt_writableBound {n : Int} (h : (Binary64.ofInt? n).isSome) :
    n.natAbs < writableBound := by
  have power {k limit : Nat} (hk : k < limit) : 2 ^ k < Nat.pow 10 limit :=
    calc 2 ^ k ≤ 10 ^ k := Nat.pow_le_pow_left (by decide) k
      _ < 10 ^ limit := Nat.pow_lt_pow_right (by decide) hk
  have room : 1024 < Numeral.digitLimit := by decide
  unfold writableBound
  exact (Binary64.natAbs_lt_of_ofInt? h).trans (power room)

theorem null_bounded : null.Bounded :=
  fun _ hn => by cases hn

mutual

theorem isWritable_of_bounded (value : Value) (h : value.Bounded) : value.isWritable = true := by
  match value with
  | .int n =>
    unfold isWritable
    exact decide_eq_true (bounded_lt_writableBound (h n (List.mem_singleton_self n)))
  | .list items => exact areWritable_of_bounded items h
  | .map entries => exact entriesWritable_of_bounded entries h
  | .null | .bool _ | .float _ | .text _ => rfl

theorem areWritable_of_bounded (items : List Value) (h : AllBounded (itemIntegers items)) :
    areWritable items = true := by
  match items with
  | [] => rfl
  | item :: rest =>
    obtain ⟨first, others⟩ := List.forall_mem_append.mp h
    exact Bool.and_eq_true_iff.mpr
      ⟨isWritable_of_bounded item first, areWritable_of_bounded rest others⟩

theorem entriesWritable_of_bounded (entries : List (Value × Value))
    (h : AllBounded (entryIntegers entries)) : entriesWritable entries = true := by
  match entries with
  | [] => rfl
  | (key, value) :: rest =>
    obtain ⟨pair, others⟩ := List.forall_mem_append.mp h
    obtain ⟨first, second⟩ := List.forall_mem_append.mp pair
    exact Bool.and_eq_true_iff.mpr ⟨Bool.and_eq_true_iff.mpr
      ⟨isWritable_of_bounded key first, isWritable_of_bounded value second⟩,
      entriesWritable_of_bounded rest others⟩

end

theorem written_of_bounded {value : Value} (h : value.Bounded) : ∃ text, value.written = .ok text := by
  rw [written, isWritable_of_bounded value h, if_pos rfl]
  exact ⟨_, rfl⟩

theorem number?_of_bounded {value : Value} (h : value.Bounded) : ∃ x, value.number? = .ok x := by
  cases value with
  | int n =>
    obtain ⟨x, fits⟩ := Option.isSome_iff_exists.mp (h n (by simp [integers]))
    exact ⟨_, by simp only [number?, fits]; rfl⟩
  | _ => exact ⟨_, rfl⟩

theorem entry_bounded {entries : List (Value × Value)} (h : AllBounded (entryIntegers entries)) :
    ∀ entry ∈ entries, entry.2.Bounded := by
  induction entries with
  | nil => simp
  | cons entry rest ih =>
    obtain ⟨pair, others⟩ := List.forall_mem_append.mp h
    exact List.forall_mem_cons.mpr ⟨(List.forall_mem_append.mp pair).2, ih others⟩

theorem find?_mem {key : String} {entries : List (Value × Value)} {value : Value}
    (h : find? key entries = some value) : ∃ k, (k, value) ∈ entries := by
  induction entries with
  | nil => cases h
  | cons entry rest ih =>
    unfold find? at h
    split at h
    next => simp_all
    next he =>
      cases he
      split at h
      next =>
        cases h
        exact ⟨_, List.mem_cons_self⟩
      next =>
        obtain ⟨k, hk⟩ := ih h
        exact ⟨k, List.mem_cons_of_mem _ hk⟩
    next he =>
      cases he
      obtain ⟨k, hk⟩ := ih h
      exact ⟨k, List.mem_cons_of_mem _ hk⟩

theorem find?_bounded {key : String} {entries : List (Value × Value)} {value : Value}
    (h : AllBounded (entryIntegers entries)) (hf : find? key entries = some value) :
    value.Bounded := by
  obtain ⟨k, hk⟩ := find?_mem hf
  exact entry_bounded h _ hk

end Value

/-- No integer in the parameters is too large. -/
abbrev ParamsBounded (params : Params) : Prop :=
  ∀ entry ∈ params, entry.2.Bounded

theorem mem_of_lookup {α : Type} {key : String} {entries : List (String × α)} {value : α}
    (h : entries.lookup key = some value) : (key, value) ∈ entries := by
  induction entries with
  | nil => cases h
  | cons entry rest ih =>
    rw [List.lookup_cons] at h
    split at h
    next same =>
      cases h
      rw [beq_iff_eq.mp same]
      exact List.mem_cons_self
    next => exact List.mem_cons_of_mem _ (ih h)

theorem ParamsBounded.lookup {params : Params} (h : ParamsBounded params) {key : String}
    {value : Value} (hl : params.lookup key = some value) : value.Bounded :=
  h _ (mem_of_lookup hl)

theorem ParamsBounded.lookup_getD {params : Params} (h : ParamsBounded params) (key : String) :
    ((params.lookup key).getD .null).Bounded := by
  cases hl : params.lookup key with
  | none => exact Value.null_bounded
  | some value => exact h.lookup hl

theorem present?_mem {keys : List String} {data : Params} {entry : String × Value}
    (h : present? keys data = some entry) : entry ∈ data := by
  obtain ⟨key, -, hk⟩ := List.exists_of_findSome?_eq_some h
  obtain ⟨value, hv, rfl⟩ := Option.map_eq_some_iff.mp hk
  exact mem_of_lookup hv

theorem Field.canTake_of_bounded {value : Value} (h : value.Bounded) (field : Field) :
    field.canTake value = true := by
  unfold canTake
  split
  next => exact Value.isWritable_of_bounded _ h
  next => rfl

theorem Field.isWritable_of_bounded {data : Params} (h : ParamsBounded data) (field : Field) :
    field.isWritable data = true := by
  unfold isWritable
  cases present : present? field.keys data with
  | none => rfl
  | some entry => exact canTake_of_bounded (h entry (present?_mem present)) field

theorem Field.malformed?_mem {data : Params} {field : Field} {d : Dropped}
    (h : field.malformed? data = some d) : (d.key, d.value) ∈ data := by
  unfold Field.malformed? at h
  split at h
  next present =>
    split at h
    next => cases h
    next =>
      cases h
      exact present?_mem present
  next => cases h

theorem mem_of_mem_malformed {fields : List Field} {data : Params} {d : Dropped}
    (h : d ∈ malformed fields data) : (d.key, d.value) ∈ data := by
  obtain ⟨field, -, hf⟩ := List.mem_filterMap.mp (List.mem_mergeSort.mp h)
  exact Field.malformed?_mem hf

theorem without_subset (bad : List Dropped) (data : Params) : without bad data ⊆ data :=
  fun _ he => (List.mem_filter.mp he).1

/-- What is kept was given. -/
theorem settle_subset (fields : List Field) (rounds : Nat) (data : Params) :
    (settle fields rounds data).2 ⊆ data := by
  induction rounds generalizing data with
  | zero => simp [settle]
  | succ rounds ih =>
    unfold settle
    cases malformed fields data with
    | nil => exact fun _ he => he
    | cons first bad => exact fun e he => without_subset _ _ (ih (without (first :: bad) data) he)

theorem ParamsBounded.given {raw : Params} (h : ParamsBounded raw) : ParamsBounded (Form.given raw) :=
  fun entry he => h entry (List.mem_filter.mp he).1

theorem ParamsBounded.settled {σ : Type} {form : Form σ σ} {raw : Params} (h : ParamsBounded raw) :
    ParamsBounded (form.settled raw).2 :=
  fun entry he => h.given entry (settle_subset _ _ _ he)

theorem ParamsBounded.get {data : Params} (h : ParamsBounded data) (slot : Slot Value)
    (hd : slot.default.Bounded) : (slot.get data).Bounded := by
  unfold Slot.get
  split
  next present => exact h _ (present?_mem present)
  next => exact hd

/-- The integers in parameters. -/
def paramIntegers (params : Params) : List Int :=
  params.flatMap fun entry => entry.2.integers

theorem paramsBounded_of_integers {params : Params} (h : Value.AllBounded (paramIntegers params)) :
    ParamsBounded params :=
  fun entry he n hn => h n (List.mem_flatMap.mpr ⟨entry, he, hn⟩)

def Event.integers (event : Event) : List Int :=
  paramIntegers event.params ++ paramIntegers event.triggerParams ++
    event.conditions.flatMap fun c => paramIntegers c.params

def Module.integers (module : Module) : List Int :=
  module.nodes.flatMap fun node => paramIntegers node.params

/-- The integers in the values of variables and in the parameters of an entity. -/
def Entity.integers (entity : Entity) : List Int :=
  (entity.vars.flatMap fun v => v.value.integers) ++ entity.events.flatMap Event.integers ++
    entity.modules.flatMap Module.integers

def Project.integers (project : Project) : List Int :=
  project.entities.flatMap Entity.integers

/-- No integer in an entity is too large. -/
structure Entity.Bounded (entity : Entity) : Prop where
  vars : ∀ v ∈ entity.vars, v.value.Bounded
  params : ∀ e ∈ entity.events, ParamsBounded e.params
  triggerParams : ∀ e ∈ entity.events, ParamsBounded e.triggerParams
  conditions : ∀ e ∈ entity.events, ∀ c ∈ e.conditions, ParamsBounded c.params
  nodes : ∀ m ∈ entity.modules, ∀ n ∈ m.nodes, ParamsBounded n.params

theorem Entity.bounded_of_integers {entity : Entity} (h : Value.AllBounded entity.integers) :
    entity.Bounded := by
  obtain ⟨rest, modules⟩ := List.forall_mem_append.mp h
  obtain ⟨vars, events⟩ := List.forall_mem_append.mp rest
  have event : ∀ e ∈ entity.events, Value.AllBounded e.integers :=
    fun e he n hn => events n (List.mem_flatMap.mpr ⟨e, he, hn⟩)
  refine ⟨fun v hv n hn => vars n (List.mem_flatMap.mpr ⟨v, hv, hn⟩), fun e he => ?_, fun e he => ?_,
    fun e he c hc => ?_, fun m hm n hn => ?_⟩
  · exact paramsBounded_of_integers fun n hn =>
      event e he n (List.mem_append_left _ (List.mem_append_left _ hn))
  · exact paramsBounded_of_integers fun n hn =>
      event e he n (List.mem_append_left _ (List.mem_append_right _ hn))
  · exact paramsBounded_of_integers fun n hn =>
      event e he n (List.mem_append_right _ (List.mem_flatMap.mpr ⟨c, hc, hn⟩))
  · exact paramsBounded_of_integers fun k hk => modules k
      (List.mem_flatMap.mpr ⟨m, hm, List.mem_flatMap.mpr ⟨n, hn, hk⟩⟩)

end GraphScript
