import GraphScript.Config.Read
import GraphScript.Payload.Parse
import GraphScript.Proofs.Reading

namespace GraphScript

namespace Checked

variable {α β : Type} {f : Checked (α → β)} {x : Checked α}

/-- What is wrong is said without a fault. -/
def Calm : Checked α → Prop
  | good _ => True
  | bad issues => ∀ issue ∈ issues, issue.fault = none

/-- A reader that meets no fault in values whose integers can be written. -/
def IsCalm (read : Value → Checked α) : Prop :=
  ∀ value, value.Within Value.writableBound → (read value).Calm

theorem calm_complain (message : String) : (complain message : Checked α).Calm := by
  intro issue hi
  cases List.mem_singleton.mp hi
  rfl

theorem Calm.map (h : x.Calm) (f : α → β) : (x.map f).Calm := by
  cases x with
  | good => exact trivial
  | bad => exact h

theorem Calm.ap (hf : f.Calm) (hx : x.Calm) : (f.ap x).Calm := by
  cases f with
  | good =>
    cases x with
    | good => exact trivial
    | bad => exact hx
  | bad =>
    cases x with
    | good => exact hf
    | bad => exact List.forall_mem_append.mpr ⟨hf, hx⟩

theorem Calm.under (h : x.Calm) (step : String) : (x.under step).Calm := by
  cases x with
  | good => exact trivial
  | bad =>
    intro issue hi
    obtain ⟨inner, within, rfl⟩ := List.mem_map.mp hi
    exact h inner within

theorem Calm.fmap (h : x.Calm) (f : α → β) : (f <$> x).Calm :=
  Calm.ap (f := good f) trivial h

theorem Calm.seq (hf : f.Calm) (hx : x.Calm) : (f <*> x).Calm :=
  hf.ap hx

theorem isCalm_any : IsCalm any :=
  fun _ _ => trivial

theorem isCalm_text : IsCalm text := by
  intro value within
  unfold text
  split
  next =>
    rw [if_pos ((Value.isWritable_iff_within value).mpr within)]
    exact trivial
  next => exact calm_complain _

theorem isCalm_textOrEmpty : IsCalm textOrEmpty := by
  intro value within
  unfold textOrEmpty
  split
  next => exact trivial
  next => exact isCalm_text _ within

theorem isCalm_optionalText : IsCalm optionalText := by
  intro value within
  unfold optionalText
  split
  next => exact trivial
  next => exact (isCalm_text _ within).map _

theorem isCalm_optionalInteger : IsCalm optionalInteger := by
  intro value _
  unfold optionalInteger
  split
  next => exact trivial
  next =>
    split
    next => exact trivial
    next => exact calm_complain _

theorem isCalm_listOf {read : Value → Checked α} (h : IsCalm read) : IsCalm (listOf read) := by
  have items (position : Nat) (values : List Value)
      (within : ∀ value ∈ values, value.Within Value.writableBound) :
      (items read position values).Calm := by
    induction values generalizing position with
    | nil => exact trivial
    | cons value rest ih =>
      obtain ⟨first, others⟩ := List.forall_mem_cons.mp within
      exact (((h value first).under _).map _).ap (ih _ others)
  intro value within
  unfold listOf
  split
  next => exact trivial
  next values => exact items 0 values (Value.within_list.mp within)
  next => exact calm_complain _

theorem isCalm_params : IsCalm params := by
  have named (acc : Params) (entries : List (Value × Value))
      (within : ∀ entry ∈ entries, entry.1.Within Value.writableBound) : (named acc entries).Calm := by
    induction entries generalizing acc with
    | nil => exact trivial
    | cons entry rest ih =>
      obtain ⟨first, others⟩ := List.forall_mem_cons.mp within
      have name := isCalm_text entry.1 first
      unfold named
      dsimp only
      split
      next => exact ih _ others
      next => exact (((name.under _).under _).map _).ap (ih _ others)
  intro value within
  unfold params
  split
  next => exact trivial
  next entries => exact named [] entries fun entry he => (Value.within_map.mp within entry he).1
  next => exact calm_complain _

section

variable {entries : List (Value × Value)} (within : (Value.map entries).Within Value.writableBound)

include within

theorem calm_field (keys : List String) (default : α) {read : Value → Checked α} (h : IsCalm read) :
    (field entries keys default read).Calm := by
  unfold field
  split
  next key value present =>
    obtain ⟨name, -, found⟩ := List.exists_of_findSome?_eq_some present
    obtain ⟨_, found, same⟩ := Option.map_eq_some_iff.mp found
    cases same
    obtain ⟨k, hk⟩ := Value.find?_mem found
    exact (h value (Value.within_map.mp within _ hk).2).under key
  next => exact trivial

theorem calm_required (key : String) {read : Value → Checked α} (h : IsCalm read) :
    (required entries key read).Calm := by
  unfold required
  split
  next value found =>
    obtain ⟨k, hk⟩ := Value.find?_mem found
    exact (h value (Value.within_map.mp within _ hk).2).under key
  next => exact (calm_complain _).under key

end

theorem isCalm_model (title : String) {read : List (Value × Value) → Checked α}
    (h : ∀ entries, (Value.map entries).Within Value.writableBound → (read entries).Calm) :
    IsCalm (model title read) := by
  intro value within
  unfold model
  split
  next entries => exact h entries within
  next => exact calm_complain _

end Checked

open Checked

theorem Node.isCalm : IsCalm Node.ofValue :=
  isCalm_model _ fun _ within =>
    ((((calm_required within _ isCalm_text).fmap _).seq
      (calm_field within _ _ isCalm_textOrEmpty)).seq
      (calm_field within _ _ isCalm_optionalText)).seq (calm_field within _ _ isCalm_params)

theorem Edge.isCalm : IsCalm Edge.ofValue := by
  refine isCalm_model _ fun entries within => ?_
  have text (keys : List String) := calm_field within keys none isCalm_optionalText
  exact (((((text _).fmap _).seq (text _)).seq (text _)).seq (text _)).seq (text _)

theorem Module.isCalm : IsCalm Module.ofValue :=
  isCalm_model _ fun _ within =>
    (((((calm_field within _ _ isCalm_textOrEmpty).fmap _).seq
      (calm_field within _ _ isCalm_textOrEmpty)).seq
      (calm_field within _ _ isCalm_optionalText)).seq
      (calm_field within _ _ (isCalm_listOf Node.isCalm))).seq
      (calm_field within _ _ (isCalm_listOf Edge.isCalm))

theorem Variable.isCalm : IsCalm Variable.ofValue :=
  isCalm_model _ fun _ within =>
    ((((calm_field within _ _ isCalm_optionalText).fmap _).seq
      (calm_field within _ _ isCalm_textOrEmpty)).seq
      (calm_field within _ _ isCalm_textOrEmpty)).seq (calm_field within _ _ isCalm_any)

theorem Condition.isCalm : IsCalm Condition.ofValue :=
  isCalm_model _ fun _ within =>
    (((calm_field within _ _ isCalm_textOrEmpty).fmap _).seq
      (calm_field within _ _ isCalm_optionalText)).seq (calm_field within _ _ isCalm_params)

theorem Event.isCalm : IsCalm Event.ofValue :=
  isCalm_model _ fun _ within =>
    (((((((calm_field within _ _ isCalm_optionalText).fmap _).seq
      (calm_field within _ _ isCalm_textOrEmpty)).seq
      (calm_field within _ _ isCalm_params)).seq
      (calm_field within _ _ isCalm_optionalText)).seq
      (calm_field within _ _ (isCalm_listOf Condition.isCalm))).seq
      (calm_field within _ _ isCalm_optionalText)).seq (calm_field within _ _ isCalm_params)

theorem Entity.calm_ofEntries {entries : List (Value × Value)}
    (within : (Value.map entries).Within Value.writableBound) : (Entity.ofEntries entries).Calm := by
  have free (keys : List String) := calm_field within keys .null isCalm_any
  have text (keys : List String) := calm_field within keys none isCalm_optionalText
  exact (((((((((((((((calm_required within _ isCalm_text).fmap _).seq
    (calm_field within _ _ isCalm_textOrEmpty)).seq (text _)).seq (text _)).seq (text _)).seq
    (calm_field within _ _ (isCalm_listOf isCalm_text))).seq
    (free _)).seq (free _)).seq (free _)).seq (free _)).seq (free _)).seq
    (calm_field within _ _ (isCalm_listOf Variable.isCalm))).seq
    (calm_field within _ _ (isCalm_listOf Event.isCalm))).seq
    (calm_field within _ _ (isCalm_listOf Module.isCalm)))

theorem Scene.calm_ofEntries {entries : List (Value × Value)}
    (within : (Value.map entries).Within Value.writableBound) : (Scene.ofEntries entries).Calm :=
  ((((calm_field within _ _ isCalm_optionalText).fmap _).seq
    (calm_field within _ _ isCalm_optionalText)).seq
    (calm_field within _ _ isCalm_textOrEmpty)).seq
    (calm_field within _ _ (isCalm_listOf (isCalm_model _ fun _ => Entity.calm_ofEntries)))

theorem Project.calm_ofEntries {entries : List (Value × Value)}
    (within : (Value.map entries).Within Value.writableBound) : (Project.ofEntries entries).Calm :=
  (((((calm_field within _ _ isCalm_optionalInteger).fmap _).seq
    (calm_field within _ _ isCalm_optionalText)).seq
    (calm_field within _ _ isCalm_optionalText)).seq
    (calm_field within _ _ (isCalm_listOf (isCalm_model _ fun _ => Scene.calm_ofEntries)))).seq
    (calm_field within _ _ (isCalm_listOf isCalm_any))

theorem Checked.Calm.orReject {α : Type} {x : Checked α} (h : x.Calm) {title : String}
    {rejection : Rejection} (rejected : x.orReject title = .error rejection) :
    rejection.fault? = none := by
  cases x with
  | good => cases rejected
  | bad issues =>
    cases rejected
    exact List.findSome?_eq_none_iff.mpr h

theorem Checked.Calm.orReject_bind {α β : Type} {x : Checked α} (h : x.Calm) {f : α → β}
    {title : String} {rejection : Rejection}
    (rejected : (do return f (← x.orReject title)) = Except.error rejection) :
    rejection.fault? = none := by
  cases read : x.orReject title with
  | ok value =>
    rw [read] at rejected
    cases rejected
  | error other =>
    rw [read] at rejected
    cases rejected
    exact h.orReject read

/-- A document whose integers can be written is rejected without a fault. -/
theorem Project.ofPayload_calm {entries : List (Value × Value)}
    (within : (Value.map entries).Within Value.writableBound) {rejection : Rejection}
    (rejected : ofPayload entries = .error rejection) : rejection.fault? = none := by
  unfold ofPayload at rejected
  split at rejected
  next => exact (calm_ofEntries within).orReject rejected
  next =>
    split at rejected
    next value found =>
      have alone : (Value.map [(.text "entities", value)]).Within Value.writableBound := by
        obtain ⟨k, hk⟩ := Value.find?_mem found
        rw [Value.within_map]
        intro entry he
        cases List.mem_singleton.mp he
        exact ⟨Value.within_of_none rfl, (Value.within_map.mp within _ hk).2⟩
      exact (Scene.calm_ofEntries alone).orReject_bind rejected
    next => exact (Entity.calm_ofEntries within).orReject_bind rejected

section

variable {checkShape : Bool} {source : Option String} {entries : List (Value × Value)}

/-- A document that passes the check of its shape, or is not checked, is read. -/
theorem parsePayload_of_shape
    (passes : checkShape = true → Shape.isPayload (.map entries) = true) :
    parsePayload checkShape source (.map entries) =
      match Project.ofPayload entries with
      | .ok project => .ok project
      | .error rejection =>
        match rejection.fault? with
        | some f => .error (.fault f)
        | none => .error (.rejected source rejection.issues) := by
  have none : (if checkShape = true then Shape.complaints (.map entries) else []) = [] := by
    split
    next checked => rw [Shape.complaints, if_pos (passes checked)]
    next => rfl
  unfold parsePayload
  dsimp only
  rw [none]
  rfl

theorem parsePayload_of_not_shape (wrong : Shape.isPayload (.map entries) = false) :
    parsePayload true source (.map entries) =
      .error (if (Value.map entries).isWritable = true then
        .shape source (Shape.complaints (.map entries)) else .fault .integerTooLong) := by
  have given : (Shape.complaints (.map entries)).isEmpty = false := by
    rw [Shape.complaints, if_neg (by simp [wrong])]
    rfl
  unfold parsePayload
  dsimp only
  rw [if_pos rfl, given]
  rfl

end

theorem parsePayload_calm {checkShape : Bool} {source : Option String} {document : Value} {f : Fault}
    (writable : document.isWritable = true) :
    parsePayload checkShape source document ≠ .error (.fault f) := by
  intro stopped
  cases document with
  | map entries =>
    by_cases passes : checkShape = true → Shape.isPayload (.map entries) = true
    · rw [parsePayload_of_shape passes] at stopped
      split at stopped
      next => cases stopped
      next rejection rejected =>
        rw [Project.ofPayload_calm ((Value.isWritable_iff_within _).mp writable) rejected] at stopped
        cases stopped
    · obtain ⟨rfl, wrong⟩ := Classical.not_imp.mp passes
      rw [parsePayload_of_not_shape (Bool.eq_false_iff.mpr wrong), if_pos writable] at stopped
      cases stopped
  | _ => cases stopped

theorem Binary64.truncate?_lt {x : Binary64} {n : Int} (h : x.truncate? = some n) :
    n.natAbs < 2 ^ (53 + maxExponent.toNat) := by
  cases x with
  | finite negative mantissa exponent canonical =>
    cases h
    rw [Numeral.natAbs_withSign]
    obtain ⟨few, -, small, -⟩ := canonical
    have general {k : Int} (le : exponent ≤ k) :
        mantissa * Nat.pow 2 exponent.toNat / Nat.pow 2 (-exponent).toNat < 2 ^ (53 + k.toNat) := by
      have power : 2 ^ exponent.toNat ≤ 2 ^ k.toNat :=
        Nat.pow_le_pow_right (by decide) (Int.toNat_le_toNat le)
      calc mantissa * 2 ^ exponent.toNat / 2 ^ (-exponent).toNat
          ≤ mantissa * 2 ^ exponent.toNat := Nat.div_le_self _ _
        _ ≤ mantissa * 2 ^ k.toNat := Nat.mul_le_mul_left _ power
        _ < 2 ^ 53 * 2 ^ k.toNat := Nat.mul_lt_mul_of_pos_right few (Nat.pow_pos (by decide))
        _ = 2 ^ (53 + k.toNat) := (Nat.pow_add ..).symm
    exact general small
  | infinite => cases h
  | undefined => cases h

namespace Config

/-- Where the first key that is no text stands, there is one. -/
theorem firstKeyKind_eq_none_iff {position : Nat} {keys : List Value} :
    firstKeyKind position keys = none ↔ ∀ key ∈ keys, ∃ s, key = .text s := by
  induction keys generalizing position with
  | nil => simp [firstKeyKind]
  | cons key rest ih =>
    rw [List.forall_mem_cons]
    cases key with
    | text s =>
      rw [firstKeyKind, ih]
      exact ⟨fun h => ⟨⟨s, rfl⟩, h⟩, And.right⟩
    | _ => simp [firstKeyKind]

/-- The two integers of a draft can be written. -/
def Draft.Writable (d : Draft) : Prop :=
  d.maxTraversalDepth.natAbs < Value.writableBound ∧ d.maxEmittedNodes.natAbs < Value.writableBound

theorem settingInt?_lt {text : String} {n : Int} (h : Numeral.settingInt? text = some n) :
    n.natAbs < Value.writableBound := by
  obtain ⟨cs, -, h⟩ := Option.bind_eq_some_iff.mp h
  split at h
  next => cases h
  next few =>
    unfold Numeral.readInt? at h
    dsimp only at h
    split at h
    next => cases h
    next ds found =>
      cases h
      have small := Numeral.spanDigits_lt Numeral.decimalValue?_lt (Numeral.spanSign cs).2
      rw [found] at small few
      rw [Numeral.natAbs_withSign]
      exact Value.lt_writableBound _ (Numeral.ofDigits_lt_pow small) (Nat.le_of_not_lt few)
    next => cases h

theorem intSetting?_lt {value : Value} {n : Int} (bounded : value.Bounded)
    (h : intSetting? value = some n) : n.natAbs < Value.writableBound := by
  unfold intSetting? at h
  split at h
  next =>
    cases h
    exact Value.bounded_lt_writableBound (bounded n (by simp [Value.integers]))
  next x =>
    split at h
    next =>
      have decimal := (Binary64.truncate?_lt h).trans_le (Nat.pow_le_pow_left (by decide : 2 ≤ 10) _)
      exact Value.lt_writableBound _ decimal (by decide)
    next => cases h
  next => exact settingInt?_lt h
  next => cases h

/-- A setting takes a value of moderate size or refuses it, and what it takes can be written. -/
def Setting.Keeps (s : Setting) : Prop :=
  ∀ d value, d.Writable → value.Bounded →
    s.set d value = .ok none ∨ ∃ after, s.set d value = .ok (some after) ∧ after.Writable

theorem textSetting_keeps (name : String) {put : Draft → String → Draft} (give : Config → String)
    (h : ∀ d x, d.Writable → (put d x).Writable) : (textSetting name put give).Keeps := by
  intro d value writable _
  dsimp only [textSetting]
  cases textSetting? value with
  | none => exact .inl rfl
  | some x => exact .inr ⟨_, rfl, h d x writable⟩

theorem intSetting_keeps (name : String) {put : Draft → Int → Draft} (give : Config → Nat)
    (h : ∀ d n, d.Writable → n.natAbs < Value.writableBound → (put d n).Writable) :
    (intSetting name put give).Keeps := by
  intro d value writable bounded
  dsimp only [intSetting]
  cases read : intSetting? value with
  | none => exact .inl rfl
  | some n => exact .inr ⟨_, rfl, h d n writable (intSetting?_lt bounded read)⟩

theorem numberSetting_keeps (name : String) {put : Draft → Binary64 → Draft} (give : Config → Binary64)
    (h : ∀ d x, d.Writable → (put d x).Writable) : (numberSetting name put give).Keeps := by
  intro d value writable bounded
  have read : ∃ x, numberSetting? value = .ok x := by
    cases value with
    | int n =>
      obtain ⟨x, fits⟩ := Option.isSome_iff_exists.mp (bounded n (by simp [Value.integers]))
      exact ⟨some x, by rw [numberSetting?, fits]⟩
    | _ => exact ⟨_, rfl⟩
  obtain ⟨x, read⟩ := read
  dsimp only [numberSetting]
  rw [read]
  cases x with
  | none => exact .inl rfl
  | some x => exact .inr ⟨_, rfl, h d x writable⟩

theorem settings_keep : ∀ s ∈ settings, s.Keeps := by
  unfold settings
  simp only [List.forall_mem_cons, List.not_mem_nil, false_implies, implies_true, and_true]
  refine ⟨?_, ?_, ?_, ?_, ?_, ?_, ?_, ?_, ?_, ?_, ?_, ?_⟩
  any_goals exact textSetting_keeps _ _ fun _ _ writable => writable
  any_goals exact numberSetting_keeps _ _ fun _ _ writable => writable
  · exact intSetting_keeps _ _ fun _ _ writable small => ⟨small, writable.2⟩
  · exact intSetting_keeps _ _ fun _ _ writable small => ⟨writable.1, small⟩

theorem mem_of_setting? {key : Value} {s : Setting} (h : setting? key = some s) : s ∈ settings := by
  unfold setting? at h
  split at h
  next => exact List.mem_of_find?_eq_some h
  next => cases h

theorem fill_cases {d : Draft} {entries : List (Value × Value)} (writable : d.Writable)
    (bounded : ∀ entry ∈ entries, entry.2.Bounded) :
    (∃ after, fill d entries = .ok after ∧ after.Writable) ∨
      ∃ issue, fill d entries = .error (.issue issue) := by
  induction entries generalizing d with
  | nil => exact .inl ⟨d, rfl, writable⟩
  | cons entry rest ih =>
    obtain ⟨first, others⟩ := List.forall_mem_cons.mp bounded
    rw [fill]
    split
    next => exact ih writable others
    next s known =>
      have keeps := settings_keep s (mem_of_setting? known)
      rcases keeps d entry.2 writable first with set | ⟨after, set, kept⟩
      · rw [set]
        have given : (Issue.badValue s.name entry.2).isWritable = true :=
          Value.isWritable_of_bounded entry.2 first
        exact .inr ⟨_, congrArg Except.error (if_pos given)⟩
      · rw [set]
        exact ih kept others

theorem Draft.Writable.check {d : Draft} (writable : d.Writable) {issue : Issue}
    (h : d.check = .error issue) : issue.isWritable = true := by
  unfold Draft.check at h
  split at h
  next =>
    cases h
    rfl
  split at h
  next =>
    cases h
    rfl
  split at h
  next =>
    cases h
    rw [Issue.isWritable]
    exact Value.isWritable_int writable.1
  split at h
  next =>
    cases h
    rw [Issue.isWritable]
    exact Value.isWritable_int writable.2
  -- the other complaints are about texts
  repeat' split at h
  all_goals
    cases h
    try rfl

theorem Draft.default_writable : Draft.default.Writable :=
  ⟨Value.lt_writableBound 3 (by decide) (by decide),
    Value.lt_writableBound 4 (by decide) (by decide)⟩

/-- Settings of moderate size are refused by a complaint if and only if all keys are texts. -/
theorem ofEntries_calm_iff {entries : List (Value × Value)}
    (bounded : ∀ entry ∈ entries, entry.2.Bounded) :
    (∀ failure, ofEntries entries = .error failure → ∃ issue, failure = .issue issue) ↔
      (Value.map entries).HasTextKeys := by
  have sorted {keys : List Value} {key : Value} : key ∈ sortedKeys keys ↔ key ∈ keys :=
    (List.mergeSort_perm keys keyLE).mem_iff
  unfold ofEntries
  dsimp only
  generalize unknown : (entries.map Prod.fst).filter (fun key => (setting? key).isNone) = keys
  have strange {key : Value} :
      key ∈ keys ↔ (∃ entry ∈ entries, entry.1 = key) ∧ setting? key = none := by
    rw [← unknown, List.mem_filter, List.mem_map, Option.isNone_iff_eq_none]
  constructor
  · intro calm entry he
    -- a key that is no text names no setting
    by_contra wrong
    have none : setting? entry.1 = none := by
      unfold setting?
      split
      next s same => exact absurd ⟨s, same⟩ wrong
      next => rfl
    have there : entry.1 ∈ keys := strange.mpr ⟨⟨entry, he, rfl⟩, none⟩
    have nonempty : keys.isEmpty = false := by
      cases keys with
      | nil => cases there
      | cons => rfl
    rw [nonempty] at calm
    cases first : firstKeyKind 0 (sortedKeys keys) with
    | none => exact wrong (firstKeyKind_eq_none_iff.mp first _ (sorted.mpr there))
    | some found =>
      rw [first] at calm
      obtain ⟨issue, same⟩ := calm _ rfl
      cases same
  · intro texts failure failed
    split at failed
    next =>
      have first : firstKeyKind 0 (sortedKeys keys) = none := by
        rw [firstKeyKind_eq_none_iff]
        intro key hk
        obtain ⟨⟨entry, he, rfl⟩, -⟩ := strange.mp (sorted.mp hk)
        exact texts entry he
      rw [first] at failed
      cases failed
      exact ⟨_, rfl⟩
    next =>
      rcases fill_cases Draft.default_writable bounded with ⟨draft, filled, writable⟩ | ⟨issue, filled⟩
      · rw [filled] at failed
        dsimp only [bind, Except.bind] at failed
        split at failed
        next => cases failed
        next issue refused =>
          rw [refuse, if_pos (writable.check refused)] at failed
          cases failed
          exact ⟨_, rfl⟩
      · rw [filled] at failed
        cases failed
        exact ⟨_, rfl⟩

/-- The environment gives texts under texts, and no key is lost by it. -/
theorem layered_calm_iff {entries : List (Value × Value)} (environment : Log.Environment)
    (bounded : ∀ entry ∈ entries, entry.2.Bounded) :
    (∀ failure, (layered entries environment).2 = .error failure → ∃ issue, failure = .issue issue) ↔
      (Value.map entries).HasTextKeys := by
  unfold layered
  dsimp only
  generalize overrides environment = found
  have layers : found.foldl (fun acc entry => Value.put (.text entry.1) (.text entry.2) acc) entries =
      (found.map fun entry => (Value.text entry.1, Value.text entry.2)).foldl
        (fun acc entry => Value.put entry.1 entry.2 acc) entries := by
    rw [List.foldl_map]
  rw [layers]
  have given : ∀ entry ∈ found.map fun entry => (Value.text entry.1, Value.text entry.2),
      (∃ s, entry.1 = .text s) ∧ entry.2.Bounded := by
    intro entry he
    obtain ⟨pair, -, rfl⟩ := List.mem_map.mp he
    exact ⟨⟨_, rfl⟩, fun n hn => by cases hn⟩
  generalize found.map (fun entry => (Value.text entry.1, Value.text entry.2)) = added at given
  rw [ofEntries_calm_iff]
  · constructor
    · intro texts entry he
      obtain ⟨e, he, same⟩ := Value.key_mem_foldl_put added he
      rw [← same]
      exact texts e he
    · intro texts entry he
      obtain ⟨⟨e, he, same⟩, -⟩ := Value.mem_foldl_put he
      rw [← same]
      rcases List.mem_append.mp he with he | he
      · exact (given e he).1
      · exact texts e he
  · intro entry he
    obtain ⟨-, e, he, same⟩ := Value.mem_foldl_put he
    rw [← same]
    rcases List.mem_append.mp he with he | he
    · exact (given e he).2
    · exact bounded e he

end Config

end GraphScript
