import GraphScript.Proofs.Faultless
import GraphScript.Proofs.Tolerance

namespace GraphScript

theorem Value.entry_mem_of_find? {name : String} {entries : List (Value × Value)} {value : Value}
    (h : find? name entries = some value) : (.text name, value) ∈ entries := by
  induction entries with
  | nil => cases h
  | cons entry rest ih =>
    unfold find? at h
    split at h
    next none => cases none
    next same =>
      cases same
      split at h
      next own =>
        cases h
        rw [own]
        exact List.mem_cons_self
      next => exact List.mem_cons_of_mem _ (ih h)
    next same =>
      cases same
      exact List.mem_cons_of_mem _ (ih h)

namespace Config

/-- The settings of a draft with their names. -/
def Draft.view (d : Draft) : Params :=
  [("output_dir", .text d.outputDir), ("class_prefix", .text d.classPrefix),
   ("pixels_per_unit", .float d.pixelsPerUnit), ("arrive_epsilon", .float d.arriveEpsilon),
   ("max_traversal_depth", .int d.maxTraversalDepth), ("max_emitted_nodes", .int d.maxEmittedNodes),
   ("service_mode", .text d.serviceMode), ("context_type", .text d.contextType),
   ("runtime_namespace", .text d.runtimeNamespace), ("health_field", .text d.healthField),
   ("default_health", .float d.defaultHealth), ("indent", .text d.indent)]

theorem Draft.view_injective {d e : Draft} (h : d.view = e.view) : d = e := by
  obtain ⟨⟩ := d
  obtain ⟨⟩ := e
  simpa [view] using h

/-- The value of a setting that is not given. -/
def standard (name : String) : Value :=
  (Draft.default.view.lookup name).getD .null

/-- A value as one of the kind of the standard value, if it can be had. -/
def converted (standard value : Value) : Except Fault (Option Value) :=
  match standard with
  | .int _ => .ok ((intSetting? value).map .int)
  | .float _ => (numberSetting? value).map (Option.map .float)
  | _ => .ok ((textSetting? value).map .text)

/-- Named values with one of them replaced. -/
def assigned (name : String) (value : Value) (view : Params) : Params :=
  view.map fun entry => if entry.1 = name then (name, value) else entry

/-- A setting puts the converted value in its own place and leaves the others as they are. -/
def Setting.Converts (s : Setting) : Prop :=
  ∀ d value, (s.set d value).map (Option.map Draft.view) =
    (converted (standard s.name) value).map (Option.map fun w => assigned s.name w d.view)

theorem Setting.Converts.of_read {s : Setting} {α : Type} (read : Value → Except Fault (Option α))
    {wrap : α → Value} {put : Draft → α → Draft}
    (set : ∀ d value, s.set d value = (read value).map (Option.map (put d)))
    (own : ∀ value, converted (standard s.name) value = (read value).map (Option.map wrap))
    (h : ∀ d x, (put d x).view = assigned s.name (wrap x) d.view) : s.Converts := by
  intro d value
  rw [set, own]
  cases read value with
  | error f => rfl
  | ok found =>
    cases found with
    | none => rfl
    | some x =>
      dsimp only [Except.map, Option.map_some]
      rw [h]

theorem settings_convert : ∀ s ∈ settings, s.Converts := by
  have text {name : String} {put : Draft → String → Draft} {give : Config → String}
      (own : ∀ value, converted (standard name) value = .ok ((textSetting? value).map .text))
      (h : ∀ d x, (put d x).view = assigned name (.text x) d.view) :
      (textSetting name put give).Converts :=
    .of_read (fun value => .ok (textSetting? value)) (fun _ _ => rfl) own h
  have int {name : String} {put : Draft → Int → Draft} {give : Config → Nat}
      (own : ∀ value, converted (standard name) value = .ok ((intSetting? value).map .int))
      (h : ∀ d x, (put d x).view = assigned name (.int x) d.view) :
      (intSetting name put give).Converts :=
    .of_read (fun value => .ok (intSetting? value)) (fun _ _ => rfl) own h
  have number {name : String} {put : Draft → Binary64 → Draft} {give : Config → Binary64}
      (own : ∀ value, converted (standard name) value =
        (numberSetting? value).map (Option.map .float))
      (h : ∀ d x, (put d x).view = assigned name (.float x) d.view) :
      (numberSetting name put give).Converts :=
    .of_read numberSetting? (fun _ _ => rfl) own h
  unfold settings
  simp only [List.forall_mem_cons, List.not_mem_nil, false_implies, implies_true, and_true]
  exact ⟨text (fun _ => rfl) fun _ _ => rfl, text (fun _ => rfl) fun _ _ => rfl,
    number (fun _ => rfl) fun _ _ => rfl, number (fun _ => rfl) fun _ _ => rfl,
    int (fun _ => rfl) fun _ _ => rfl, int (fun _ => rfl) fun _ _ => rfl,
    text (fun _ => rfl) fun _ _ => rfl, text (fun _ => rfl) fun _ _ => rfl,
    text (fun _ => rfl) fun _ _ => rfl, text (fun _ => rfl) fun _ _ => rfl,
    number (fun _ => rfl) fun _ _ => rfl, text (fun _ => rfl) fun _ _ => rfl⟩

theorem set_cases {s : Setting} (hs : s ∈ settings) (d : Draft) (value : Value) :
    (∃ f, s.set d value = .error f ∧ converted (standard s.name) value = .error f) ∨
    (s.set d value = .ok none ∧ converted (standard s.name) value = .ok none) ∨
    ∃ after w, s.set d value = .ok (some after) ∧
      converted (standard s.name) value = .ok (some w) ∧ after.view = assigned s.name w d.view := by
  have same := settings_convert s hs d value
  cases set : s.set d value with
  | error f =>
    cases own : converted (standard s.name) value with
    | error g =>
      rw [set, own] at same
      cases same
      exact .inl ⟨f, rfl, rfl⟩
    | ok found =>
      rw [set, own] at same
      cases same
  | ok found =>
    cases own : converted (standard s.name) value with
    | error g =>
      rw [set, own] at same
      cases same
    | ok found' =>
      rw [set, own] at same
      cases found with
      | none =>
        cases found' with
        | none => exact .inr (.inl ⟨rfl, rfl⟩)
        | some w => cases same
      | some after =>
        cases found' with
        | none => cases same
        | some w =>
          have view : after.view = assigned s.name w d.view := Option.some.inj (Except.ok.inj same)
          exact .inr (.inr ⟨after, w, rfl, rfl, view⟩)

/-- A value that a setting can be given. -/
def Takes (name : String) (value : Value) : Prop :=
  ∃ w, converted (standard name) value = .ok (some w)

theorem setting?_eq_some {key : Value} {s : Setting} (h : setting? key = some s) :
    s ∈ settings ∧ key = .text s.name := by
  unfold setting? at h
  split at h
  next name =>
    have same : s.name = name := by simpa using List.find?_some h
    exact ⟨List.mem_of_find?_eq_some h, by rw [same]⟩
  next => cases h

theorem fill_ends_iff (d : Draft) (entries : List (Value × Value)) :
    (∃ after, fill d entries = .ok after) ↔
      ∀ entry ∈ entries, ∀ s, setting? entry.1 = some s → Takes s.name entry.2 := by
  induction entries generalizing d with
  | nil => simp [fill]
  | cons entry rest ih =>
    obtain ⟨key, value⟩ := entry
    rw [List.forall_mem_cons, fill]
    split
    next none =>
      rw [ih, and_iff_right]
      intro s known
      rw [none] at known
      cases known
    next s known =>
      have only : (∀ other, setting? key = some other → Takes other.name value) ↔ Takes s.name value :=
        ⟨fun all => all s known, fun own other same => by cases known.symm.trans same; exact own⟩
      rw [only]
      rcases set_cases (mem_of_setting? known) d value with ⟨f, set, own⟩ | ⟨set, own⟩ |
        ⟨after, w, set, own, -⟩
      · rw [set]
        exact iff_of_false (by rintro ⟨_, h⟩; cases h) (by rintro ⟨⟨w, h⟩, -⟩; cases own.symm.trans h)
      · rw [set]
        exact iff_of_false (by rintro ⟨_, h⟩; cases h) (by rintro ⟨⟨w, h⟩, -⟩; cases own.symm.trans h)
      · rw [set, and_iff_right ⟨w, own⟩]
        exact ih after

/-- The last value under a name. -/
def lastUnder? (name : String) (entries : List (Value × Value)) : Option Value :=
  Value.find? name entries.reverse

/-- The value that a setting makes of another one. -/
def settled (name : String) (value : Value) : Value :=
  match converted (standard name) value with
  | .ok (some w) => w
  | _ => .null

/-- Every setting is what the last value under its name becomes; the others stay. -/
theorem fill_view {d after : Draft} {entries : List (Value × Value)}
    (known : ∀ entry ∈ entries, ∃ s, setting? entry.1 = some s) (h : fill d entries = .ok after) :
    after.view = d.view.map fun entry =>
      (entry.1, ((lastUnder? entry.1 entries).map (settled entry.1)).getD entry.2) := by
  induction entries generalizing d with
  | nil =>
    cases h
    exact (List.map_id _).symm
  | cons entry rest ih =>
    obtain ⟨⟨s, hs⟩, others⟩ := List.forall_mem_cons.mp known
    obtain ⟨key, value⟩ := entry
    obtain ⟨hm, rfl⟩ := setting?_eq_some hs
    rw [fill, hs] at h
    dsimp only at h
    rcases set_cases hm d value with ⟨f, set, own⟩ | ⟨set, own⟩ | ⟨next, w, set, own, view⟩
    · rw [set] at h
      cases h
    · rw [set] at h
      cases h
    · rw [set] at h
      rw [ih others h, view, assigned, List.map_map]
      refine List.map_congr_left fun entry _ => ?_
      have here : settled s.name value = w := by rw [settled, own]
      have last : lastUnder? entry.1 ((.text s.name, value) :: rest) =
          (lastUnder? entry.1 rest).or (if s.name = entry.1 then some value else none) := by
        rw [lastUnder?, List.reverse_cons, Value.find?_append]
        rfl
      rw [Function.comp_apply, last]
      by_cases same : entry.1 = s.name
      · rw [if_pos same, same, if_pos rfl]
        cases lastUnder? s.name rest with
        | none => simp [here]
        | some v => rfl
      · rw [if_neg same, if_neg (Ne.symm same), Option.or_none]

theorem serviceMode?_name {text : String} {mode : ServiceMode} (h : serviceMode? text = some mode) :
    mode.name = text := by
  unfold serviceMode? at h
  split at h
  all_goals cases h
  all_goals rfl

/-- What passes the checks is in range as far as comparisons tell, and nothing is changed. -/
theorem Draft.check_eq_ok {d : Draft} {config : Config} (h : d.check = .ok config) :
    config.pixelsPerUnit.isNegative = false ∧ config.pixelsPerUnit.isZero = false ∧
      config.arriveEpsilon.isNegative = false ∧ 1 ≤ config.maxTraversalDepth ∧
      1 ≤ config.maxEmittedNodes ∧ config.view = d.view := by
  unfold check at h
  split at h
  next => cases h
  next pixels =>
    split at h
    next => cases h
    next arrive =>
      split at h
      next => cases h
      next depth =>
        split at h
        next => cases h
        next nodes =>
          split at h
          next => cases h
          next mode known =>
            -- the three texts that are left to check are taken as they are
            iterate 3
              split at h
              next => cases h
            cases h
            have depth' : ((d.maxTraversalDepth.toNat : Nat) : Int) = d.maxTraversalDepth := by omega
            have nodes' : ((d.maxEmittedNodes.toNat : Nat) : Int) = d.maxEmittedNodes := by omega
            rw [Bool.not_eq_true, Bool.or_eq_false_iff] at pixels
            refine ⟨pixels.1, pixels.2, Bool.eq_false_iff.mpr arrive, ?_, ?_, ?_⟩
            · show 1 ≤ d.maxTraversalDepth.toNat
              omega
            · show 1 ≤ d.maxEmittedNodes.toNat
              omega
            · simp only [Config.view, settings, textSetting, intSetting, numberSetting, List.map_cons,
                List.map_nil, Draft.view, depth', nodes', serviceMode?_name known]

/-- The settings that entries give: each is the last value under its name, converted, or the standard
one. -/
def settledView (entries : List (Value × Value)) : Params :=
  Draft.default.view.map fun entry =>
    (entry.1, ((lastUnder? entry.1 entries).map (settled entry.1)).getD entry.2)

/-- Entries are accepted exactly if every key is known, every value can be converted and the settings
that they give are in range. -/
theorem ofEntries_eq_ok_iff {entries : List (Value × Value)} {config : Config} :
    ofEntries entries = .ok config ↔
      (∀ entry ∈ entries, ∃ s, setting? entry.1 = some s ∧ Takes s.name entry.2) ∧
        ∃ d : Draft, d.view = settledView entries ∧ d.check = .ok config := by
  have known : ((entries.map Prod.fst).filter fun key => (setting? key).isNone).isEmpty = true ↔
      ∀ entry ∈ entries, ∃ s, setting? entry.1 = some s := by
    simp [List.filter_eq_nil_iff, Option.ne_none_iff_exists']
  unfold ofEntries
  dsimp only
  split
  next stranger =>
    refine iff_of_false (fun h => ?_) fun h => ?_
    · split at h <;> cases h
    · rw [known.mpr fun entry he => (h.1 entry he).imp fun _ => And.left] at stranger
      cases stranger
  next none =>
    have all := known.mp (by simpa using none)
    have ends := fill_ends_iff .default entries
    have taken : (∀ entry ∈ entries, ∀ s, setting? entry.1 = some s → Takes s.name entry.2) ↔
        ∀ entry ∈ entries, ∃ s, setting? entry.1 = some s ∧ Takes s.name entry.2 := by
      refine forall₂_congr fun entry he => ?_
      obtain ⟨s, hs⟩ := all entry he
      simp [hs]
    rw [← taken, ← ends]
    cases filled : fill .default entries with
    | error failure =>
      refine iff_of_false (fun h => ?_) fun h => ?_
      · cases h
      · obtain ⟨⟨_, h⟩, -⟩ := h
        cases h
    | ok draft =>
      have view : draft.view = settledView entries := fill_view all filled
      have only : (∃ d : Draft, d.view = settledView entries ∧ d.check = .ok config) ↔
          draft.check = .ok config := by
        constructor
        · rintro ⟨d, same, checked⟩
          cases Draft.view_injective (same.trans view.symm)
          exact checked
        · exact fun checked => ⟨draft, view, checked⟩
      rw [only, and_iff_right ⟨draft, rfl⟩]
      dsimp only [bind, Except.bind]
      split
      next checked => rw [checked, Except.ok.injEq, Except.ok.injEq]
      next refused =>
        rw [refused]
        exact iff_of_false (fun h => by cases h) (fun h => by cases h)

end Config

end GraphScript
