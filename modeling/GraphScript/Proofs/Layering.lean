import GraphScript.Proofs.DistinctKeys
import GraphScript.Proofs.Documented

namespace GraphScript

namespace Config

open Value (Names)

/-- The variable that gives a setting. -/
def variableOf (name : String) : String :=
  variablePrefix ++ Text.upper name

/-- What is given for a setting: by the environment, or else by the file. -/
def given? (entries : List (Value × Value)) (environment : Log.Environment) (name : String) :
    Option Value :=
  ((environment.lookup (variableOf name)).map .text).or (Value.find? name entries)

/-- A setting has the value that is given for it, converted, or the standard one. -/
def Resolves (entries : List (Value × Value)) (environment : Log.Environment) (name : String)
    (value : Value) : Prop :=
  match given? entries environment name with
  | some v => converted (standard name) v = .ok (some value)
  | none => value = standard name

section Overlay

variable {environment : Log.Environment} {entries : List (Value × Value)} {ids : List String}

/-- Entries with the value of one variable on top. -/
def overlayOne (environment : Log.Environment) (entries : List (Value × Value)) (name : String) :
    List (Value × Value) :=
  match environment.lookup (variableOf name) with
  | some value => Value.put (.text name) (.text value) entries
  | none => entries

/-- Entries with the values of the variables of some names on top. -/
def overlay (environment : Log.Environment) (entries : List (Value × Value)) (names : List String) :
    List (Value × Value) :=
  names.foldl (overlayOne environment) entries

/-- The entries that settings are read from. -/
def merged (environment : Log.Environment) (entries : List (Value × Value)) : List (Value × Value) :=
  overlay environment entries (settings.map Setting.name)

theorem layered_eq (entries : List (Value × Value)) (environment : Log.Environment) :
    (layered entries environment).2 = ofEntries (merged environment entries) := by
  unfold layered overrides merged overlay
  dsimp only
  rw [List.foldl_filterMap, List.foldl_map]
  congr 2
  funext acc s
  unfold overlayOne variableOf
  cases environment.lookup (variablePrefix ++ Text.upper s.name) <;> rfl

theorem find?_overlayOne (name id : String) :
    Value.find? id (overlayOne environment entries name) =
      if name = id then given? entries environment id else Value.find? id entries := by
  unfold overlayOne given?
  split
  next value found =>
    rw [Value.find?_put]
    split
    next own => rw [← own, found]; rfl
    next => rfl
  next none =>
    split
    next own => rw [← own, none]; rfl
    next => rfl

theorem given?_overlayOne (name id : String) :
    given? (overlayOne environment entries name) environment id = given? entries environment id := by
  unfold given?
  rw [find?_overlayOne]
  split
  next =>
    unfold given?
    cases environment.lookup (variableOf id) <;> rfl
  next => rfl

theorem find?_overlay (names : List String) (id : String) :
    Value.find? id (overlay environment entries names) =
      if id ∈ names then given? entries environment id else Value.find? id entries := by
  induction names generalizing entries with
  | nil => rfl
  | cons name rest ih =>
    -- a name may come again: its variable then gives the same value once more
    have step : Value.find? id (overlay environment (overlayOne environment entries name) rest) = _ := ih
    rw [given?_overlayOne, find?_overlayOne] at step
    refine step.trans ?_
    by_cases later : id ∈ rest
    · rw [if_pos later, if_pos (List.mem_cons_of_mem _ later)]
    · by_cases own : name = id
      · rw [if_neg later, if_pos own, if_pos (own ▸ List.mem_cons_self)]
      · rw [if_neg later, if_neg own, if_neg]
        exact List.not_mem_cons_of_ne_of_not_mem (Ne.symm own) later

/-- The keys of entries with variables on top depend on the keys alone. -/
theorem names_overlay (environment : Log.Environment) (ids names : List String) :
    ∃ ids', ∀ entries, Names entries ids → Names (overlay environment entries names) ids' := by
  induction names generalizing ids with
  | nil => exact ⟨ids, fun _ h => h⟩
  | cons name rest ih =>
    cases found : environment.lookup (variableOf name) with
    | none =>
      obtain ⟨ids', all⟩ := ih ids
      refine ⟨ids', fun entries h => ?_⟩
      rw [overlay, List.foldl_cons, overlayOne, found]
      exact all entries h
    | some value =>
      obtain ⟨ids', all⟩ := ih (if name ∈ ids then ids else ids ++ [name])
      refine ⟨ids', fun entries h => ?_⟩
      rw [overlay, List.foldl_cons, overlayOne, found]
      exact all _ (h.put name (.text value))

theorem names_merged (environment : Log.Environment) (ids : List String) :
    ∃ ids', ∀ entries, Names entries ids → Names (merged environment entries) ids' :=
  names_overlay environment ids _

theorem find?_merged {s : Setting} (hs : s ∈ settings) :
    Value.find? s.name (merged environment entries) = given? entries environment s.name := by
  rw [merged, find?_overlay, if_pos (List.mem_map_of_mem hs)]

theorem find?_merged_other {id : String} (other : ∀ s ∈ settings, s.name ≠ id) :
    Value.find? id (merged environment entries) = Value.find? id entries := by
  rw [merged, find?_overlay, if_neg]
  intro there
  obtain ⟨s, hs, own⟩ := List.mem_map.mp there
  exact other s hs own

end Overlay

section Settings

variable {environment : Log.Environment} {entries : List (Value × Value)} {ids ids' : List String}

theorem setting?_eq_none_iff {id : String} :
    setting? (.text id) = none ↔ ∀ s ∈ settings, s.name ≠ id := by
  unfold setting?
  rw [List.find?_eq_none]
  simp

/-- Unknown keys are refused before anything else is looked at, and all of them are named. -/
theorem ofEntries_of_unknown (h : Names entries ids)
    (unknown : ∃ id ∈ ids, setting? (.text id) = none) :
    ofEntries entries = .error (.issue (.unknownKeys
      ((ids.filter fun id => (setting? (.text id)).isNone).mergeSort fun a b => decide (a ≤ b)))) := by
  have keys : (entries.map Prod.fst).filter (fun key => (setting? key).isNone) =
      (ids.filter fun id => (setting? (.text id)).isNone).map .text := by
    rw [h.keys, List.filter_map]
    rfl
  have texts (ids : List String) : (ids.map .text).filterMap keyText? = ids := by
    rw [List.filterMap_map]
    exact List.filterMap_some
  have first (ids : List String) : firstKeyKind 0 (sortedKeys (ids.map .text)) = none := by
    rw [firstKeyKind_eq_none_iff]
    intro key hk
    obtain ⟨id, -, rfl⟩ := List.mem_map.mp ((List.mergeSort_perm _ keyLE).mem_iff.mp hk)
    exact ⟨id, rfl⟩
  have some : ((ids.filter fun id => (setting? (.text id)).isNone).map Value.text).isEmpty = false := by
    simpa using unknown
  unfold ofEntries
  dsimp only
  rw [keys, texts, first, some]
  rfl

theorem converted_eq_iff {name : String} {v value : Value} :
    converted (standard name) v = .ok (some value) ↔ Takes name v ∧ value = settled name v := by
  constructor
  · intro h
    exact ⟨⟨value, h⟩, by rw [settled, h]⟩
  · rintro ⟨⟨w, h⟩, rfl⟩
    rw [settled, h]

theorem resolves_iff {name : String} {value : Value} :
    Resolves entries environment name value ↔
      (∀ v, given? entries environment name = some v → Takes name v) ∧
        value = ((given? entries environment name).map (settled name)).getD (standard name) := by
  unfold Resolves
  cases given? entries environment name with
  | none => simp
  | some v => simp [converted_eq_iff]

/-- The entries that settings are read from have known keys and good values exactly if the file's keys
are known and what is given for each setting is good. -/
theorem merged_taken_iff (own : Names entries ids) (h : Names (merged environment entries) ids') :
    (∀ entry ∈ merged environment entries, ∃ s, setting? entry.1 = some s ∧ Takes s.name entry.2) ↔
      (∀ entry ∈ entries, ∃ s ∈ settings, entry.1 = .text s.name) ∧
        ∀ s ∈ settings, ∀ v, given? entries environment s.name = some v → Takes s.name v := by
  constructor
  · intro all
    refine ⟨fun entry he => ?_, fun s hs v given => ?_⟩
    · obtain ⟨id, -, key⟩ := own.key he
      -- a key that names no setting is still there after the merge
      by_contra strange
      have other : ∀ s ∈ settings, s.name ≠ id := fun s hs same => strange ⟨s, hs, by rw [key, same]⟩
      rw [key, ← own.find?_iff, ← find?_merged_other other, h.find?_iff] at he
      obtain ⟨s, known, -⟩ := all _ he
      exact other s (mem_of_setting? known) (Value.text.inj (setting?_eq_some known).2).symm
    · rw [← find?_merged hs, h.find?_iff] at given
      obtain ⟨s', known, takes⟩ := all _ given
      rw [← Value.text.inj (setting?_eq_some known).2] at takes
      exact takes
  · rintro ⟨known, taken⟩ entry he
    obtain ⟨id, -, key⟩ := h.key he
    rw [key, ← h.find?_iff] at he
    have named : ∃ s ∈ settings, s.name = id := by
      by_contra strange
      have other : ∀ s ∈ settings, s.name ≠ id := fun s hs same => strange ⟨s, hs, same⟩
      rw [find?_merged_other other, own.find?_iff] at he
      obtain ⟨s, hs, same⟩ := known _ he
      exact other s hs (Value.text.inj same).symm
    cases found : setting? entry.1 with
    | none =>
      rw [key, setting?_eq_none_iff] at found
      obtain ⟨s, hs, same⟩ := named
      exact absurd same (found s hs)
    | some s =>
      obtain ⟨hs, same⟩ := setting?_eq_some found
      rw [key] at same
      rw [Value.text.inj same, find?_merged hs] at he
      exact ⟨s, rfl, taken s hs _ he⟩

theorem settledView_merged (h : Names (merged environment entries) ids') :
    settledView (merged environment entries) = settings.map fun s =>
      (s.name, ((given? entries environment s.name).map (settled s.name)).getD (standard s.name)) := by
  have standards : Draft.default.view = settings.map fun s => (s.name, standard s.name) := rfl
  rw [settledView, standards, List.map_map]
  refine List.map_congr_left fun s hs => ?_
  have last : lastUnder? s.name (merged environment entries) = given? entries environment s.name := by
    rw [lastUnder?, h.find?_of_perm h.reverse (List.reverse_perm _), find?_merged hs]
  rw [Function.comp_apply, last]

theorem layered_eq_ok_iff (own : Names entries ids) {config : Config} :
    (layered entries environment).2 = .ok config ↔
      (∀ entry ∈ entries, ∃ s ∈ settings, entry.1 = .text s.name) ∧
      (∀ s ∈ settings, Resolves entries environment s.name (s.give config)) ∧
      ∃ d : Draft, d.view = config.view ∧ d.check = .ok config := by
  obtain ⟨ids', names⟩ := names_merged environment ids
  have h := names entries own
  have resolved : (∀ s ∈ settings, Resolves entries environment s.name (s.give config)) ↔
      (∀ s ∈ settings, ∀ v, given? entries environment s.name = some v → Takes s.name v) ∧
        config.view = settledView (merged environment entries) := by
    rw [settledView_merged h, Config.view, List.map_inj_left, ← forall₂_and]
    refine forall₂_congr fun s _ => ?_
    rw [resolves_iff, Prod.mk.injEq, eq_self, true_and]
  rw [layered_eq, ofEntries_eq_ok_iff, merged_taken_iff own h, resolved, and_assoc, and_assoc]
  refine and_congr_right fun _ => and_congr_right fun _ => ?_
  constructor
  · rintro ⟨d, view, checked⟩
    have kept := (Draft.check_eq_ok checked).2.2.2.2.2
    exact ⟨kept.trans view, d, kept.symm, checked⟩
  · rintro ⟨view, d, kept, checked⟩
    exact ⟨d, kept.trans view, checked⟩

/-- Only the keys of a file and the values that are not overridden count. -/
theorem layered_congr {entries' : List (Value × Value)} (own : Names entries ids)
    (own' : Names entries' ids)
    (same : ∀ s ∈ settings, environment.lookup (variableOf s.name) = none →
      Value.find? s.name entries' = Value.find? s.name entries) :
    (layered entries' environment).2 = (layered entries environment).2 := by
  obtain ⟨ids', names⟩ := names_merged environment ids
  have h := names entries own
  have h' := names entries' own'
  rw [layered_eq, layered_eq]
  -- values under unknown keys may differ, but then the keys alone decide
  by_cases unknown : ∃ id ∈ ids', setting? (.text id) = none
  · rw [ofEntries_of_unknown h unknown, ofEntries_of_unknown h' unknown]
  · have found : ∀ id ∈ ids', Value.find? id (merged environment entries') =
        Value.find? id (merged environment entries) := by
      intro id there
      cases known : setting? (.text id) with
      | none => exact absurd ⟨id, there, known⟩ unknown
      | some s =>
        obtain ⟨hs, named⟩ := setting?_eq_some known
        rw [Value.text.inj named, find?_merged hs, find?_merged hs, given?, given?]
        cases given : environment.lookup (variableOf s.name) with
        | none => rw [same s hs given]
        | some value => rfl
    rw [h.eq_of_find? h' found]

theorem layered_of_unknown (environment : Log.Environment) (own : Names entries ids)
    (unknown : ∃ id ∈ ids, setting? (.text id) = none) :
    ∃ names : List String, (∀ id, id ∈ names ↔ id ∈ ids ∧ setting? (.text id) = none) ∧
      (layered entries environment).2 = .error (.issue (.unknownKeys names)) := by
  obtain ⟨ids', names⟩ := names_merged environment ids
  have h := names entries own
  have stranger {id : String} (none : setting? (.text id) = none) : id ∈ ids' ↔ id ∈ ids := by
    rw [h.mem_iff_find?, own.mem_iff_find?, find?_merged_other (setting?_eq_none_iff.mp none)]
  obtain ⟨id, there, none⟩ := unknown
  refine ⟨_, fun id => ?_, (layered_eq _ _).trans
    (ofEntries_of_unknown h ⟨id, (stranger none).mpr there, none⟩)⟩
  rw [(List.mergeSort_perm _ _).mem_iff, List.mem_filter, Option.isNone_iff_eq_none]
  exact and_congr_left stranger

end Settings

theorem mapError_eq_ok_iff {ε δ α : Type} {r : Except ε α} {f : ε → δ} {a : α} :
    r.mapError f = .ok a ↔ r = .ok a := by
  cases r <;> simp [Except.mapError]

variable {files : Files} {path : String} {entries : List (Value × Value)}

/-- Settings are layered one by one. Loading gives a configuration exactly if all keys of the file are
known, each setting has the value of its variable, or else of its key in the file, converted, or else
the standard one, and the whole is in range. No other variable counts, nor does the order of the file's
keys, nor a value of the file that a variable overrides. Unknown keys are always refused, by name. -/
theorem load_by_layers (environment : Log.Environment) (read : fileEntries files path = .ok entries)
    (texts : (Value.map entries).HasTextKeys) :
    (∀ config, (load files (some path) environment).2 = .ok config ↔
      (∀ entry ∈ entries, ∃ s ∈ settings, entry.1 = .text s.name) ∧
      (∀ s ∈ settings, Resolves entries environment s.name (s.give config)) ∧
      ∃ d : Draft, d.view = config.view ∧ d.check = .ok config) ∧
    (∀ other : Log.Environment,
      (∀ s ∈ settings, other.lookup (variableOf s.name) = environment.lookup (variableOf s.name)) →
      load files (some path) other = load files (some path) environment) ∧
    (∀ files' path' entries', fileEntries files' path' = .ok entries' → entries'.Perm entries →
      ∀ config, (load files' (some path') environment).2 = .ok config ↔
        (load files (some path) environment).2 = .ok config) ∧
    (∀ files' path' entries', fileEntries files' path' = .ok entries' →
      entries'.map Prod.fst = entries.map Prod.fst →
      (∀ s ∈ settings, environment.lookup (variableOf s.name) = none →
        Value.find? s.name entries' = Value.find? s.name entries) →
      (load files' (some path') environment).2 = (load files (some path) environment).2) ∧
    ((∃ entry ∈ entries, ∀ s ∈ settings, entry.1 ≠ .text s.name) →
      ∃ names : List String,
        (∀ name, name ∈ names ↔
          (∃ value, (.text name, value) ∈ entries) ∧ ∀ s ∈ settings, s.name ≠ name) ∧
        (load files (some path) environment).2 = .error (.settings (.issue (.unknownKeys names)))) := by
  obtain ⟨ids, own⟩ := (keysApart_of_fileEntries read).names texts
  refine ⟨fun config => ?_, fun other same => ?_, fun files' path' entries' read' perm config => ?_,
    fun files' path' entries' read' keys same => ?_, fun unknown => ?_⟩
  · rw [load, load_of_entries read, mapError_eq_ok_iff, layered_eq_ok_iff own]
  · have found : overrides other = overrides environment := by
      refine List.filterMap_congr fun s hs => ?_
      have variable' := same s hs
      rw [variableOf] at variable'
      rw [variable']
    simp only [load, loadBy, layered, found]
  · have texts' : (Value.map entries').HasTextKeys := fun entry he => texts entry (perm.mem_iff.mp he)
    obtain ⟨ids', own'⟩ := (keysApart_of_fileEntries read').names texts'
    have given (name : String) : given? entries' environment name = given? entries environment name := by
      rw [given?, given?, own.find?_of_perm own' perm]
    rw [load, load, load_of_entries read, load_of_entries read', mapError_eq_ok_iff, mapError_eq_ok_iff,
      layered_eq_ok_iff own, layered_eq_ok_iff own']
    simp only [Resolves, given, perm.mem_iff]
  · rw [load, load, load_of_entries read, load_of_entries read',
      layered_congr own ⟨keys.trans own.keys, own.nodup⟩ same]
  · obtain ⟨entry, he, other⟩ := unknown
    obtain ⟨id, there, key⟩ := own.key he
    have none : setting? (.text id) = none :=
      setting?_eq_none_iff.mpr fun s hs same => other s hs (by rw [key, same])
    obtain ⟨names, all, refused⟩ := layered_of_unknown environment own ⟨id, there, none⟩
    refine ⟨names, fun name => ?_, ?_⟩
    · rw [all, own.mem_iff_find?, setting?_eq_none_iff]
      simp only [own.find?_iff]
    · rw [load, load_of_entries read, refused]
      rfl

/-- A file whose depth is no number. -/
def misspelled : Files :=
  .single "deep.json" "\x7b\"max_traversal_depth\": \"deep\", \"pixels_per_unit\": 64\x7d".toUTF8.toList

theorem keyText?_eq_some_iff {value : Value} {text : String} :
    keyText? value = some text ↔ value = .text text := by
  cases value <;> simp [keyText?]

theorem misspelled_entries : ∃ entries, fileEntries misspelled "deep.json" = .ok entries ∧
    (Value.map entries).HasTextKeys ∧
    Value.find? "max_traversal_depth" entries = some (.text "deep") := by
  have seen : ((fileEntries misspelled "deep.json").toOption.map fun entries =>
      (entries.all fun entry => (keyText? entry.1).isSome,
        (Value.find? "max_traversal_depth" entries).bind keyText?)) = some (true, some "deep") := by
    decide +kernel
  cases read : fileEntries misspelled "deep.json" with
  | error failure =>
    rw [read] at seen
    cases seen
  | ok entries =>
    rw [read] at seen
    obtain ⟨keys, depth⟩ := Prod.mk.inj (Option.some.inj seen)
    obtain ⟨value, found, text⟩ := Option.bind_eq_some_iff.mp depth
    rw [keyText?_eq_some_iff] at text
    refine ⟨entries, rfl, fun entry he => ?_, text ▸ found⟩
    obtain ⟨key, own⟩ := Option.isSome_iff_exists.mp (List.all_eq_true.mp keys entry he)
    exact ⟨key, keyText?_eq_some_iff.mp own⟩

/-- The depth of the file cannot be converted, and the one of its variable counts. -/
theorem load_by_layers_misspelled :
    ∃ entries config, fileEntries misspelled "deep.json" = .ok entries ∧
      (Value.map entries).HasTextKeys ∧
      (∃ value, Value.find? "max_traversal_depth" entries = some value ∧
        converted (standard "max_traversal_depth") value = .ok none) ∧
      (load misspelled (some "deep.json") [("UNIFORGE_MAX_TRAVERSAL_DEPTH", " 7")]).2 = .ok config ∧
      config.maxTraversalDepth = 7 := by
  obtain ⟨entries, read, texts, found⟩ := misspelled_entries
  have depth (value : Value) : converted (standard "max_traversal_depth") value =
      .ok ((intSetting? value).map .int) := rfl
  have unread : converted (standard "max_traversal_depth") (.text "deep") = .ok none := by
    have wrong : intSetting? (.text "deep") = none := by decide +kernel
    rw [depth, wrong]
    rfl
  have right : intSetting? (.text " 7") = some 7 := by decide +kernel
  have given : given? entries [("UNIFORGE_MAX_TRAVERSAL_DEPTH", " 7")] "max_traversal_depth" =
      some (.text " 7") := by
    have own : variableOf "max_traversal_depth" = "UNIFORGE_MAX_TRAVERSAL_DEPTH" := by decide +kernel
    rw [given?, own, List.lookup_cons_self]
    rfl
  have ends : (load misspelled (some "deep.json")
      [("UNIFORGE_MAX_TRAVERSAL_DEPTH", " 7")]).2.isOk = true := by decide +kernel
  cases loaded : (load misspelled (some "deep.json") [("UNIFORGE_MAX_TRAVERSAL_DEPTH", " 7")]).2 with
  | error failure =>
    rw [loaded] at ends
    cases ends
  | ok config =>
    obtain ⟨s, hs, named, gives⟩ : ∃ s ∈ settings, s.name = "max_traversal_depth" ∧
        s.give config = .int config.maxTraversalDepth := ⟨settings[4], List.getElem_mem _, rfl, rfl⟩
    obtain ⟨-, resolves, -⟩ := ((load_by_layers _ read texts).1 config).mp loaded
    have own := resolves s hs
    rw [named, gives, Resolves, given] at own
    dsimp only at own
    rw [depth, right] at own
    have value : (7 : Int) = config.maxTraversalDepth := by simpa using own
    exact ⟨entries, config, read, texts, ⟨_, found, unread⟩, rfl, by omega⟩

end Config

end GraphScript
