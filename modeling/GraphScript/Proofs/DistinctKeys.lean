import GraphScript.Config.Load
import GraphScript.Proofs.Account
import GraphScript.Proofs.Conversion

namespace GraphScript

namespace Value

/-- No key of the entries is the same as one before it. -/
def KeysApart (entries : List (Value × Value)) : Prop :=
  (entries.map Prod.fst).Pairwise fun a b => sameKey a b = false

theorem KeysApart.put {entries : List (Value × Value)} (h : KeysApart entries) (key value : Value) :
    KeysApart (put key value entries) := by
  induction entries with
  | nil => exact List.pairwise_singleton _ _
  | cons entry rest ih =>
    obtain ⟨k, v⟩ := entry
    obtain ⟨first, others⟩ := List.pairwise_cons.mp h
    rw [Value.put]
    split
    next => exact List.pairwise_cons.mpr ⟨first, others⟩
    next other =>
      refine List.pairwise_cons.mpr ⟨fun a ha => ?_, ih others⟩
      obtain ⟨entry, he, rfl⟩ := List.mem_map.mp ha
      obtain ⟨⟨e, he, same⟩, -⟩ := mem_put he
      rw [← same]
      rcases List.mem_cons.mp he with rfl | he
      · exact Bool.eq_false_iff.mpr other
      · exact first _ (List.mem_map_of_mem he)

theorem KeysApart.foldl_put {entries : List (Value × Value)} (h : KeysApart entries)
    (added : List (Value × Value)) :
    KeysApart (added.foldl (fun acc entry => Value.put entry.1 entry.2 acc) entries) := by
  induction added generalizing entries with
  | nil => exact h
  | cons entry rest ih => exact ih (h.put entry.1 entry.2)

theorem keysApart_of_ofEntries {added entries : List (Value × Value)}
    (h : ofEntries added = .map entries) : KeysApart entries := by
  cases h
  have none : KeysApart [] := List.Pairwise.nil
  exact none.foldl_put added

/-- The entries of a map whose keys are these texts, each of them once. -/
structure Names (entries : List (Value × Value)) (ids : List String) : Prop where
  keys : entries.map Prod.fst = ids.map .text
  nodup : ids.Nodup

theorem HasTextKeys.listed {entries : List (Value × Value)} (texts : (map entries).HasTextKeys) :
    ∃ ids : List String, entries.map Prod.fst = ids.map .text := by
  induction entries with
  | nil => exact ⟨[], rfl⟩
  | cons entry rest ih =>
    obtain ⟨⟨id, first⟩, others⟩ := List.forall_mem_cons.mp texts
    obtain ⟨ids, same⟩ := ih others
    exact ⟨id :: ids, by rw [List.map_cons, List.map_cons, first, same]⟩

theorem KeysApart.names {entries : List (Value × Value)} (h : KeysApart entries)
    (texts : (map entries).HasTextKeys) : ∃ ids, Names entries ids := by
  obtain ⟨ids, same⟩ := texts.listed
  refine ⟨ids, same, ?_⟩
  unfold KeysApart at h
  rw [same, List.pairwise_map] at h
  refine h.imp fun apart own => ?_
  rw [own, (sameKey_text _ _).mpr rfl] at apart
  cases apart

section

variable {entries other : List (Value × Value)} {ids ids' : List String}

theorem Names.put (h : Names entries ids) (key : String) (value : Value) :
    Names (put (.text key) value entries) (if key ∈ ids then ids else ids ++ [key]) := by
  refine ⟨keys_put h.keys key value, ?_⟩
  split
  next => exact h.nodup
  next new => exact h.nodup.append (List.nodup_singleton key) (by simpa using new)

theorem Names.key (h : Names entries ids) {entry : Value × Value} (he : entry ∈ entries) :
    ∃ id ∈ ids, entry = (.text id, entry.2) := by
  have key : entry.1 ∈ ids.map .text := h.keys ▸ List.mem_map_of_mem he
  obtain ⟨id, there, same⟩ := List.mem_map.mp key
  exact ⟨id, there, by rw [same]⟩

theorem Names.reverse (h : Names entries ids) : Names entries.reverse ids.reverse :=
  ⟨by rw [List.map_reverse, h.keys, List.map_reverse], List.nodup_reverse.mpr h.nodup⟩

theorem Names.find?_iff (h : Names entries ids) {id : String} {value : Value} :
    find? id entries = some value ↔ (.text id, value) ∈ entries := by
  refine ⟨entry_mem_of_find?, fun there => ?_⟩
  induction entries generalizing ids with
  | nil => cases there
  | cons entry rest ih =>
    obtain ⟨keys, nodup⟩ := h
    cases ids with
    | nil => cases keys
    | cons first ids =>
      obtain ⟨own, others⟩ := List.cons.inj keys
      obtain ⟨new, nodup⟩ := List.nodup_cons.mp nodup
      obtain ⟨k, v⟩ := entry
      dsimp only at own
      subst own
      rw [find?]
      rcases List.mem_cons.mp there with same | there
      · cases same
        rw [if_pos rfl]
      · have later : id ∈ ids := by
          have key := List.mem_map_of_mem (f := Prod.fst) there
          rw [others] at key
          simpa using key
        have apart : first ≠ id := fun same => new (same ▸ later)
        rw [if_neg apart]
        exact ih ⟨others, nodup⟩ there

theorem Names.mem_iff_find? (h : Names entries ids) {id : String} :
    id ∈ ids ↔ ∃ value, find? id entries = some value := by
  have key : id ∈ ids ↔ .text id ∈ entries.map Prod.fst := by
    rw [h.keys]
    simp
  rw [key]
  simp [h.find?_iff]

/-- Where keys are distinct, their order does not matter for what is found. -/
theorem Names.find?_of_perm (h : Names entries ids) (h' : Names other ids') (same : other.Perm entries)
    (id : String) : find? id other = find? id entries := by
  refine Option.ext fun value => ?_
  rw [h.find?_iff, h'.find?_iff, same.mem_iff]

/-- Entries with the same distinct keys are the same if the same is found in them. -/
theorem Names.eq_of_find? (h : Names entries ids) (h' : Names other ids)
    (same : ∀ id ∈ ids, find? id other = find? id entries) : other = entries := by
  induction ids generalizing entries other with
  | nil =>
    have none : entries = [] := List.map_eq_nil_iff.mp h.keys
    have none' : other = [] := List.map_eq_nil_iff.mp h'.keys
    rw [none, none']
  | cons id ids ih =>
    obtain ⟨⟨_, v⟩, rest, rfl, rfl, keys⟩ := List.map_eq_cons_iff.mp h.keys
    obtain ⟨⟨_, v'⟩, rest', rfl, key, keys'⟩ := List.map_eq_cons_iff.mp h'.keys
    dsimp only at key
    subst key
    obtain ⟨new, nodup⟩ := List.nodup_cons.mp h.nodup
    have value : v' = v := by simpa [find?] using same id List.mem_cons_self
    have others : rest' = rest := by
      refine ih ⟨keys, nodup⟩ ⟨keys', nodup⟩ fun later hl => ?_
      have apart : id ≠ later := fun own => new (own ▸ hl)
      simpa [find?, apart] using same later (List.mem_cons_of_mem _ hl)
    rw [value, others]

end

end Value

namespace Json

theorem readNumber_ne_map {cs rest : List Char} {entries : List (Value × Value)} :
    readNumber cs ≠ .ok (.map entries, rest) := by
  intro h
  unfold readNumber at h
  dsimp only at h
  split at h
  next => cases h
  next =>
    split at h
    next =>
      split at h
      next => cases h
      next => cases h
    next => cases h

theorem readWord_ne_map {cs rest : List Char} {entries : List (Value × Value)} :
    readWord cs ≠ .ok (.map entries, rest) := by
  intro h
  unfold readWord at h
  dsimp only at h
  split at h
  next result found =>
    obtain ⟨entry, known, here⟩ := List.exists_of_findSome?_eq_some found
    obtain ⟨after, -, rfl⟩ := Option.map_eq_some_iff.mp here
    have value : entry.2 = .map entries := congrArg Prod.fst (Except.ok.inj h)
    have plain : ∀ entry ∈ wordValues, ∀ entries, entry.2 ≠ .map entries := by simp [wordValues]
    exact plain entry known entries value
  next => exact readNumber_ne_map h

theorem keysApart_of_readValue {size fuel : Nat} {cs rest : List Char} {entries : List (Value × Value)}
    (h : readValue size fuel cs = .ok (.map entries, rest)) : Value.KeysApart entries := by
  cases fuel with
  | zero => cases h
  | succ fuel =>
    unfold readValue at h
    dsimp only at h
    split at h
    next =>
      dsimp only [bind, Except.bind] at h
      split at h
      next => cases h
      next => cases h
    next =>
      split at h
      next => cases h
      next =>
        dsimp only [bind, Except.bind] at h
        split at h
        next => cases h
        next => cases h
    next =>
      split at h
      next =>
        cases h
        exact List.Pairwise.nil
      next =>
        dsimp only [bind, Except.bind] at h
        split at h
        next => cases h
        next found _ =>
          obtain ⟨document, -⟩ := Prod.mk.inj (Except.ok.inj h)
          exact Value.keysApart_of_ofEntries document
    next => exact absurd h readWord_ne_map

theorem keysApart_of_read {text : String} {entries : List (Value × Value)}
    (h : read text = .ok (.map entries)) : Value.KeysApart entries := by
  unfold read at h
  dsimp only at h
  split at h
  next document chars =>
    cases h
    unfold readChars at chars
    split at chars
    next => cases chars
    next =>
      dsimp only [bind, Except.bind] at chars
      split at chars
      next => cases chars
      next found value =>
        obtain ⟨v, rest⟩ := found
        split at chars
        next =>
          cases chars
          exact keysApart_of_readValue value
        next => cases chars
  next => cases h

end Json

namespace Yaml

theorem Tag.scalarValue_ne_map {tag : Tag} {text : String} {entries : List (Value × Value)} :
    tag.scalarValue text ≠ .ok (.map entries) := by
  intro h
  unfold scalarValue at h
  split at h
  next => cases h
  next => cases h
  next => cases found : truthOf text <;> (rw [found] at h; cases h)
  next => cases found : integerOf text <;> (rw [found] at h; cases h)
  next => cases found : floatOf text <;> (rw [found] at h; cases h)
  all_goals cases h

theorem keysApart_of_construct {depth : Nat} {node : Node} {entries : List (Value × Value)}
    (h : construct depth node = .ok (.map entries)) : Value.KeysApart entries := by
  cases depth with
  | zero => cases h
  | succ depth =>
    unfold construct at h
    dsimp only at h
    split at h
    next => exact absurd h Tag.scalarValue_ne_map
    next =>
      dsimp only [bind, Except.bind] at h
      split at h
      next => cases h
      next => cases h
    next =>
      dsimp only [bind, Except.bind] at h
      split at h
      next => cases h
      next =>
        split at h
        next => cases h
        next => exact Value.keysApart_of_ofEntries (Except.ok.inj h)

theorem keysApart_of_read {text : String} {entries : List (Value × Value)}
    (h : read text = .ok (.map entries)) : Value.KeysApart entries := by
  unfold read at h
  dsimp only [bind, Except.bind] at h
  split at h
  next => cases h
  next =>
    split at h
    next => cases h
    next =>
      split at h
      next =>
        split at h
        next => cases h
        next =>
          split at h
          next => cases h
          next => exact keysApart_of_construct h
      next => cases h

end Yaml

theorem keysApart_of_loadDocument {given : Option Format} {text : String}
    {entries : List (Value × Value)} (h : loadDocument given text = .ok (.map entries)) :
    Value.KeysApart entries := by
  unfold loadDocument loadDocumentBy at h
  split at h
  next =>
    cases read : Json.read text with
    | error e =>
      rw [read] at h
      cases h
    | ok document =>
      rw [read] at h
      cases h
      exact Json.keysApart_of_read read
  next =>
    cases read : Yaml.read text with
    | error e =>
      rw [read] at h
      cases h
    | ok document =>
      rw [read] at h
      cases h
      exact Yaml.keysApart_of_read read

/-- A settings file gives no key twice. -/
theorem Config.keysApart_of_fileEntries {files : Files} {path : String}
    {entries : List (Value × Value)} (h : fileEntries files path = .ok entries) :
    Value.KeysApart entries := by
  unfold fileEntries fileEntriesBy at h
  dsimp only at h
  split at h
  next =>
    split at h
    next => cases h
    next => cases h
  next => cases h
  next =>
    split at h
    next => cases h
    next => cases h
    next =>
      cases h
      exact List.Pairwise.nil
    next document =>
      cases h
      exact keysApart_of_loadDocument document
    next => cases h

end GraphScript
