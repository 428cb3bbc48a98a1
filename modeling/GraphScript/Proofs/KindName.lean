import GraphScript.Kind
import Mathlib.Data.List.Nodup

namespace GraphScript

/-- What counts of a name: no blanks around it, and small letters only. -/
def foldedName (name : String) : String :=
  Text.lower (Text.trim name)

section Tables

variable {α : Type} {table : List (String × α)}

/-- The kind of the first entry with a folded form, whatever its spelling. -/
def foldedKind? (table : List (String × α)) (folded : String) : Option α :=
  (table.find? fun entry => Text.lower entry.1 == folded).map Prod.snd

theorem foldedKind?_eq_some_iff (clear : (table.map fun entry => Text.lower entry.1).Nodup)
    {folded : String} {kind : α} :
    foldedKind? table folded = some kind ↔ ∃ name, (name, kind) ∈ table ∧ folded = Text.lower name := by
  unfold foldedKind?
  rw [Option.map_eq_some_iff]
  constructor
  · rintro ⟨⟨name, _⟩, found, rfl⟩
    have same := List.find?_some found
    exact ⟨name, List.mem_of_find?_eq_some found, (beq_iff_eq.mp same).symm⟩
  · rintro ⟨name, there, rfl⟩
    cases found : table.find? fun entry => Text.lower entry.1 == Text.lower name with
    | none =>
      have other := List.find?_eq_none.mp found _ there
      exact absurd (beq_self_eq_true _) other
    | some entry =>
      have same : Text.lower entry.1 = Text.lower name := by simpa using List.find?_some found
      have own := List.inj_on_of_nodup_map clear (List.mem_of_find?_eq_some found) there same
      exact ⟨entry, rfl, congrArg Prod.snd own⟩

/-- What the exact spelling gives, the scan gives as well. -/
theorem kindNamed?_eq_foldedKind? (clear : (table.map fun entry => Text.lower entry.1).Nodup)
    (name : String) : kindNamed? table name = foldedKind? table (foldedName name) := by
  unfold kindNamed?
  dsimp only
  split
  next entry found =>
    have spelled : entry.1 = Text.trim name := by simpa using List.find?_some found
    refine ((foldedKind?_eq_some_iff clear).mpr ⟨entry.1, List.mem_of_find?_eq_some found, ?_⟩).symm
    rw [spelled, foldedName]
  next => rfl

end Tables

theorem ActionKind.names_clear : (names.map fun entry => Text.lower entry.1).Nodup := by
  decide +kernel

theorem ConditionKind.names_clear : (names.map fun entry => Text.lower entry.1).Nodup := by
  decide +kernel

theorem ActionKind.mem_names {name : String} {kind : ActionKind} :
    (name, kind) ∈ names ↔ name = kind.name := by
  have all : kind ∈ all := by cases kind <;> decide
  unfold names
  rw [List.mem_map]
  constructor
  · rintro ⟨_, -, same⟩
    cases same
    rfl
  · rintro rfl
    exact ⟨kind, all, rfl⟩

theorem ConditionKind.mem_names {name : String} {kind : ConditionKind} :
    (name, kind) ∈ names ↔ name = kind.name ∨ (name, kind) ∈ aliases := by
  have all : kind ∈ all := by
    cases kind with
    | compare c => cases c <;> decide
    | input phase => cases phase <;> decide
    | _ => decide
  unfold names
  rw [List.mem_append, List.mem_map]
  refine or_congr_left ⟨?_, ?_⟩
  · rintro ⟨_, -, same⟩
    cases same
    rfl
  · rintro rfl
    exact ⟨kind, all, rfl⟩

/-- Names of kinds are matched up to case and blanks around them, and no further: a name stands for a
kind exactly if it has the folded form of the kind's own name or, for conditions, of one of its other
names. The lookup by spelling never differs from the scan of the folded forms. -/
theorem ofName?_up_to_folding :
    (∀ a b : String, foldedName a = foldedName b →
      ActionKind.ofName? a = ActionKind.ofName? b ∧ ConditionKind.ofName? a = ConditionKind.ofName? b) ∧
    (∀ (name : String) (kind : ActionKind),
      ActionKind.ofName? name = some kind ↔ foldedName name = Text.lower kind.name) ∧
    (∀ (name : String) (kind : ConditionKind),
      ConditionKind.ofName? name = some kind ↔
        foldedName name = Text.lower kind.name ∨
          ∃ other, (other, kind) ∈ ConditionKind.aliases ∧ foldedName name = Text.lower other) ∧
    ∀ name : String,
      ActionKind.ofName? name = foldedKind? ActionKind.names (foldedName name) ∧
        ConditionKind.ofName? name = foldedKind? ConditionKind.names (foldedName name) := by
  have actions (name : String) :
      ActionKind.ofName? name = foldedKind? ActionKind.names (foldedName name) :=
    kindNamed?_eq_foldedKind? ActionKind.names_clear name
  have conditions (name : String) :
      ConditionKind.ofName? name = foldedKind? ConditionKind.names (foldedName name) :=
    kindNamed?_eq_foldedKind? ConditionKind.names_clear name
  refine ⟨fun a b same => ?_, fun name kind => ?_, fun name kind => ?_, fun name =>
    ⟨actions name, conditions name⟩⟩
  · rw [actions, actions, conditions, conditions, same]
    exact ⟨rfl, rfl⟩
  · rw [actions, foldedKind?_eq_some_iff ActionKind.names_clear]
    simp only [ActionKind.mem_names, exists_eq_left]
  · rw [conditions, foldedKind?_eq_some_iff ConditionKind.names_clear]
    simp only [ConditionKind.mem_names, or_and_right, exists_or, exists_eq_left]

/-- The sign of the unit kelvin is a capital letter as well. -/
theorem ofName?_up_to_folding_kelvin :
    foldedName " TA\u212aEDAMAGE\n" = foldedName "takeDamage" ∧
      ActionKind.ofName? " TA\u212aEDAMAGE\n" = ActionKind.ofName? "takeDamage" ∧
      ConditionKind.ofName? "\u3000ifvariableEQUALS" = some (.compare .equal) := by
  have same : foldedName " TA\u212aEDAMAGE\n" = foldedName "takeDamage" := by decide +kernel
  have further : ∃ other, (other, ConditionKind.compare .equal) ∈ ConditionKind.aliases ∧
      foldedName "\u3000ifvariableEQUALS" = Text.lower other :=
    ⟨"IfVariableEquals", by decide +kernel, by decide +kernel⟩
  have ⟨alike, _, conditions, _⟩ := ofName?_up_to_folding
  exact ⟨same, (alike _ _ same).1, (conditions _ _).mpr (.inr further)⟩

end GraphScript
