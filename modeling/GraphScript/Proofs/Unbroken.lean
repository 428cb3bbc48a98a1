import GraphScript.Json.Writer
import GraphScript.Proofs.Word

namespace GraphScript

/-- A text that stays on its line. -/
abbrev Unbroken (text : String) : Prop :=
  '\n' ∉ text.toList

namespace Unbroken

theorem append {first second : String} (h : Unbroken first) (h' : Unbroken second) :
    Unbroken (first ++ second) := by
  rw [Unbroken, String.toList_append, List.mem_append]
  exact not_or.mpr ⟨h, h'⟩

theorem join {parts : List String} (h : ∀ part ∈ parts, Unbroken part) :
    Unbroken (String.join parts) := by
  induction parts with
  | nil => exact List.not_mem_nil
  | cons part parts ih =>
    obtain ⟨first, others⟩ := List.forall_mem_cons.mp h
    rw [String.join_cons]
    exact first.append (ih others)

theorem intercalate {separator : String} (hs : Unbroken separator) {parts : List String}
    (h : ∀ part ∈ parts, Unbroken part) : Unbroken (separator.intercalate parts) := by
  induction parts with
  | nil =>
    rw [String.intercalate_nil]
    exact List.not_mem_nil
  | cons part parts ih =>
    obtain ⟨first, others⟩ := List.forall_mem_cons.mp h
    cases parts with
    | nil => rwa [String.intercalate_singleton]
    | cons next parts =>
      rw [String.intercalate_cons_cons]
      exact (first.append hs).append (ih others)

theorem of_numeric {text : String} (h : CSharp.Numeric text) : Unbroken text := by
  intro broken
  have numeral := List.all_eq_true.mp h _ broken
  revert numeral
  decide

end Unbroken

namespace Json

theorem unbroken_hex (width n : Nat) : Unbroken (Text.hex width n) := by
  have digit : ∀ d < 16, Nat.digitChar d ≠ '\n' := by decide
  have digits (n : Nat) : '\n' ∉ Nat.toDigits 16 n := by
    induction n using Nat.strongRecOn with
    | ind n ih =>
      by_cases small : n < 16
      · rw [Nat.toDigits_of_lt_base small, List.mem_singleton]
        exact (digit n small).symm
      · rw [Nat.toDigits_of_base_le (by decide) (Nat.le_of_not_lt small), List.mem_append,
          List.mem_singleton]
        exact not_or.mpr ⟨ih (n / 16) (by omega), (digit _ (Nat.mod_lt n (by decide))).symm⟩
  rw [Unbroken, Text.hex, String.toList_ofList, List.mem_append]
  have padding : '\n' ∉ List.replicate (width - (Nat.toDigits 16 n).length) '0' := by
    intro padded
    cases List.eq_of_mem_replicate padded
  exact not_or.mpr ⟨padding, digits n⟩

theorem unbroken_unitEscape (n : Nat) : Unbroken (unitEscape n) := by
  have start : Unbroken "\\u" := by decide
  exact start.append (unbroken_hex 4 n)

theorem unbroken_escaped (c : Char) : Unbroken (escaped c) := by
  unfold escaped
  iterate 7
    split
    next => decide
  split
  next visible =>
    intro broken
    have same : '\n' = c := by simpa using broken
    rw [← same] at visible
    revert visible
    decide
  next =>
    split
    next => exact unbroken_unitEscape _
    next => exact (unbroken_unitEscape _).append (unbroken_unitEscape _)

theorem unbroken_string (text : String) : Unbroken (string text) := by
  have quote : Unbroken "\"" := by decide
  refine (quote.append (Unbroken.join fun part hp => ?_)).append quote
  obtain ⟨c, -, rfl⟩ := List.mem_map.mp hp
  exact unbroken_escaped c

theorem unbroken_number (x : Binary64) : Unbroken (number x) := by
  cases x with
  | finite negative mantissa exponent canonical => exact .of_numeric (CSharp.numeric_text _)
  | infinite negative => cases negative <;> decide
  | undefined => decide

mutual

theorem unbroken_line (value : Value) : Unbroken (line value) := by
  have comma : Unbroken ", " := by decide
  match value with
  | .null => decide
  | .bool b => cases b <;> decide
  | .int n => exact .of_numeric (CSharp.numeric_int n)
  | .float x => exact unbroken_number x
  | .text s => exact unbroken_string s
  | .list items =>
    have opening : Unbroken "[" := by decide
    have closing : Unbroken "]" := by decide
    exact (opening.append (comma.intercalate (unbroken_lineItems items))).append closing
  | .map entries =>
    have opening : Unbroken "\x7b" := by decide
    have closing : Unbroken "\x7d" := by decide
    exact (opening.append (comma.intercalate (unbroken_lineEntries entries))).append closing

theorem unbroken_lineItems (items : List Value) : ∀ text ∈ lineItems items, Unbroken text := by
  match items with
  | [] => exact fun text ht => by cases ht
  | item :: rest => exact List.forall_mem_cons.mpr ⟨unbroken_line item, unbroken_lineItems rest⟩

theorem unbroken_lineEntries (entries : List (Value × Value)) :
    ∀ text ∈ lineEntries entries, Unbroken text := by
  have colon : Unbroken ": " := by decide
  match entries with
  | [] => exact fun text ht => by cases ht
  | (key, item) :: rest =>
    exact List.forall_mem_cons.mpr
      ⟨((unbroken_string _).append colon).append (unbroken_line item), unbroken_lineEntries rest⟩

end

end Json

end GraphScript
