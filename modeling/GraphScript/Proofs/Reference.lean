import GraphScript.Proofs.Declaration
import GraphScript.Proofs.Identifier

namespace GraphScript

open CSharp

namespace Context

theorem mem_of_names {entity : Entity} {config : Config} :
    ∀ entry ∈ (Context.of entity config).names, ∃ v ∈ entity.vars, v.name = entry.1 := by
  have kept (vars : List Variable) (ctx : Context) :
      ∀ entry ∈ (vars.foldl declare ctx).names,
        entry ∈ ctx.names ∨ ∃ v ∈ vars, v.name = entry.1 := by
    induction vars generalizing ctx with
    | nil => exact fun entry he => .inl he
    | cons v vars ih =>
      intro entry he
      rcases ih (ctx.declare v) entry he with he | ⟨w, hw, own⟩
      · have grown : entry ∈ ctx.names ∨ entry = (v.name, sanitize v.name) := by
          unfold declare at he
          dsimp only at he
          split at he
          next => exact .inl he
          next =>
            dsimp only at he
            split at he
            next => exact .inl he
            next => exact (List.mem_append.mp he).imp id List.mem_singleton.mp
        rcases grown with old | rfl
        · exact .inl old
        · exact .inr ⟨v, List.mem_cons_self, rfl⟩
      · exact .inr ⟨w, List.mem_cons_of_mem _ hw, own⟩
  intro entry he
  rcases kept entity.vars ⟨entity, config, [], []⟩ entry he with none | some
  · cases none
  · exact some

theorem isVariable_cases {entity : Entity} {config : Config} {text : String}
    (known : (Context.of entity config).isVariable text = true) :
    ∃ v ∈ entity.vars, v.name = text ∨ sanitize v.name = text := by
  rcases Bool.or_eq_true_iff.mp known with named | typed
  · obtain ⟨entry, he, own⟩ := List.mem_map.mp (isSome_lookup_iff.mp named)
    obtain ⟨v, hv, same⟩ := mem_of_names entry he
    exact ⟨v, hv, .inl (same.trans own)⟩
  · obtain ⟨v, hv, own⟩ := mem_types_names.mp (isSome_lookup_iff.mp typed)
    exact ⟨v, hv, .inr own⟩

/-- What a known text stands for is a field, unless the text is a reserved word with its mark; then
it stands for the word behind an underscore. -/
theorem identifier_mem_types_iff {entity : Entity} {config : Config} {text : String}
    (known : (Context.of entity config).isVariable text = true) :
    (Context.of entity config).identifier text ∈ (Context.of entity config).types.map Prod.fst ↔
      ∀ word ∈ keywords, text = "@" ++ word → ∃ v ∈ entity.vars, sanitize v.name = "_" ++ word := by
  rw [of_identifier, mem_types_names]
  constructor
  · rintro ⟨v, hv, own⟩ word reserved rfl
    exact ⟨v, hv, own.trans (sanitize_mark reserved)⟩
  · intro fallen
    obtain ⟨v, hv, rfl | rfl⟩ := isVariable_cases known
    · exact ⟨v, hv, rfl⟩
    · by_cases unmarked : ∀ word ∈ keywords, sanitize v.name ≠ "@" ++ word
      · exact ⟨v, hv, (sanitize_sanitize unmarked).symm⟩
      · obtain ⟨word, reserved, mark⟩ : ∃ word ∈ keywords, sanitize v.name = "@" ++ word := by
          simpa using unmarked
        rw [mark, sanitize_mark reserved]
        exact fallen word reserved mark

theorem operand_of_isVariable {ctx : Context} {text : String} (known : ctx.isVariable text = true)
    (type : Option FieldType) : ctx.operand type (.text text) = pure (ctx.identifier text) := by
  unfold operand textOperand
  rw [if_pos known]
  rfl

end Context

/-- A text that is known as a variable is rendered as an identifier, and this is a field of the
class exactly if the text is no reserved word with its mark, or a field has that word behind an
underscore for its name. -/
theorem reference_declared_iff (entity : Entity) (config : Config) (text : String)
    (known : (Context.of entity config).isVariable text = true) :
    ((Context.of entity config).identifier text ∈ (Context.of entity config).types.map Prod.fst ↔
      ∀ word ∈ keywords, text = "@" ++ word → ∃ v ∈ entity.vars, sanitize v.name = "_" ++ word) ∧
    (∀ type, (Context.of entity config).operand type (.text text) =
      pure ((Context.of entity config).identifier text)) ∧
    ∀ u, (declareVariables entity).result = .ok u →
      ((Context.of entity config).identifier text ∈
          ((declaredLines entity.id [] entity.vars).filterMap declares?).map Prod.snd ↔
        ∀ word ∈ keywords, text = "@" ++ word →
          ∃ v ∈ entity.vars, sanitize v.name = "_" ++ word) := by
  refine ⟨Context.identifier_mem_types_iff known, Context.operand_of_isVariable known, fun u h => ?_⟩
  rw [declared_names config h]
  exact Context.identifier_mem_types_iff known

theorem reference_declared_iff_chest :
    ∃ config, Config.Draft.default.check = .ok config ∧
      (Context.of chestEntity config).isVariable "my_var" = true ∧
      (Context.of chestEntity config).operand (some .int) (.text "my_var") = pure "my_var" ∧
      "my_var" ∈ (Context.of chestEntity config).types.map Prod.fst ∧
      (declareVariables chestEntity).result = .ok () ∧
      "my_var" ∈
        ((declaredLines "chest" [] chestEntity.vars).filterMap declares?).map Prod.snd := by
  obtain ⟨config, valid⟩ : ∃ config, Config.Draft.default.check = .ok config := ⟨_, rfl⟩
  have known : (Context.of chestEntity config).isVariable "my_var" = true := rfl
  have unmarked : ∀ word ∈ keywords, "my_var" = "@" ++ word →
      ∃ v ∈ chestEntity.vars, sanitize v.name = "_" ++ word := by decide
  obtain ⟨field, rendered, declared⟩ := reference_declared_iff chestEntity config "my_var" known
  exact ⟨config, valid, known, rendered (some .int), field.mpr unmarked, rfl,
    (declared () rfl).mpr unmarked⟩

/-- A reserved word with its mark is known as the variable of that name, but stands for no field. -/
theorem marked_reference_undeclared :
    ∃ config, Config.Draft.default.check = .ok config ∧
      (Context.of chestEntity config).isVariable "@class" = true ∧
      (∀ type, (Context.of chestEntity config).operand type (.text "@class") = pure "_class") ∧
      "_class" ∉ (Context.of chestEntity config).types.map Prod.fst := by
  obtain ⟨config, valid⟩ : ∃ config, Config.Draft.default.check = .ok config := ⟨_, rfl⟩
  have known : (Context.of chestEntity config).isVariable "@class" = true := rfl
  refine ⟨config, valid, known, Context.operand_of_isVariable known, ?_⟩
  rw [Context.mem_types_names]
  decide

end GraphScript
