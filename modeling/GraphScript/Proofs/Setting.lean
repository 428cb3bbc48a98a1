import GraphScript.Proofs.Plan

namespace GraphScript.Context

/-- The context under other limits. -/
def limited (ctx : Context) (depth cap : Nat) : Context :=
  { ctx with config := { ctx.config with maxTraversalDepth := depth, maxEmittedNodes := cap } }

variable (ctx : Context) (depth cap : Nat)

theorem of_limited (entity : Entity) (config : Config) :
    Context.of entity { config with maxTraversalDepth := depth, maxEmittedNodes := cap } =
      (Context.of entity config).limited depth cap := by
  have declared (ctx : Context) (v : Variable) :
      (ctx.limited depth cap).declare v = (ctx.declare v).limited depth cap := by
    unfold declare
    change (if (ctx.types.lookup _).isSome then _ else _) = _
    dsimp only
    split
    next => rfl
    next => rfl
  change entity.vars.foldl declare (limited ⟨entity, config, [], []⟩ depth cap) = _
  exact List.foldl_hom (limited · depth cap) declared

mutual

theorem operand_limited (type : Option FieldType) (value : Value) :
    (ctx.limited depth cap).operand type value = ctx.operand type value := by
  match value with
  | .map entries =>
    unfold operand
    refine congrArg _ (funext fun found => ?_)
    split
    next => rfl
    next => exact wrappedOperand_limited type _ entries
  | .null | .bool _ | .int _ | .float _ | .text _ | .list _ => rfl

theorem wrappedOperand_limited (type : Option FieldType) (whole : Value)
    (entries : List (Value × Value)) :
    (ctx.limited depth cap).wrappedOperand type whole entries =
      ctx.wrappedOperand type whole entries := by
  match entries with
  | [] =>
    unfold wrappedOperand
    rfl
  | (key, value) :: rest =>
    unfold wrappedOperand
    split
    next => exact operand_limited type value
    next => exact wrappedOperand_limited type whole rest

end

theorem lowerSetVar_limited (p : SetVarParams) :
    (ctx.limited depth cap).lowerSetVar p = ctx.lowerSetVar p := by
  simp only [lowerSetVar, operand_limited]
  rfl

theorem lowerAction_limited (inline : Inline) (action : Option String) (params : Params) :
    (ctx.limited depth cap).lowerAction inline action params =
      ctx.lowerAction inline action params := by
  unfold lowerAction
  split
  next => rfl
  next name =>
    split
    next => rfl
    next =>
      split
      next => rfl
      next kind hk =>
        cases kind with
        | setVar => simp only [lowerActionKind, lowerSetVar_limited]
        | _ => rfl

theorem lowerWalk_limited (walk : Walk) :
    (ctx.limited depth cap).lowerWalk walk = ctx.lowerWalk walk := by
  induction walk with
  | done => rfl
  | cut => rfl
  | stop => rfl
  | pass v rest ih => simp only [lowerWalk, ih]
  | perform v inlined rest hi hr => simp only [lowerWalk, lowerAction_limited, hi, hr]
  | branch v yes no hy hn =>
    simp only [lowerWalk, hy, hn]
    rfl

end GraphScript.Context
