/-!
# Evaluation errors

Why a constant expression has no value. Operations that are only unimplemented at compile time may
be deferred to run time inside a function.
-/

namespace ShaderPreview.Wgsl

inductive EvaluationFault where
  | operands
  | notImplemented (what : String)
  | unaryOperand
  | accessBase
  | accessIndex
  | accessIndexType
  | arrayLength
  | componentCount (expected found : Nat)
  | componentKind
  | swizzleBase
  | swizzlePlace
  | cast (source goal : String)
  | overflow (operation : String)
  | lossy (goal value : String)
  | divisionByZero
  | remainderByZero
  | shiftTooFar
  | notANumber
  | infinite
  | mathOperand
  | relationalOperand
  | clampOrder
  | choiceCondition
  | choiceSizes (reject accept : Nat)
  | choiceConditions
  | choiceConditionCount
  | choiceTypes
  | notConstant
  | partsNotConstant
  | dependsOnOverride
  deriving DecidableEq, Repr

namespace EvaluationFault

/-- The operation may still be evaluated at run time. -/
def canWait : EvaluationFault → Bool
  | .operands | .notImplemented _ => true
  | _ => false

def sizeName : Nat → String
  | 2 => "Bi"
  | 3 => "Tri"
  | _ => "Quad"

def message : EvaluationFault → String
  | .operands => "Cannot apply the binary op to the arguments"
  | .notImplemented what => s!"Not implemented as constant expression: {what}"
  | .unaryOperand => "Cannot apply the unary op to the argument"
  | .accessBase => "Cannot access the type"
  | .accessIndex => "Cannot access at the index"
  | .accessIndexType => "Cannot access with index of type"
  | .arrayLength => "Constants don't support array length expressions"
  | .componentCount expected found => s!"Constructor expects {expected} components, found {found}"
  | .componentKind => "Constructor must only contain vector or scalar arguments"
  | .swizzleBase => "Can only swizzle vector constants"
  | .swizzlePlace => "swizzle component not present in source expression"
  | .cast source goal =>
    s!"Cannot cast scalar components of expression `{source}` to type `{goal}`"
  | .overflow operation => s!"{operation} operation overflowed"
  | .lossy goal value =>
    s!"the concrete type `{goal}` cannot represent the abstract value `{value}` accurately"
  | .divisionByZero => "Division by zero"
  | .remainderByZero => "Remainder by zero"
  | .shiftTooFar => "RHS of shift operation is greater than or equal to 32"
  | .notANumber => "Float literal is NaN"
  | .infinite => "Float literal is infinite"
  | .mathOperand => "Cannot apply math function to type"
  | .relationalOperand => "Cannot apply relational function to type"
  | .clampOrder => "value of `low` is greater than `high` for clamp built-in function"
  | .choiceCondition =>
    "Expected boolean expression for condition argument of `select`, got something else"
  | .choiceSizes reject accept =>
    s!"Expected vectors of the same size for reject and accept args., got {sizeName reject}" ++
      s!" and {sizeName accept}"
  | .choiceConditions => "Expected boolean vector for condition arg., got something else"
  | .choiceConditionCount =>
    "Expected same number of vector components between condition, accept, and reject args., got " ++
      "something else"
  | .choiceTypes =>
    "Expected reject and accept args. to be scalars of vectors of the same type, got something else"
  | .notConstant => "Unexpected runtime-expression"
  | .partsNotConstant => "Subexpression(s) are not constant"
  | .dependsOnOverride => "Unexpected override-expression"

end EvaluationFault

abbrev Evaluation := Except EvaluationFault

end ShaderPreview.Wgsl
