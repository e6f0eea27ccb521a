import ShaderPreview.Wgsl.Lowering.Arguments

/-!
# Shared memory

Calls of atomic functions, barriers and uniform loads.
-/

namespace ShaderPreview.Wgsl

open Text

namespace Lowering

variable (lowering : Lowering)

/-! ### Atomic variables -/

def atomicArgument : ArgumentM (Nat × Scalar) := do
  let tree ← takeArgument
  let pointer ← lowering.concreteValue tree
  match (← Build.typeOf pointer).pointee? with
  | some (.atomic scalar) => return (pointer, scalar)
  | _ => throw (.broken tree.span .atomicPointer)

def atomicFunctions : List (String × AtomicFunction) :=
  [("atomicAdd", .sum), ("atomicSub", .sum), ("atomicAnd", .other), ("atomicOr", .other),
   ("atomicXor", .other), ("atomicMin", .other), ("atomicMax", .other),
   ("atomicExchange", .exchange none)]

/-- Atomic read-modify-write. The result of a 64-bit one is omitted if it is unused. -/
def atomicCall (name : String) (function : AtomicFunction) (trees : List ExprTree) (span : Span)
    (isStatement : Bool) : BuildM (Option Nat) := do
  let (pointer, value) ← withArguments trees 2 span do
    let (pointer, scalar) ← lowering.atomicArgument
    return (pointer, ← lowering.leafArgument scalar)
  let typing ← Build.typingOf value
  let isWide := match typing.type with
    | .scalar scalar => scalar.width == 8 && (name == "atomicMin" || name == "atomicMax")
    | _ => false
  if isWide && isStatement then
    effect span (.atomic pointer function value none)
    return none
  else
    some <$> stepResult (.atomicResult typing) span fun result =>
      .atomic pointer function value (some result)

def atomicStoreCall : ArgumentM Action := do
  let (pointer, scalar) ← lowering.atomicArgument
  return .store pointer (← lowering.leafArgument scalar)

def compareExchangeCall (trees : List ExprTree) (span : Span) : BuildM Nat := do
  let (pointer, compared, value, valueSpan) ← withArguments trees 3 span do
    let (pointer, scalar) ← lowering.atomicArgument
    let compared ← lowering.leafArgument scalar
    let tree ← takeArgument
    return (pointer, compared, ← lowering.leafValue tree scalar, tree.span)
  match ← Build.typeOf value with
  | .scalar scalar =>
    let type ← Build.recordType (Predeclared.exchangeResult scalar)
    stepResult (.atomicResult ⟨type, none⟩) span fun result =>
      .atomic pointer (.exchange (some compared)) value (some result)
  | _ => throw (.broken valueSpan .atomicOperand)

/-! ### Workgroups -/

def barrierFunctions : List String :=
  ["storageBarrier", "workgroupBarrier", "subgroupBarrier", "textureBarrier"]

def workgroupLoadCall (trees : List ExprTree) (span : Span) : BuildM Nat := do
  let tree ← withArguments trees 1 span takeArgument
  let pointer ← lowering.concreteValue tree
  match ← Build.typeOf pointer with
  | .pointer base .workgroup =>
    stepResult (.workgroupLoad base.typing) span (.workgroupLoad pointer ·)
  | _ => throw (.broken tree.span .workgroupLoad)

end Lowering

end ShaderPreview.Wgsl
