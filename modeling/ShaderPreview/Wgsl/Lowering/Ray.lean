import ShaderPreview.Wgsl.Lowering.Arguments

/-!
# Ray queries

Calls on ray queries, which are local variables.
-/

namespace ShaderPreview.Wgsl

open Text

namespace Lowering

variable (lowering : Lowering)

def queryArgument : ArgumentM Nat := do
  let tree ← takeArgument
  let pointer ← lowering.concreteValue tree
  match (← Build.typeOf pointer).pointee? with
  | some (.rayQuery _) => return pointer
  | _ => throw (.broken tree.span .rayQueryPointer)

/-- Ray query calls that return a value. -/
def rayQuestion? (name : String) (trees : List ExprTree) (span : Span) : Option (BuildM Op) :=
  let ask (make : Nat → Op) : BuildM Op :=
    withArguments trees 1 span (make <$> lowering.queryArgument)
  match name with
  | "rayQueryGetCommittedIntersection" | "rayQueryGetCandidateIntersection" => some do
    let question ← ask .rayIntersection
    let _ ← Build.recordType Predeclared.rayIntersection
    return question
  | "getCommittedHitVertexPositions" | "getCandidateHitVertexPositions" => some (ask .rayCorners)
  | _ => none

/-- Ray query calls without a result. -/
def rayRequest? (name : String) : Option (Nat × ArgumentM Action) :=
  let settle : ArgumentM Action := do return .rayQuery (← lowering.queryArgument) .settle
  match name with
  | "rayQueryInitialize" => some (3, do
    let query ← lowering.queryArgument
    let scene ← lowering.concreteArgument
    return .rayQuery query (.start scene (← lowering.concreteArgument)))
  | "rayQueryGenerateIntersection" => some (2, do
    let query ← lowering.queryArgument
    return .rayQuery query (.generate (← lowering.concreteArgument)))
  | "rayQueryConfirmIntersection" | "rayQueryTerminate" => some (1, settle)
  | _ => none

def rayProceedCall (trees : List ExprTree) (span : Span) : BuildM Nat := do
  let query ← withArguments trees 1 span lowering.queryArgument
  stepResult .rayProceeds span fun result => .rayQuery query (.proceed result)

end Lowering

end ShaderPreview.Wgsl
