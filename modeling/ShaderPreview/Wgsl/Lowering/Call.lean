import ShaderPreview.Wgsl.Lowering.Memory
import ShaderPreview.Wgsl.Lowering.Ray
import ShaderPreview.Wgsl.Lowering.Subgroup
import ShaderPreview.Wgsl.Lowering.Texture

/-!
# Lowering calls

A call is a constructor, a call of a declared function, or a call of a predeclared function. The
predeclared functions are looked up family by family.
-/

namespace ShaderPreview.Wgsl

open Text

namespace Lowering

variable (lowering : Lowering)

/-! ### Values -/

def mathCall (name : String) (signature : Signature) (trees : List ExprTree) (span : Span) :
    BuildM Op := do
  let nodes ← trees.mapM lowering.value
  if nodes.length < signature.arity then
    throw ⟨.argumentCount s!"{signature.arity}" s!"{nodes.length}", some span⟩
  if signature.arity < nodes.length then
    Build.failAt span s!"too many arguments passed to `{name}`"
  let types ← nodes.mapM Build.typeOf
  match signature.convert types with
  | .error (.wrong place) =>
    Build.failAt span s!"wrong type passed as argument #{place + 1} to `{name}`"
  | .error (.inconsistent place) =>
    Build.failAt span s!"inconsistent type passed as argument #{place + 1} to `{name}`"
  | .ok goals =>
    if let .splitting exponent := signature then
      if let some type := goals.head? then
        let _ ← Build.recordType (Predeclared.splitResult exponent type)
    let nodes ← (nodes.zip goals).mapM fun pair => match pair.2.leaf? with
      | some scalar => Build.adapt scalar pair.1
      | none => return pair.1
    return .math name nodes

def selectCall (trees : List ExprTree) (span : Span) : BuildM Op := do
  let (reject, rejectSpan, accept, acceptSpan, condition) ← withArguments trees 3 span do
    let rejectTree ← takeArgument
    let acceptTree ← takeArgument
    let reject ← lowering.value rejectTree
    let accept ← lowering.value acceptTree
    let condition ← lowering.concreteArgument
    return (reject, rejectTree.span, accept, acceptTree.span, condition)
  for (node, span) in [(reject, rejectSpan), (accept, acceptSpan)] do
    if (← Build.typeOf node).component?.isNone then
      Build.failAt span "unexpected argument type for `select` call"
  match ← Build.consensus [reject, accept] with
  | .error _ =>
    Build.failAt rejectSpan "type mismatch for reject and accept values in `select` call"
  | .ok scalar =>
    let scalar := if (← Build.phaseOf condition) = .constant then scalar else scalar.concretize
    let reject ← Build.adapt scalar reject
    return .select condition (← Build.adapt scalar accept) reject

def derivativeFunctions : List String :=
  ["dpdx", "dpdxCoarse", "dpdxFine", "dpdy", "dpdyCoarse", "dpdyFine", "fwidth",
   "fwidthCoarse", "fwidthFine"]

/-- Calls that are a single node. -/
def operationCall? (name : String) (trees : List ExprTree) (span : Span) : Option (BuildM Op) :=
  let one (make : Nat → Op) : Option (BuildM Op) :=
    some (withArguments trees 1 span (make <$> lowering.concreteArgument))
  if derivativeFunctions.contains name then one .derivative
  else if let some signature := Signature.ofName? name then
    some (lowering.mathCall name signature trees span)
  else if let some least := samplingFunctions.lookup name then
    some (withArguments trees least span (lowering.samplingCall name span))
  else if let some query := lowering.queryCall? name then some (withArguments trees 1 span query)
  else if let some question := lowering.rayQuestion? name trees span then some question
  else match name with
    | "select" => some (lowering.selectCall trees span)
    | "arrayLength" => one .arrayLength
    | "textureLoad" => some (withArguments trees 2 span lowering.textureLoadCall)
    | "atomicLoad" => some (withArguments trees 1 span do
        return .load (← lowering.atomicArgument).1)
    | _ => none

/-- `all` and `any`; a scalar argument is returned as it is. -/
def relationalCall (name : String) (trees : List ExprTree) (span : Span) : BuildM Nat := do
  let operand ← withArguments trees 1 span lowering.concreteArgument
  if (← Build.typeOf operand) = .bool then return operand
  else Build.append (.relational name operand) span

/-! ### Steps -/

/-- Calls that are a step without a result, with the minimal number of arguments. -/
def effectCall? (name : String) : Option (Nat × ArgumentM Action) :=
  if barrierFunctions.contains name then some (0, return .barrier)
  else if let some isExtreme := textureAtomicFunctions.lookup name then
    some (3, lowering.textureAtomicCall isExtreme)
  else if let some request := lowering.rayRequest? name then some request
  else match name with
    | "atomicStore" => some (2, lowering.atomicStoreCall)
    | "textureStore" => some (3, lowering.textureStoreCall)
    | _ => none

/-- Calls that are a step with a result. -/
def resultCall? (name : String) (trees : List ExprTree) (span : Span) : Option (BuildM Nat) :=
  if let some subgroup := lowering.subgroupCall? name trees span then some subgroup
  else match name with
    | "atomicCompareExchangeWeak" => some (lowering.compareExchangeCall trees span)
    | "workgroupUniformLoad" => some (lowering.workgroupLoadCall trees span)
    | "rayQueryProceed" => some (lowering.rayProceedCall trees span)
    | _ => none

def predeclaredCall (function : Ident) (trees : List ExprTree) (isStatement : Bool) :
    BuildM (Option Nat) := do
  let name := function.name
  let span := function.span
  if name == "all" || name == "any" then some <$> lowering.relationalCall name trees span
  else if let some operation := lowering.operationCall? name trees span then
    some <$> do Build.append (← operation) span
  else if let some change := atomicFunctions.lookup name then
    lowering.atomicCall name change trees span isStatement
  else if let some (least, action) := lowering.effectCall? name then
    effect span (← withArguments trees least span action)
    return none
  else if let some result := lowering.resultCall? name trees span then some <$> result
  else throw (.named span .unknownIdentifier)

/-! ### Functions of the module -/

def argument (parameter : Option BoundType) (tree : ExprTree) : BuildM Nat := do
  match parameter with
  | some bound => Build.convertTo (← lowering.value tree) bound.typing tree.span
  | none => lowering.concreteValue tree

def functionCall (number : Nat) (ident : Ident) (trees : List ExprTree) (span : Span)
    (isStatement : Bool) : BuildM (Option Nat) := do
  match (← get).shader.functions[number]? with
  | none => throw (.named ident.span .unknownIdentifier)
  | some function =>
    let arguments ← (trees.zipIdx).mapM fun entry =>
      lowering.argument function.parameters[entry.2]? entry.1
    if function.mustUse && isStatement then throw (.broken ident.span .mustUseResult)
    if (← get).mode ≠ .runtime then throw (.broken span .constContext)
    if function.result.isSome then
      some <$> stepResult (.callResult number) span fun result =>
        .call number arguments (some result)
    else
      effect span (.call number arguments none)
      return none

def call (function : Ident) (trees : List ExprTree) (span : Span) (isStatement : Bool) :
    BuildM (Option Nat) := do
  match (← get).names.lookup function.name with
  | some (.type typing) =>
    some <$> lowering.construct (.full typing) function.span trees span
  | some (.function number) => lowering.functionCall number function trees span isStatement
  | some .entryPoint => throw (.broken function.span .entryPointCall)
  | some _ => throw (.unexpected function.span .function)
  | none => match function.name with
    | "RayDesc" =>
      let typing : Typing := ⟨← Build.recordType Predeclared.rayDescription, none⟩
      some <$> lowering.construct (.full typing) function.span trees function.span
    | _ => lowering.predeclaredCall function trees isStatement

end Lowering

end ShaderPreview.Wgsl
