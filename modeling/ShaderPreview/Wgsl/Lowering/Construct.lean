import ShaderPreview.Wgsl.Lowering.Builder

/-!
# Types and constructors

Lowering of types and constructor calls. The lowering of nested expressions and types is a parameter
of type `Lowering`.
-/

namespace ShaderPreview.Wgsl

open Text

/-- The mutually recursive lowering functions at a given depth. -/
structure Lowering where
  expression : ExprTree → BuildM Spot
  type : TypeTree → BuildM Typing

namespace Lowering

/-- Depth exhausted. -/
def exhausted : Lowering := ⟨fun _ => throw .tooDeep, fun _ => throw .tooDeep⟩

variable (lowering : Lowering)

def value (tree : ExprTree) : BuildM Nat := do Build.loaded (← lowering.expression tree)

def concreteValue (tree : ExprTree) : BuildM Nat := do Build.concretize (← lowering.value tree)

def leafValue (tree : ExprTree) (scalar : Scalar) : BuildM Nat := do
  Build.convertLeafTo (← lowering.value tree) scalar .nowhere

def constantNat (tree : ExprTree) (negative : Rule) : BuildM Nat := do
  let node ← Build.inMode (← Build.constantMode) (lowering.concreteValue tree)
  match (← Build.constant? node).bind Value.index? with
  | some (some n) => return n
  | some none => throw (.broken tree.span negative)
  | none => throw (.broken tree.span .constInteger)

/-! ### Types -/

/-- Lowers a constant expression, or an override expression if it depends on an override. -/
def constantOr {α : Type} (constant pending : BuildM α) : BuildM α := do
  let before ← get
  match constant.run before with
  | .ok (value, after) =>
    set after
    return value
  | .error fault =>
    if fault.cause = .other EvaluationFault.dependsOnOverride.message then pending else throw fault

def pendingInteger (tree : ExprTree) : BuildM Initializer :=
  Build.apart .overridable do
    let root ← lowering.concreteValue tree
    let type ← Build.typeOf root
    if (type.elementary?.map (·.isInteger)).getD false then
      let state ← get
      return ⟨state.nodes, root⟩
    else throw (.broken tree.span .constInteger)

/-- Array length from an override. A computed length becomes an unnamed override. -/
def pendingLength (tree : ExprTree) : BuildM ArrayLength := do
  let initial ← lowering.pendingInteger tree
  let state ← get
  let overridables := state.shader.overridables
  match initial.nodes[initial.root]? with
  | some ⟨.overridable number, _, _, _⟩ =>
    return .pending number ((overridables[number]?).bind (·.name))
  | some node =>
    let declared : OverridableValue := ⟨none, none, node.typing, some initial, tree.span⟩
    set { state with shader := { state.shader with overridables := overridables.push declared } }
    return .pending overridables.size none
  | none => throw (.broken tree.span .constInteger)

def arrayLength : Option ExprTree → BuildM ArrayLength
  | none => return .dynamic
  | some tree => constantOr
    (do
      let count ← lowering.constantNat tree .arrayLength
      if count = 0 then throw (.broken tree.span .arrayLength) else return .fixed count)
    (lowering.pendingLength tree)

def componentScalar (tree : TypeTree) (span : Span) : BuildM Scalar := do
  match (← lowering.type tree).type with
  | .scalar scalar => return scalar
  | _ => throw (.named span .unknownScalarType)

def typeBody : TypeTree → BuildM Typing
  | .scalar scalar => return ⟨.scalar scalar, none⟩
  | .vector size component span => do
    return ⟨.vector size (← lowering.componentScalar component span), none⟩
  | .matrix columns rows component span => do
    let scalar ← lowering.componentScalar component span
    if scalar.kind = .float then return ⟨.matrix columns rows scalar, none⟩
    else
      Build.failAt span
        s!"matrix scalar type must be floating-point, but found `{scalar.label}`"
  | .atomic scalar => return ⟨.atomic scalar, none⟩
  | .pointer base space => do return ⟨.pointer (← lowering.type base).part space, none⟩
  | .array base size => do
    let base ← lowering.type base
    return ⟨.array base.part (← lowering.arrayLength size), none⟩
  | .bindingArray base size => do
    let base ← lowering.type base
    return ⟨.bindingArray base.part (← lowering.arrayLength size), none⟩
  | .texture texture => return ⟨.texture texture, none⟩
  | .sampler comparison => return ⟨.sampler comparison, none⟩
  | .accelerationStructure vertexReturn => return ⟨.accelerationStructure vertexReturn, none⟩
  | .rayQuery vertexReturn => return ⟨.rayQuery vertexReturn, none⟩
  | .rayDescription => do return ⟨← Build.recordType Predeclared.rayDescription, none⟩
  | .rayIntersection => do return ⟨← Build.recordType Predeclared.rayIntersection, none⟩
  | .named ident => do
    match (← get).names.lookup ident.name with
    | some (.type typing) => return typing
    | some _ => throw (.unexpected ident.span .type)
    | none => throw (.named ident.span .unknownType)

/-! ### Constructors -/

/-- Constructor with its type as far as it is written. -/
inductive Constructor where
  | anyVector (size : Nat)
  | anyMatrix (columns rows : Nat)
  | anyArray
  | full (typing : Typing)

def Constructor.label (structs : StructTable) : Constructor → String
  | .anyVector size => s!"vec{size}<?>"
  | .anyMatrix columns rows => s!"mat{columns}x{rows}<?>"
  | .anyArray => "array<?, ?>"
  | .full typing => typing.label structs

def constructor : ConstructorTree → BuildM Constructor
  | .anyVector size => return .anyVector size
  | .anyMatrix columns rows => return .anyMatrix columns rows
  | .anyArray => return .anyArray
  | .full type => do return .full (← lowering.type type)

/-- Groups of `size`. -/
def chunks (size : Nat) : Nat → List Nat → List (List Nat)
  | 0, _ => []
  | count + 1, parts => parts.take size :: chunks size count (parts.drop size)

def partConsensus (parts : List (Nat × Span)) : BuildM Scalar := do
  match ← Build.consensus (parts.map (·.1)) with
  | .ok scalar => return scalar
  | .error i =>
    Build.failAt (((parts[i]?).map (·.2)).getD .nowhere)
      s!"invalid type for constructor component at index [{i}]"

def matrixOfScalars (columns rows : Nat) (scalar : Scalar) (parts : List Nat) (span : Span) :
    BuildM Nat := do
  let vectors ← (chunks rows columns parts).mapM fun column =>
    Build.append (.compose ⟨.vector rows scalar, none⟩ column) .nowhere
  Build.append (.compose ⟨.matrix columns rows scalar, none⟩ vectors) span

def constructEmpty (constructor : Constructor) (span typeSpan : Span) : BuildM Nat :=
  match constructor with
  | .full typing => Build.append (.value (.zero typing)) span
  | .anyVector size => Build.append (.value (.zero ⟨.vector size .abstractInt, none⟩)) span
  | _ => throw (.broken typeSpan .notInferable)

def vectorOfOne? (size : Nat) (goal : Option Scalar) (part : Nat) (type : Ty) (span : Span) :
    Option (BuildM Nat) :=
  match type with
  | .scalar _ => some do
    let part ← match goal with
      | some scalar => Build.adapt scalar part
      | none => pure part
    Build.append (.splat size part) span
  | .vector n _ =>
    if n = size then some <| match goal with
      | some scalar => Build.append (.cast part scalar true) span
      | none => return part
    else none
  | _ => none

def matrixOfOne? (columns rows : Nat) (goal : Option Scalar) (part : Nat) (type : Ty)
    (span : Span) : Option (BuildM Nat) :=
  match type with
  | .matrix n m _ =>
    if n = columns ∧ m = rows then some <| match goal with
      | some scalar => Build.append (.cast part scalar true) span
      | none => return part
    else none
  | _ => none

def arrayOfParts (constructor : Constructor) (parts : List Nat) (span typeSpan : Span) :
    Option (BuildM Nat) :=
  match constructor with
  | .anyArray => some do
    let parts ← match ← Build.consensus parts with
      | .ok scalar => parts.mapM (Build.adapt scalar)
      | .error _ => pure parts
    let base ← match parts.head? with
      | some part => (·.part) <$> Build.typingOf part
      | none => pure .bool
    Build.append (.compose ⟨.array base (.fixed parts.length), none⟩ parts) span
  | .full ⟨.array base length, name⟩ => some do
    let parts ← parts.mapM fun part => Build.convertTo part base.typing typeSpan
    Build.append (.compose ⟨.array base length, name⟩ parts) span
  | _ => none

def vectorPart (goal : Scalar) (goalSpan : Span) (place part : Nat) : BuildM Nat := do
  match ← Build.typeOf part with
  | .scalar _ => Build.convertTo part ⟨.scalar goal, none⟩ goalSpan
  | .vector size _ => Build.convertTo part ⟨.vector size goal, none⟩ goalSpan
  | _ =>
    Build.failAt (← Build.spanOf part) s!"invalid type for constructor component at index [{place}]"

def vectorParts (goal : Scalar) (goalSpan : Span) (parts : List Nat) : BuildM (List Nat) :=
  (parts.zipIdx).mapM fun entry => vectorPart goal goalSpan entry.2 entry.1

/-- Converts the arguments to the types of the members. -/
def memberParts (goalSpan : Span) : List Nat → List StructMember → BuildM (List Nat)
  | part :: parts, member :: members => do
    let part ← Build.convertTo part member.typing goalSpan
    return part :: (← memberParts goalSpan parts members)
  | parts, _ => return parts

def structOfParts (number : Nat) (parts : List Nat) (span : Span) : BuildM Nat := do
  let declared := ((← Build.structs)[number]?).getD default
  let parts ← memberParts declared.span parts declared.members
  Build.append (.compose ⟨.struct number, none⟩ parts) span

def constructOne (constructor : Constructor) (part : Nat) (partSpan span typeSpan : Span) :
    BuildM Nat := do
  let type ← Build.typeOf part
  let badCast : BuildM Nat := do
    let label ← Build.label part
    Build.failAt partSpan s!"cannot cast a {label} to a {constructor.label (← Build.structs)}"
  match constructor with
  | .anyVector size => (vectorOfOne? size none part type span).getD badCast
  | .anyMatrix columns rows => (matrixOfOne? columns rows none part type span).getD badCast
  | .anyArray => (arrayOfParts constructor [part] span typeSpan).getD badCast
  | .full typing => match typing.type, type with
    | .scalar s, .scalar _ => Build.append (.cast part s true) span
    | .vector size s, _ => (vectorOfOne? size (some s) part type span).getD badCast
    | .matrix columns rows s, _ => (matrixOfOne? columns rows (some s) part type span).getD badCast
    | .array .., _ => (arrayOfParts constructor [part] span typeSpan).getD badCast
    | .struct number, _ => structOfParts number [part] span
    | _, _ => badCast

def constructMany (constructor : Constructor) (parts : List (Nat × Span)) (span typeSpan : Span) :
    BuildM Nat := do
  let nodes := parts.map (·.1)
  match constructor with
  | .anyVector size =>
    let scalar ← partConsensus parts
    Build.append (.compose ⟨.vector size scalar, none⟩ (← nodes.mapM (Build.adapt scalar))) span
  | .anyMatrix columns rows =>
    let scalar ← partConsensus parts
    if nodes.length = columns * rows then
      let scalar := (scalar.combine? .abstractFloat).getD scalar
      matrixOfScalars columns rows scalar (← nodes.mapM (Build.adapt scalar)) span
    else
      let nodes ← nodes.mapM (Build.adapt scalar)
      Build.append (.compose ⟨.matrix columns rows scalar, none⟩ nodes) span
  | .anyArray => (arrayOfParts constructor nodes span typeSpan).getD (throw .tooDeep)
  | .full typing => match typing.type with
    | .vector _ s =>
      Build.append (.compose typing (← vectorParts s typeSpan nodes)) span
    | .matrix columns rows s =>
      if nodes.length = columns * rows then
        let nodes ← nodes.mapM fun part => Build.convertTo part ⟨.scalar s, none⟩ typeSpan
        matrixOfScalars columns rows s nodes span
      else
        let nodes ← nodes.mapM fun part => Build.convertTo part ⟨.vector rows s, none⟩ typeSpan
        Build.append (.compose typing nodes) span
    | .array .. =>
      (arrayOfParts constructor nodes span typeSpan).getD
        (throw (.named typeSpan .notConstructible))
    | .struct number => structOfParts number nodes span
    | .scalar _ =>
      let extra := parts.drop 1
      let first := (extra.head?.map (·.2)).getD .nowhere
      let last := (extra.getLast?.map (·.2)).getD .nowhere
      throw (.broken ⟨first.first, last.last⟩ .componentCount)
    | _ => throw (.named typeSpan .notConstructible)

def construct (constructor : Constructor) (typeSpan : Span) (parts : List ExprTree) (span : Span) :
    BuildM Nat := do
  match parts with
  | [] => constructEmpty constructor span typeSpan
  | [part] => constructOne constructor (← lowering.value part) part.span span typeSpan
  | _ => do
    let nodes ← parts.mapM lowering.value
    constructMany constructor (nodes.zip (parts.map (·.span))) span typeSpan

end Lowering

end ShaderPreview.Wgsl
