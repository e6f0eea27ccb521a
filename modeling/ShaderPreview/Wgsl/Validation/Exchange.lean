import ShaderPreview.Wgsl.Validation.Variables

/-!
# Validation of shared memory operations

Texture stores and atomics, atomic variables, workgroup memory, subgroup operations and ray queries.
-/

namespace ShaderPreview.Wgsl.Validation

open Text

structure StepContext where
  nodes : NodeContext
  result : Option Ty
  callees : Array FunctionFacts

namespace StepContext

variable (context : StepContext)

def spanOf (node : Nat) : Span :=
  ((context.nodes.nodes[node]?).map (·.span)).getD .nowhere

def typeAt (node : Nat) : Ty := context.nodes.typeAt node

def opAt? (node : Nat) : Option Op := (context.nodes.nodes[node]?).map (·.op)

def atNode {α : Type} (cause : FunctionCause) (node : Nat) : Except (At FunctionCause) α :=
  .error ⟨cause, context.spanOf node⟩

def need (cause : FunctionCause) (node : Nat) (holds : Bool) : Except (At FunctionCause) Unit :=
  if holds then .ok () else context.atNode cause node

/-! ### Memory -/

def rootOf (nodes : Array Node) : Nat → Nat → Option Nat
  | 0, _ => none
  | fuel + 1, node => match nodes[node]? with
    | none => none
    | some found => match found.op with
      | .access base _ | .component base _ => rootOf nodes fuel base
      | .localVar _ | .global _ | .parameter _ => some node
      | _ => none

def holdsValue (pointer value : Ty) : Bool :=
  match pointer.pointee? with
  | some (.atomic s) => value = .scalar s
  | some base => value.same base
  | none => false

def isWritable : Ty → Bool
  | .pointer _ space => space.access.write
  | _ => true

def checkWorkgroupLoad (pointer : Nat) : Except (At FunctionCause) Unit :=
  match context.typeAt pointer with
  | .pointer _ .workgroup => .ok ()
  | _ => context.atNode .workgroupLoad pointer

/-! ### Texels -/

def isOfModule (node : Nat) : Bool :=
  let isGlobal (node : Nat) : Bool := match context.opAt? node with
    | some (.global _) => true
    | _ => false
  isGlobal node || match context.opAt? node with
    | some (.access base _) | some (.component base _) => isGlobal base
    | _ => false

def checkTexel (cause : FunctionCause) (texture : Texture) (coordinate : Nat)
    (layer : Option Nat) : Except (At FunctionCause) Unit := do
  context.need cause coordinate <| texture.dimension != .cube &&
    isPosition (coordinateCount texture.dimension) isWhole (context.typeAt coordinate) &&
    texture.arrayed == layer.isSome
  layer.forM fun node => context.need cause node (isWholeScalar (context.typeAt node))

def checkTexelStore (texture coordinate : Nat) (layer : Option Nat) (value : Nat) :
    Except (At FunctionCause) Unit := do
  context.need .texelStore texture (context.isOfModule texture)
  match textureOf? context.nodes texture with
  | some ⟨dimension, arrayed, .storage kind format access⟩ =>
    context.checkTexel .texelStore ⟨dimension, arrayed, .storage kind format access⟩ coordinate
      layer
    context.need .storeValue value
      (context.typeAt value = .vector 4 (Ty.storageScalar kind format))
  | _ => context.atNode .texelStore texture

/-- Formats with texture atomics; 64-bit ones have only minimum and maximum. -/
def formatChanges (isExtreme : Bool) (format : String) : Bool :=
  format == "r32uint" || format == "r32sint" || (format == "r64uint" && isExtreme)

def checkTexelChange (texture coordinate : Nat) (layer : Option Nat) (isExtreme : Bool)
    (value : Nat) : Except (At FunctionCause) Unit := do
  context.need .texelChange texture (context.isOfModule texture)
  match textureOf? context.nodes texture with
  | some ⟨dimension, arrayed, content⟩ =>
    context.checkTexel .texelChange ⟨dimension, arrayed, content⟩ coordinate layer
    match content with
    | .storage kind format access =>
      context.need .texelChange texture (access.atomic && formatChanges isExtreme format)
      context.need .texelChange value
        (context.typeAt value = .scalar (Ty.storageScalar kind format))
    | _ => context.atNode .texelChange texture
  | none => context.atNode .texelChange texture

/-! ### Atomic variables -/

def suitsFloat (function : AtomicFunction) (space : AddressSpace) : Bool :=
  (match space with
    | .storage _ => true
    | _ => false) && function != .other

def checkAtomic (pointer : Nat) (function : AtomicFunction) (value : Nat) :
    Except (At FunctionCause) Unit := do
  let type := context.typeAt pointer
  match type.pointee?, type.space? with
  | some (.atomic scalar), some space =>
    context.need .atomic value <|
      context.typeAt value = .scalar scalar && (scalar ≠ .f32 || suitsFloat function space)
    function.operands.forM fun node =>
      context.need .atomic node (context.typeAt node = context.typeAt value)
  | _, _ => context.atNode .atomic pointer

/-! ### Subgroups -/

def isOperand (operand : SubgroupOperand) (type : Ty) : Bool :=
  match operand with
  | .truth => type = .bool
  | .number => hasComponents isNumber type
  | .bits => hasComponents isWhole type

def checkSubgroup (operand : SubgroupOperand) (argument : Nat) : Except (At FunctionCause) Unit :=
  context.need .subgroup argument (isOperand operand (context.typeAt argument))

def checkShuffle (source : SubgroupSource) (argument : Nat) : Except (At FunctionCause) Unit := do
  if let .chosen number isFixed := source then
    let isConstant := ((context.nodes.nodes[number]?).map (·.phase)) == some .constant
    context.need .subgroup number (context.typeAt number = .u32 && (!isFixed || isConstant))
  context.need .subgroup argument (hasComponents isNumber (context.typeAt argument))

def checkBallot (predicate : Option Nat) : Except (At FunctionCause) Unit :=
  predicate.forM fun node => context.need .subgroup node (context.typeAt node = .bool)

/-! ### Ray queries -/

def describesRay : Ty → Bool
  | .struct number => match context.nodes.types.structs[number]? with
    | some declared => declared.members = Predeclared.rayDescription.members &&
      declared.size = Predeclared.rayDescription.size
    | none => false
  | _ => false

def requestFits (vertexReturn : Bool) : RayRequest → Bool
  | .start scene description =>
    (match context.typeAt scene with
      | .accelerationStructure given => given || !vertexReturn
      | _ => false) && context.describesRay (context.typeAt description)
  | .generate distance => isFloatScalar (context.typeAt distance)
  | .proceed _ | .settle => true

/-- The query must be a local variable. -/
def checkRayQuery (span : Span) (query : Nat) (request : RayRequest) :
    Except (At FunctionCause) Unit :=
  match context.opAt? query, (context.typeAt query).pointee? with
  | some (.localVar _), some (.rayQuery vertexReturn) =>
    if context.requestFits vertexReturn request then .ok () else .error ⟨.rayQuery, span⟩
  | _, _ => .error ⟨.rayQuery, span⟩

end StepContext

end ShaderPreview.Wgsl.Validation
