import ShaderPreview.Wgsl.Validation.Types
import ShaderPreview.Wgsl.Typing

/-!
# Validation of expressions

Whether an operation is valid for its operands, and in which stages.
-/

namespace ShaderPreview.Wgsl.Validation

structure StageSet where
  vertex : Bool
  fragment : Bool
  compute : Bool
  deriving DecidableEq, Repr, Inhabited

namespace StageSet

def all : StageSet := ⟨true, true, true⟩

def onlyFragment : StageSet := ⟨false, true, false⟩

def onlyCompute : StageSet := ⟨false, false, true⟩

def both (a b : StageSet) : StageSet :=
  ⟨a.vertex && b.vertex, a.fragment && b.fragment, a.compute && b.compute⟩

def contains (stages : StageSet) : ShaderStage → Bool
  | .vertex => stages.vertex
  | .fragment => stages.fragment
  | .compute => stages.compute

end StageSet

structure NodeContext where
  types : TypeContext
  nodes : Array Node
  shader : ShaderModule

def NodeContext.of (types : TypeContext) (shader : ShaderModule) (function : Function) :
    NodeContext :=
  ⟨types, function.nodes, shader⟩

def NodeContext.typeAt (context : NodeContext) (node : Nat) : Ty :=
  ((context.nodes[node]?).map (·.type)).getD .bool

def NodeContext.valueAt? (context : NodeContext) (node : Nat) : Option Value :=
  match context.nodes[node]? with
  | some ⟨.value value, _, _, _⟩ => some value
  | _ => none

def scalarKind? : Ty → Option ScalarKind
  | .scalar s | .vector _ s | .matrix _ _ s => some s.kind
  | _ => none

def isNumber (kind : ScalarKind) : Bool := kind == .sint || kind == .uint || kind == .float

def isWhole (kind : ScalarKind) : Bool := kind == .sint || kind == .uint

def isWholeScalar : Ty → Bool
  | .scalar s => isWhole s.kind
  | _ => false

def isFloatScalar : Ty → Bool
  | .scalar s => s.kind == .float
  | _ => false

def hasComponents (admits : ScalarKind → Bool) (type : Ty) : Bool :=
  (type.component?.map fun scalar => admits scalar.kind).getD false

def isPosition (count : Nat) (admits : ScalarKind → Bool) : Ty → Bool
  | .scalar s => count == 1 && admits s.kind
  | .vector n s => n == count && admits s.kind
  | _ => false

def coordinateCount : Dimension → Nat
  | .d1 => 1
  | .d2 => 2
  | .d3 | .cube => 3

/-! ### Operators -/

def multiplies (left right : Ty) : Bool :=
  ((scalarKind? left).map isNumber).getD false && match left, right with
    | .scalar s, .scalar t | .vector _ s, .scalar t | .scalar s, .vector _ t => s = t
    | .scalar s, .matrix _ _ t | .matrix _ _ t, .scalar s => s = t
    | .vector n s, .vector m t => n = m && s = t
    | .matrix columns _ s, .vector n t => columns = n && s = t
    | .vector n s, .matrix _ rows t => n = rows && s = t
    | .matrix columns _ s, .matrix _ rows t => columns = rows && s = t
    | _, _ => false

def shifts (left right : Ty) : Bool :=
  match left, right with
  | .scalar s, .scalar t => isWhole s.kind && t.kind == .uint
  | .vector n s, .vector m t => isWhole s.kind && t.kind == .uint && n = m
  | _, _ => false

def operandsFit (sized : Bool) (op : BinaryOp) (left right : Ty) : Bool :=
  match op with
  | .add | .subtract =>
    left = right && (hasComponents isNumber left || match left with
      | .matrix .. => true
      | _ => false)
  | .divide | .modulo | .less | .lessEqual | .greater | .greaterEqual =>
    left = right && hasComponents isNumber left
  | .multiply => multiplies left right
  | .equal | .notEqual => sized && left = right
  | .logicalAnd | .logicalOr => left = right && hasComponents (· == .bool) left
  | .and | .inclusiveOr =>
    left = right && hasComponents (fun kind => kind == .bool || isWhole kind) left
  | .exclusiveOr => left = right && hasComponents isWhole left
  | .shiftLeft | .shiftRight => shifts left right

def operandFits (op : UnaryOp) (type : Ty) : Bool :=
  match op, scalarKind? type with
  | .negate, some kind => kind == .float || kind == .sint
  | .not, some kind => kind == .bool
  | .complement, some kind => isWhole kind
  | _, none => false

def choiceFits (condition accept reject : Ty) : Bool :=
  accept = reject && match condition, accept with
    | .scalar s, .scalar _ | .scalar s, .vector _ _ => s.kind == .bool
    | .vector n s, .vector m _ => s.kind == .bool && n = m
    | _, _ => false

/-! ### Accesses -/

variable (context : NodeContext)

/-- Number of components, if statically known. -/
def indexLimit? (type : Ty) : Option Nat :=
  ((type.pointee?).getD type).componentCount? context.types.structs

def accessFits (base index : Nat) : Bool :=
  let type := context.typeAt base
  let isIndexed := match (type.pointee?).getD type with
    | .vector .. | .matrix .. | .array .. | .bindingArray .. => true
    | _ => false
  let inside := match (context.valueAt? index).bind Value.index? with
    | some (some i) => match indexLimit? context type with
      | some limit => i < limit
      | none => true
    | some none => false
    | none => true
  isIndexed && isWholeScalar (context.typeAt index) && inside

/-! ### Textures -/

def textureOf? (node : Nat) : Option Texture :=
  match context.typeAt node with
  | .texture texture => some texture
  | _ => none

def layerFits (texture : Texture) (layer : Option Nat) : Bool :=
  match layer with
  | some node => texture.arrayed && isWholeScalar (context.typeAt node)
  | none => !texture.arrayed

/-- Floating point and depth textures; gathering also takes integers. -/
def canSample (gathers : Bool) : TextureClass → Bool
  | .sampled kind false => kind == .float || gathers
  | .depth false => true
  | _ => false

def canGather (texture : Texture) (component : Nat) : Bool :=
  (texture.dimension == .d2 || texture.dimension == .cube) &&
    (component == 0 || match texture.content with
      | .depth _ => false
      | _ => true)

/-- Coordinate clamping is restricted to plain 2D textures. -/
def canClamp (texture : Texture) (sampling : Sampling) : Bool :=
  texture == ⟨.d2, false, .sampled .float false⟩ && sampling.offset.isNone

def isDepth : TextureClass → Bool
  | .depth _ => true
  | _ => false

def levelFits (texture : Texture) (coordinate : Ty) : DetailLevel → Bool
  | .automatic | .zero => true
  | .exact level =>
    let type := context.typeAt level
    if isDepth texture.content then isWholeScalar type else isFloatScalar type
  | .bias level =>
    isFloatScalar (context.typeAt level) && texture.dimension != .d1 && !isDepth texture.content
  | .gradient x y => context.typeAt x = coordinate && context.typeAt y = coordinate

def samplingFits (sampling : Sampling) : Bool :=
  match textureOf? context sampling.texture, context.typeAt sampling.sampler with
  | some texture, .sampler comparison =>
    let count := coordinateCount texture.dimension
    let coordinate := context.typeAt sampling.coordinate
    layerFits context texture sampling.layer &&
      canSample sampling.gather.isSome texture.content &&
      comparison == sampling.reference.isSome && (!comparison || isDepth texture.content) &&
      isPosition count (· == .float) coordinate &&
      (match sampling.offset with
        | some node =>
          (context.valueAt? node).isSome && isPosition count (· == .sint) (context.typeAt node)
        | none => true) &&
      (match sampling.reference with
        | some node => isFloatScalar (context.typeAt node)
        | none => true) &&
      sampling.gather.all (canGather texture) && (!sampling.clamps || canClamp texture sampling) &&
      levelFits context texture coordinate sampling.level
  | _, _ => false

def levelStages : DetailLevel → StageSet
  | .automatic | .bias _ => .onlyFragment
  | _ => .all

def hasLevels : TextureClass → Bool
  | .sampled _ multisampled | .depth multisampled => !multisampled
  | .storage .. => false

def hasSamples : TextureClass → Bool
  | .sampled _ multisampled | .depth multisampled => multisampled
  | .storage .. => false

def texelFits (texture : Texture) (coordinate : Nat) (layer : Option Nat) : Bool :=
  texture.dimension != .cube &&
    isPosition (coordinateCount texture.dimension) isWhole (context.typeAt coordinate) &&
    layerFits context texture layer

def integerFits (isNeeded : Bool) : Option Nat → Bool
  | some node => isNeeded && isWholeScalar (context.typeAt node)
  | none => !isNeeded

def loadFits (texture coordinate : Nat) (layer multisample level : Option Nat) : Bool :=
  match textureOf? context texture with
  | some texture =>
    texelFits context texture coordinate layer &&
      integerFits context (hasSamples texture.content) multisample &&
      integerFits context (hasLevels texture.content) level
  | none => false

def queryFits (texture : Nat) (query : TextureQuery) : Bool :=
  match textureOf? context texture with
  | none => false
  | some texture => match query with
    | .size none => true
    | .size (some level) =>
      hasLevels texture.content && isWholeScalar (context.typeAt level)
    | .levels => hasLevels texture.content
    | .layers => texture.arrayed
    | .samples => hasSamples texture.content

def queryVertexReturn? (query : Nat) : Option Bool :=
  let type := context.typeAt query
  match type.pointee?, type.space? with
  | some (.rayQuery vertexReturn), some .function => some vertexReturn
  | _, _ => none

/-! ### All operations -/

def opFits : Op → Bool
  | .value (.literal literal) => !literal.scalar.isAbstract
  | .value (.zero typing) => (context.types.facts typing.type).isConstructible
  | .value value => value.isWellFormed context.types.structs
  | .load pointer => match (context.typeAt pointer).pointee? with
    | some base =>
      let facts := context.types.facts base
      facts.isData && facts.isSized
    | none => false
  | .access base index => accessFits context base index
  | .component base index => match indexLimit? context (context.typeAt base) with
    | some limit => index < limit
    | none => true
  | .swizzle vector pattern => match context.typeAt vector with
    | .vector n _ => pattern.all (· < n)
    | _ => false
  | .splat _ value => match context.typeAt value with
    | .scalar _ => true
    | _ => false
  | .compose typing parts => typing.type.isMadeOf context.types.structs (parts.map context.typeAt)
  | .unary op operand => operandFits op (context.typeAt operand)
  | .binary op left right =>
    operandsFit (context.types.facts (context.typeAt left)).isSized op (context.typeAt left)
      (context.typeAt right)
  | .select condition accept reject =>
    choiceFits (context.typeAt condition) (context.typeAt accept) (context.typeAt reject)
  | .relational _ operand => match context.typeAt operand with
    | .vector _ s => s.kind == .bool
    | _ => false
  | .derivative operand => hasComponents (· == .float) (context.typeAt operand)
  | .cast operand goal converts =>
    match (context.typeAt operand).elementary? with
    | some scalar => (TypingContext.castScalar scalar goal converts).isConcrete
    | none => false
  | .sample sampling => samplingFits context sampling
  | .textureLoad texture coordinate layer multisample level =>
    loadFits context texture coordinate layer multisample level
  | .textureQuery texture query => queryFits context texture query
  | .arrayLength pointer => match (context.typeAt pointer).pointee? with
    | some (.array _ .dynamic) => true
    | _ => false
  | .rayIntersection query => (queryVertexReturn? context query).isSome
  | .rayCorners query => queryVertexReturn? context query = some true
  | .atomicResult typing => match typing.type with
    | .scalar s => isNumber s.kind
    | .struct _ => true
    | _ => false
  | .overridable _ | .parameter _ | .global _ | .localVar _ | .math .. | .callResult _
  | .subgroupResult _ | .rayProceeds => true
  | .workgroupLoad typing => (context.types.facts typing.type).isConstructible

/-- Span of the first ill-formed operand, else of the node itself. -/
def flawSpan (node : Node) : Text.Span :=
  let isFlawed (part : Node) : Bool := match part.op with
    | .value value => part.span.isWithin node.span && !value.isWellFormed context.types.structs
    | _ => false
  match node.op with
  | .value _ => ((context.nodes.find? isFlawed).map (·.span)).getD node.span
  | _ => node.span

/-- Stages in which an operation is available. -/
def opStages : Op → StageSet
  | .derivative _ => .onlyFragment
  | .sample sampling => levelStages sampling.level
  | _ => .all

end ShaderPreview.Wgsl.Validation
