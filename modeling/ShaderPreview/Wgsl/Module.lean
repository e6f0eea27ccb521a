import ShaderPreview.Wgsl.Value

/-!
# Intermediate representation

A module with resolved names and types. The expressions of a function are nodes in an array and
refer to their operands by index; the statements are steps, and `emit` steps fix when nodes are
evaluated.
-/

namespace ShaderPreview.Wgsl

open Text

/-- When a value is known. -/
inductive Phase where
  | constant
  /-- At pipeline creation. -/
  | overridable
  | runtime
  deriving DecidableEq, Repr, Inhabited

def Phase.later : Phase → Phase → Phase
  | .constant, other => other
  | .runtime, _ => .runtime
  | .overridable, .runtime => .runtime
  | .overridable, _ => .overridable

/-- Level of detail of a texture access. -/
inductive DetailLevel where
  /-- From the derivatives of the coordinates. -/
  | automatic
  | zero
  | exact (level : Nat)
  | bias (level : Nat)
  | gradient (x y : Nat)
  deriving DecidableEq, Repr

structure Sampling where
  texture : Nat
  sampler : Nat
  coordinate : Nat
  layer : Option Nat
  offset : Option Nat
  level : DetailLevel
  reference : Option Nat
  /-- The gathered component. -/
  gather : Option Nat
  clamps : Bool
  deriving DecidableEq, Repr

inductive TextureQuery where
  | size (level : Option Nat)
  | levels
  | layers
  | samples
  deriving DecidableEq, Repr

/-- Expression node; operands are indices of other nodes. -/
inductive Op where
  | value (value : Value)
  | overridable (number : Nat)
  | parameter (number : Nat)
  | global (number : Nat)
  | localVar (number : Nat)
  | load (pointer : Nat)
  | access (base index : Nat)
  | component (base : Nat) (index : Nat)
  | swizzle (vector : Nat) (pattern : List Nat)
  | splat (size : Nat) (value : Nat)
  | compose (typing : Typing) (parts : List Nat)
  | unary (op : UnaryOp) (operand : Nat)
  | binary (op : BinaryOp) (left right : Nat)
  | select (condition accept reject : Nat)
  | relational (name : String) (operand : Nat)
  | derivative (operand : Nat)
  | math (name : String) (arguments : List Nat)
  /-- Conversion or bit cast. -/
  | cast (operand : Nat) (goal : Scalar) (converts : Bool)
  | sample (sampling : Sampling)
  | textureLoad (texture coordinate : Nat) (layer multisample level : Option Nat)
  | textureQuery (texture : Nat) (query : TextureQuery)
  | arrayLength (pointer : Nat)
  | callResult (function : Nat)
  | atomicResult (typing : Typing)
  | workgroupLoad (typing : Typing)
  | subgroupResult (typing : Typing)
  | rayProceeds
  | rayIntersection (query : Nat)
  | rayCorners (query : Nat)

def DetailLevel.operands : DetailLevel → List Nat
  | .automatic | .zero => []
  | .exact level | .bias level => [level]
  | .gradient x y => [x, y]

def Op.operands : Op → List Nat
  | .value _ | .overridable _ | .parameter _ | .global _ | .localVar _ | .callResult _
  | .atomicResult _ | .workgroupLoad _ | .subgroupResult _ | .rayProceeds => []
  | .rayIntersection e | .rayCorners e
  | .load e | .component e _ | .swizzle e _ | .splat _ e | .unary _ e | .relational _ e
  | .derivative e | .cast e _ _ | .arrayLength e => [e]
  | .access a b | .binary _ a b => [a, b]
  | .compose _ parts => parts
  | .select condition accept reject => [condition, accept, reject]
  | .math _ arguments => arguments
  | .sample s =>
    [s.texture, s.sampler, s.coordinate] ++ s.layer.toList ++ s.level.operands ++
      s.reference.toList ++ s.offset.toList
  | .textureLoad texture coordinate layer multisample level =>
    [texture, coordinate] ++ layer.toList ++ multisample.toList ++ level.toList
  | .textureQuery texture query => match query with
    | .size (some level) => [texture, level]
    | _ => [texture]

/-- The value needs no `emit` step. -/
def Op.isGiven : Op → Bool
  | .value (.literal _) | .value (.zero _) => true
  | .overridable _ | .parameter _ | .global _ | .localVar _ => true
  | _ => false

structure Node where
  op : Op
  typing : Typing
  span : Span
  phase : Phase

def Node.type (node : Node) : Ty := node.typing.type

inductive SubgroupOperand where
  | truth
  | number
  | bits
  deriving DecidableEq, Repr

inductive SubgroupSource where
  | implied
  /-- Selected by an index, which must be constant if `isFixed`. -/
  | chosen (number : Nat) (isFixed : Bool)
  deriving DecidableEq, Repr

inductive RayRequest where
  | start (scene description : Nat)
  | proceed (result : Nat)
  | generate (distance : Nat)
  | settle
  deriving DecidableEq, Repr

def RayRequest.operands : RayRequest → List Nat
  | .start scene description => [scene, description]
  | .generate distance => [distance]
  | .proceed _ | .settle => []

inductive AtomicFunction where
  /-- Addition, subtraction or exchange. -/
  | sum
  | exchange (compared : Option Nat)
  | other
  deriving DecidableEq, Repr

def AtomicFunction.operands : AtomicFunction → List Nat
  | .exchange (some compared) => [compared]
  | _ => []

inductive CaseValue where
  | int (value : Int)
  | uint (value : Int)
  | default
  deriving DecidableEq, Repr

mutual

inductive Step where
  | mk (span : Span) (action : Action)

inductive Action where
  /-- Evaluates the nodes in a half-open range. -/
  | emit (first last : Nat)
  | block (body : List Step)
  | conditional (condition : Nat) (accept reject : List Step)
  | switch (selector : Nat) (cases : List SwitchCase)
  | loop (body continuing : List Step) (breakIf : Option Nat)
  | leaveLoop
  | continueLoop
  | giveBack (value : Option Nat)
  | discard
  | store (pointer value : Nat)
  | call (function : Nat) (arguments : List Nat) (result : Option Nat)
  | barrier
  | textureStore (texture coordinate : Nat) (layer : Option Nat) (value : Nat)
  /-- Atomic update of a texel; `isExtreme` for minimum and maximum. -/
  | textureAtomic (texture coordinate : Nat) (layer : Option Nat) (isExtreme : Bool) (value : Nat)
  | atomic (pointer : Nat) (function : AtomicFunction) (value : Nat) (result : Option Nat)
  | workgroupLoad (pointer : Nat) (result : Nat)
  | ballot (predicate : Option Nat) (result : Nat)
  | subgroup (operand : SubgroupOperand) (argument result : Nat)
  | shuffle (source : SubgroupSource) (argument result : Nat)
  | rayQuery (query : Nat) (request : RayRequest)

inductive SwitchCase where
  | mk (value : CaseValue) (body : List Step) (fallsThrough : Bool)

end

def Step.action : Step → Action
  | .mk _ action => action

def Step.span : Step → Span
  | .mk span _ => span

structure BoundType where
  typing : Typing
  binding : Option Binding
  deriving DecidableEq, Repr

structure LocalVariable where
  typing : Typing
  initial : Option Nat
  span : Span

structure Function where
  name : String
  parameters : List BoundType
  result : Option BoundType
  nodes : Array Node
  locals : Array LocalVariable
  /-- Nodes with a name; they count as used. -/
  named : List Nat
  body : List Step
  mustUse : Bool
  span : Span

structure Entry where
  stage : ShaderStage
  earlyDepth : Bool
  workgroupSize : List Nat
  function : Function

/-- Initial value of a variable, with the nodes it depends on. -/
structure Initializer where
  nodes : Array Node
  root : Nat

def Initializer.span (initial : Initializer) : Span :=
  ((initial.nodes[initial.root]?).map (·.span)).getD .nowhere

structure GlobalVariable where
  name : String
  typing : Typing
  space : AddressSpace
  binding : Option (Nat × Nat)
  initial : Option Initializer
  span : Span

structure ConstantValue where
  name : String
  value : Value
  typing : Typing
  initial : Initializer
  span : Span

structure OverridableValue where
  name : Option String
  id : Option Nat
  typing : Typing
  initial : Option Initializer
  span : Span

structure ShaderModule where
  structs : StructTable
  /-- Declared types in order. -/
  types : Array Typing
  constants : Array ConstantValue
  overridables : Array OverridableValue
  globals : Array GlobalVariable
  functions : Array Function
  entries : Array Entry

def ShaderModule.empty : ShaderModule := ⟨#[], #[], #[], #[], #[], #[], #[]⟩

end ShaderPreview.Wgsl
