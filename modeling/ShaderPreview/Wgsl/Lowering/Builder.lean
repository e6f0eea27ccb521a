import ShaderPreview.Wgsl.Fault
import ShaderPreview.Wgsl.MathValue
import ShaderPreview.Wgsl.Typing

/-!
# The builder monad

Nodes are appended one at a time. A node with constant operands is evaluated at once; in a constant
context any other node is an error.

Run-time nodes are collected into `emit` steps. Nodes that need no evaluation interrupt the
collection.
-/

namespace ShaderPreview.Wgsl

open Text

/-- Meaning of a global name. -/
inductive Named where
  | type (typing : Typing)
  | constant (number : Nat)
  | overridable (number : Nat)
  | global (number : Nat)
  | function (number : Nat)
  | entryPoint
  deriving DecidableEq, Repr

/-- Reference or value. -/
inductive Spot where
  | reference (node : Nat)
  | plain (node : Nat)
  deriving DecidableEq, Repr

inductive LocalName where
  | runtime (place : Spot)
  | constant (node : Nat)
  deriving DecidableEq, Repr

/-- Evaluation context of an expression. -/
inductive Mode where
  | constant
  | overridable
  /-- Constant expression in a function body. -/
  | localConstant
  | runtime
  deriving DecidableEq, Repr

def Mode.isLocal : Mode → Bool
  | .runtime | .localConstant => true
  | .constant | .overridable => false

/-- Module and function under construction. -/
structure Building where
  shader : ShaderModule
  names : List (String × Named)
  nodes : Array Node
  parameters : List BoundType
  result : Option BoundType
  locals : Array LocalVariable
  localNames : List (Nat × LocalName)
  named : List Nat
  /-- Steps of the current block, the latest first. -/
  steps : List Step
  /-- First node not yet covered by an `emit` step. -/
  pending : Option Nat
  mode : Mode

abbrev BuildM := StateT Building (Except Fault)

namespace Build

def start : Building :=
  ⟨.empty, [], #[], [], none, #[], [], [], [], none, .constant⟩

def failAt {α : Type} (span : Span) (text : String) : BuildM α := throw ⟨.other text, some span⟩

def structs : BuildM StructTable := return (← get).shader.structs

/-- Type of a predeclared structure, added to the module on first use. -/
def recordType (declared : StructType) : BuildM Ty := do
  match (← structs).findIdx? (· = declared) with
  | some number => return .struct number
  | none =>
    let number := (← structs).size
    modify fun state =>
      { state with shader := { state.shader with structs := state.shader.structs.push declared } }
    return .struct number

def typingOf (node : Nat) : BuildM Typing :=
  return (((← get).nodes[node]?).map (·.typing)).getD ⟨.bool, none⟩

def typeOf (node : Nat) : BuildM Ty := return (← typingOf node).type

def spanOf (node : Nat) : BuildM Span :=
  return (((← get).nodes[node]?).map (·.span)).getD .nowhere

def phaseOf (node : Nat) : BuildM Phase :=
  return (((← get).nodes[node]?).map (·.phase)).getD .runtime

def label (node : Nat) : BuildM String := return (← typingOf node).label (← structs)

/-! ### Steps -/

def joinSpans (first second : Span) : Span :=
  if !first.isKnown then second
  else if !second.isKnown then first
  else ⟨min first.first second.first, max first.last second.last⟩

def push (span : Span) (action : Action) : BuildM Unit :=
  modify fun state => { state with steps := .mk span action :: state.steps }

/-- Emits the pending nodes. -/
def finish : BuildM Unit := do
  let state ← get
  match state.pending with
  | none => return ()
  | some first =>
    set { state with pending := none }
    if first < state.nodes.size then
      let span := ((state.nodes.toList.drop first).map (·.span)).foldl joinSpans .nowhere
      push span (.emit first state.nodes.size)

def collect : BuildM Unit := modify fun state => { state with pending := some state.nodes.size }

def addNode (node : Node) : BuildM Nat := do
  if (← get).pending.isSome && node.op.isGiven then
    finish
    modify fun state => { state with nodes := state.nodes.push node }
    collect
  else modify fun state => { state with nodes := state.nodes.push node }
  return (← get).nodes.size - 1

def inMode {α : Type} (mode : Mode) (step : BuildM α) : BuildM α := do
  let outer := (← get).mode
  modify ({ · with mode := mode })
  let value ← step
  modify ({ · with mode := outer })
  return value

def apart {α : Type} (mode : Mode) (step : BuildM α) : BuildM α := do
  let outer ← get
  modify fun state => { state with nodes := #[], pending := none, steps := [], mode := mode }
  let value ← step
  modify fun state => { state with
    nodes := outer.nodes, pending := outer.pending, steps := outer.steps, mode := outer.mode }
  return value

def constantMode : BuildM Mode := do
  match (← get).mode with
  | .runtime | .localConstant => return .localConstant
  | _ => return .constant

def innerBlock {α : Type} (step : BuildM α) : BuildM (α × List Step) := do
  let outer := (← get).steps
  modify ({ · with steps := [] })
  let value ← step
  let steps := (← get).steps.reverse
  modify ({ · with steps := outer })
  return (value, steps)

/-- Emits the nodes of an expression before what follows. -/
def collecting {α : Type} (step : BuildM α) : BuildM α := do
  collect
  let value ← step
  finish
  return value

/-! ### Constant operations -/

def valueIn (nodes : Array Node) (node : Nat) : Evaluation Value :=
  match nodes[node]? with
  | some ⟨.value value, _, _, _⟩ => .ok value
  | _ => .error .notConstant

def placedIn (nodes : Array Node) (node : Nat) : Evaluation (Placed Value) := do
  return ⟨← valueIn nodes node, ((nodes[node]?).map (·.span)).getD .nowhere⟩

/-- Constant evaluation; an access to a component keeps the span of the component. -/
def evaluate (structs : StructTable) (nodes : Array Node) (span : Span) (op : Op) :
    Evaluation (Placed Value) :=
  let here (value : Evaluation Value) : Evaluation (Placed Value) := (⟨·, span⟩) <$> value
  let valueOf (node : Nat) : Evaluation Value := valueIn nodes node
  match op with
  | .value value => .ok ⟨value, span⟩
  | .access base index => do
    let _ ← valueOf base
    let _ ← valueOf index
    .error .accessIndexType
  | .component base index => do (← valueOf base).component structs index span
  | .swizzle vector pattern => here do (← valueOf vector).swizzle pattern
  | .splat size value => here do return .splat size (← placedIn nodes value)
  | .compose type parts => here do Value.ofParts type (← parts.mapM (placedIn nodes))
  | .unary op operand => here do Value.unary op span (← valueOf operand)
  | .binary op left right => here do Value.binary op span (← valueOf left) (← valueOf right)
  | .select condition accept reject => do
    MathValue.choose span (← valueOf condition) (← valueOf accept) (← placedIn nodes reject)
  | .relational name operand => here do MathValue.relational name span (← valueOf operand)
  | .math name arguments => here do MathValue.evaluate name span (← arguments.mapM valueOf)
  | .cast operand goal true => here do (← valueOf operand).cast structs goal span
  | .cast _ _ false => .error (.notImplemented "bitcast built-in function")
  | .arrayLength _ => .error .arrayLength
  | _ => .error .notConstant

def ownPhase : Op → Phase
  | .overridable _ => .overridable
  | .parameter _ | .global _ | .localVar _ | .load _ | .derivative _ | .sample _
  | .textureLoad .. | .textureQuery .. | .callResult _ | .atomicResult _ | .workgroupLoad _
  | .subgroupResult _ | .rayProceeds | .rayIntersection _ | .rayCorners _ => .runtime
  | _ => .constant

def phase (nodes : Array Node) (op : Op) : Phase :=
  (op.operands.map fun node => ((nodes[node]?).map (·.phase)).getD .runtime).foldl Phase.later
    (ownPhase op)

def typing (state : Building) : TypingContext :=
  ⟨state.shader, state.nodes, state.parameters, state.locals⟩

def addTyped (op : Op) (span : Span) (phase : Phase) : BuildM Nat := do
  match (typing (← get)).typingOf op with
  | .ok type => addNode ⟨op, type, span, phase⟩
  | .error text => throw ⟨.other text, none⟩

def addValue (value : Value) (span : Span) : BuildM Nat :=
  addNode ⟨.value value, value.typing, span, .constant⟩

def append (op : Op) (span : Span) : BuildM Nat := do
  let state ← get
  match phase state.nodes op with
  | .constant => match evaluate state.shader.structs state.nodes span op with
    | .ok placed => addValue placed.item placed.span
    | .error fault =>
      if state.mode = .runtime && fault.canWait then addTyped op span .runtime
      else failAt span fault.message
  | .overridable =>
    if state.mode = .runtime ∨ state.mode = .overridable then addTyped op span .overridable
    else failAt span EvaluationFault.dependsOnOverride.message
  | .runtime =>
    if state.mode = .runtime then addTyped op span .runtime
    else failAt span EvaluationFault.notConstant.message

def constant? (node : Nat) : BuildM (Option Value) := do
  let state ← get
  match state.nodes[node]? with
  | some ⟨.value value, _, _, .constant⟩ => return some value
  | _ => return none

def written? (node : Nat) : BuildM (Option Value) := do
  return (valueIn (← get).nodes node).toOption

/-- Treats the node as a run-time value. -/
def forgetConstant (node : Nat) : BuildM Unit :=
  modify fun state =>
    { state with nodes := state.nodes.modify node ({ · with phase := .runtime }) }

/-! ### Conversions -/

def convertLeaf (node : Nat) (goal : Scalar) : BuildM Nat := do
  let span ← spanOf node
  match ← typeOf node with
  | .array .. =>
    let state ← get
    let given := (valueIn state.nodes node).mapError fun _ => .partsNotConstant
    match given >>= (·.cast state.shader.structs goal span) with
    | .ok value => addValue value span
    | .error fault => failAt span fault.message
  | _ => append (.cast node goal true) span

def concretize (node : Nat) : BuildM Nat := do
  match (← typeOf node).leaf? with
  | none => return node
  | some scalar =>
    if !scalar.isAbstract then return node
    else
      let state ← get
      let span ← spanOf node
      let given := (valueIn state.nodes node).mapError fun _ => .partsNotConstant
      match given >>= (·.cast state.shader.structs scalar.concretize span) with
      | .ok value => addValue value span
      | .error fault =>
        failAt span s!"failed to convert expression to a concrete type: {fault.message}"

/-- Converts an abstract node to a type; a concrete node is kept. -/
def convertTo (node : Nat) (goal : Typing) (goalSpan : Span) : BuildM Nat := do
  let type ← typeOf node
  if !type.isAbstract || type.same goal.type then return node
  else match type.conversion? goal.type with
    | some scalar => convertLeaf node scalar
    | none =>
      throw ⟨.noConversion (← label node) (goal.label (← structs)), some goalSpan⟩

def convertLeafTo (node : Nat) (goal : Scalar) (goalSpan : Span) : BuildM Nat := do
  let type ← typeOf node
  let refused : BuildM Nat := do
    throw ⟨.noElementConversion (← label node) goal.label, some goalSpan⟩
  match type.leaf? with
  | none => refused
  | some scalar =>
    if scalar = goal then return node
    else if scalar.becomes goal then convertLeaf node goal
    else refused

def adapt (goal : Scalar) (node : Nat) : BuildM Nat := do
  match (← typeOf node).elementary? with
  | some scalar => if scalar = goal then return node else convertLeaf node goal
  | none => return node

def consensusFrom (best : Scalar) (place : Nat) : List Ty → Except Nat Scalar
  | [] => .ok best
  | type :: types => match type.elementary?.bind best.combine? with
    | some scalar => consensusFrom scalar (place + 1) types
    | none => .error place

/-- Common scalar of some nodes, or the first node that has none with those before it. -/
def consensus (nodes : List Nat) : BuildM (Except Nat Scalar) := do
  match ← nodes.mapM typeOf with
  | [] => return .error 0
  | type :: types => match type.elementary? with
    | some scalar => return consensusFrom scalar 1 types
    | none => return .error 0

def loaded : Spot → BuildM Nat
  | .plain node => return node
  | .reference node => do append (.load node) (← spanOf node)

def asReference : Spot → BuildM Spot
  | .reference node => return .reference node
  | .plain node => do
    return if (← typeOf node).pointee?.isSome then .reference node else .plain node

def nodeOf : Spot → Nat
  | .plain node | .reference node => node

def sameKind (node : Nat) : Spot → Spot
  | .plain _ => .plain node
  | .reference _ => .reference node

/-- Splats a scalar operand next to a vector operand. -/
def spread (op : BinaryOp) (left right : Nat) : BuildM (Nat × Nat) := do
  if [BinaryOp.add, .subtract, .divide, .modulo].contains op then
    match ← typeOf left, ← typeOf right with
    | .vector n _, .scalar _ => return (left, ← append (.splat n right) (← spanOf right))
    | .scalar _, .vector n _ => return (← append (.splat n left) (← spanOf left), right)
    | _, _ => return (left, right)
  else return (left, right)

end Build

end ShaderPreview.Wgsl
