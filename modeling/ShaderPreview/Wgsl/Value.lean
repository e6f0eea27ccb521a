import ShaderPreview.Text.Place
import ShaderPreview.Wgsl.Literal
import ShaderPreview.Wgsl.Type

/-!
# Constant values

Values of constant expressions. Some operations are not implemented on constants; inside a function
they are deferred to run time.

The components of a value keep the spans where they were written, and a computed component has the
span of its operation.
-/

namespace ShaderPreview.Wgsl

open Text

structure Placed (α : Type) where
  item : α
  span : Span
  deriving Inhabited

inductive Value where
  | literal (literal : Literal)
  | zero (typing : Typing)
  | splat (size : Nat) (part : Placed Value)
  | compose (typing : Typing) (parts : List (Placed Value))
  deriving Inhabited

namespace Value

def typing : Value → Typing
  | .literal l => ⟨.scalar l.scalar, none⟩
  | .zero typing => typing
  | .splat size ⟨value, _⟩ => match value.typing with
    | ⟨.scalar s, _⟩ => ⟨.vector size s, none⟩
    | other => other
  | .compose typing _ => typing

def type (value : Value) : Ty := value.typing.type

/-- Zero value of a type, expanded into components. -/
def zeroOf (span : Span) : Option String → Ty → Value
  | _, .scalar s => .literal (.zero s)
  | name, .vector n s =>
    .compose ⟨.vector n s, name⟩ (List.replicate n ⟨.literal (.zero s), span⟩)
  | name, .matrix columns rows s =>
    .compose ⟨.matrix columns rows s, name⟩ (List.replicate columns
      ⟨.compose ⟨.vector rows s, none⟩ (List.replicate rows ⟨.literal (.zero s), span⟩), span⟩)
  | name, .array base (.fixed count) =>
    .compose ⟨.array base (.fixed count), name⟩
      (List.replicate count ⟨zeroOf span none base, span⟩)
  | _, .named name type => zeroOf span (some name) type
  | name, other => .zero ⟨other, name⟩

def expandZero (span : Span) : Value → Value
  | .zero ⟨type, name⟩ => zeroOf span name type
  | other => other

def expand (span : Span) : Value → Value
  | .zero ⟨type, name⟩ => zeroOf span name type
  | .splat n part => match part.item.type with
    | .scalar s => .compose ⟨.vector n s, none⟩ (List.replicate n part)
    | _ => .splat n part
  | other => other

def literal? : Value → Option Literal
  | .literal l => some l
  | .zero ⟨.scalar s, _⟩ => some (.zero s)
  | _ => none

def openPart : Placed Value → List (Placed Value)
  | ⟨.compose _ inner, _⟩ => inner
  | other => [other]

def spreadPart : Placed Value → List (Placed Value)
  | ⟨.splat n inner, _⟩ => List.replicate n inner
  | other => [other]

/-- The scalar components of parts of a vector, one after the other. Vectors are put together at
most twice; a vector of zeros counts as a single component. -/
def flatten (size : Nat) (parts : List (Placed Value)) : List (Placed Value) :=
  (((parts.flatMap openPart).flatMap openPart).flatMap spreadPart).take size

def parts? : Value → Option (Ty × List (Placed Value))
  | .compose ⟨.vector n s, _⟩ inner => some (.vector n s, flatten n inner)
  | .compose ⟨type, _⟩ inner => some (type, inner)
  | _ => none

def width? (value : Value) : Option Nat :=
  value.type.width?

/-- Composite value; a vector needs the right number of components. -/
def ofParts (typing : Typing) (parts : List (Placed Value)) : Evaluation Value :=
  match typing.type with
  | .vector n _ => match parts.mapM (·.item.width?) with
    | none => .error .componentKind
    | some widths =>
      if Ty.total widths = n then .ok (.compose typing parts)
      else .error (.componentCount n (Ty.total widths))
  | _ => .ok (.compose typing parts)

def component (structs : StructTable) (index : Nat) (span : Span) :
    Value → Evaluation (Placed Value)
  | .zero ⟨type, _⟩ => match type.componentCount? structs with
    | none => .error .accessBase
    | some count =>
      if count ≤ index then .error .accessBase
      else match type.componentTyping? structs index with
        | some inner => .ok ⟨.zero inner, span⟩
        | none => .error .accessIndex
  | .splat n part => if n ≤ index then .error .accessBase else .ok part
  | .compose typing parts =>
    if (typing.type.componentCount? structs).isNone then .error .accessBase
    else match (Value.compose typing parts).parts?.bind (·.2[index]?) with
      | some part => .ok part
      | none => .error .accessIndex
  | _ => .error .accessBase

def swizzle (pattern : List Nat) (value : Value) : Evaluation Value :=
  match value with
  | .splat _ inner => .ok (.splat pattern.length inner)
  | .zero ⟨.vector _ s, _⟩ => .ok (.zero ⟨.vector pattern.length s, none⟩)
  | _ => match value.parts? with
    | some (.vector _ s, parts) => match pattern.mapM (parts[·]?) with
      | some chosen => ofParts ⟨.vector pattern.length s, none⟩ chosen
      | none => .error .swizzlePlace
    | _ => .error .swizzleBase

def compares : BinaryOp → Bool
  | .equal | .notEqual | .less | .lessEqual | .greater | .greaterEqual => true
  | _ => false

/-- An operation on two values, at most `fuel` levels deep, that stands at a span. With a single
literal on one side the result keeps the type of the other one. -/
def binaryAt (op : BinaryOp) (span : Span) : Nat → Value → Value → Evaluation Value
  | 0, _, _ => .error .operands
  | fuel + 1, x, y =>
    let part (x y : Value) : Evaluation (Placed Value) := (⟨·, span⟩) <$> binaryAt op span fuel x y
    match x.expand span, y.expand span with
    | .literal a, .literal b => .literal <$> Literal.binary op a b
    | .compose typing parts, .literal b => do
      ofParts typing (← parts.mapM fun x => part x.item (.literal b))
    | .literal a, .compose typing parts => do
      ofParts typing (← parts.mapM fun y => part (.literal a) y.item)
    | .compose ⟨.vector n s, name⟩ left, .compose ⟨.vector m _, _⟩ right =>
      if n = m && op ≠ .logicalAnd && op ≠ .logicalOr then do
        ofParts (if compares op then ⟨.vector n .bool, none⟩ else ⟨.vector n s, name⟩)
          (← ((flatten n left).zip (flatten m right)).mapM fun pair => part pair.1.item pair.2.item)
      else .error .operands
    | _, _ => .error .operands

/-- Recursion limit of constant evaluation. -/
def maxDepth : Nat := 64

def binary (op : BinaryOp) (span : Span) (x y : Value) : Evaluation Value :=
  binaryAt op span maxDepth x y

/-- Applies a function to every scalar of a value. -/
def mapLeaves (retype : Typing → Typing) (f : Literal → Evaluation Literal)
    (fault : EvaluationFault) (span : Span) : Nat → Value → Evaluation Value
  | 0, _ => .error fault
  | fuel + 1, value =>
    match value.expandZero span with
    | .literal l => .literal <$> f l
    | .splat n part => do
      return .splat n ⟨← mapLeaves retype f fault span fuel part.item, part.span⟩
    | .compose typing parts =>
      if typing.type.leaf?.isNone then .error fault
      else do
        return .compose (retype typing) (← parts.mapM fun part => do
          return ⟨← mapLeaves retype f fault span fuel part.item, span⟩)
    | _ => .error fault

def unary (op : UnaryOp) (span : Span) (value : Value) : Evaluation Value :=
  match value.expand span with
  | .compose ⟨.array _ _, _⟩ _ => .error .unaryOperand
  | expanded => mapLeaves id (Literal.unary op) .unaryOperand span maxDepth expanded

def cast (structs : StructTable) (goal : Scalar) (span : Span) (value : Value) :
    Evaluation Value :=
  mapLeaves (fun typing => ⟨typing.type.withLeaf goal, none⟩) (Literal.cast goal)
    (.cast (value.type.label structs) goal.label) span maxDepth value

/-- Non-negative integer value. -/
def index? (value : Value) : Option (Option Nat) :=
  match value.literal? with
  | some (.int s a) =>
    if s = .i32 ∨ s = .u32 then some (if a < 0 then none else some a.toNat) else none
  | _ => none

def truth? (value : Value) : Option Bool :=
  match value.literal? with
  | some (.bool b) => some b
  | _ => none

/-- Components have the right types at every level. -/
def isWellFormed (structs : StructTable) : Value → Bool
  | .literal _ | .zero _ => true
  | .splat _ ⟨value, _⟩ => value.isWellFormed structs
  | .compose typing parts =>
    typing.type.isMadeOf structs (parts.map (·.item.type)) &&
      parts.attach.all fun part => part.1.item.isWellFormed structs
termination_by value => sizeOf value
decreasing_by
  · simp only [splat.sizeOf_spec, Placed.mk.sizeOf_spec]
    omega
  · have := List.sizeOf_lt_of_mem part.2
    have : sizeOf part.1.item < sizeOf part.1 := by
      cases part.1
      simp only [Placed.mk.sizeOf_spec]
      omega
    simp only [compose.sizeOf_spec]
    omega

end Value

end ShaderPreview.Wgsl
