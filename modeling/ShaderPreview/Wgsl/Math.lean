import ShaderPreview.Wgsl.Predeclared

/-!
# Mathematical functions

Signatures of the numeric built-in functions. The arguments of a call agree on one scalar type.
-/

namespace ShaderPreview.Wgsl

/-- Scalar types a function accepts. -/
inductive ScalarClass where
  | number
  | float
  /-- Floating point, where abstract operands become concrete. -/
  | concreteFloat
  | single
  | integer
  deriving DecidableEq, Repr

/-- Candidate scalars, the preferred one first. -/
def ScalarClass.members : ScalarClass → List Scalar
  | .number => [.abstractInt, .abstractFloat, .i32, .u32, .f32, .f16, .i64, .u64, .f64]
  | .float => [.abstractFloat, .f32, .f16, .f64]
  | .concreteFloat => [.f32, .f16, .f64]
  | .single => [.f32]
  | .integer => [.i32, .u32, .i64, .u64]

/-- Shapes a function accepts; all arguments share one. -/
inductive ShapeClass where
  | scalarOrVector
  | vector
  | vector3
  | squareMatrix
  | matrix
  deriving DecidableEq, Repr

def sizes : List Nat := [2, 3, 4]

def ShapeClass.members (scalar : Scalar) : ShapeClass → List Ty
  | .scalarOrVector => .scalar scalar :: sizes.map (.vector · scalar)
  | .vector => sizes.map (.vector · scalar)
  | .vector3 => [.vector 3 scalar]
  | .squareMatrix => sizes.map fun n => .matrix n n scalar
  | .matrix => sizes.flatMap fun columns => sizes.map fun rows => .matrix columns rows scalar

/-- Result type relative to the arguments. -/
inductive ResultShape where
  | same
  | component
  | transposed
  deriving DecidableEq, Repr

inductive Signature where
  | uniform (arity : Nat) (scalars : ScalarClass) (shapes : ShapeClass) (result : ResultShape)
  /-- Fixed argument types and a fixed result. -/
  | fixed (arguments : List Ty) (result : Ty)
  /-- Two alike and a third that may be a scalar. -/
  | mixing
  /-- Two vectors alike and a scalar. -/
  | refraction
  /-- A floating point value and an integer of the same shape. -/
  | scaling
  /-- An integer value, and as many positions. -/
  | bitField (values : Nat)
  /-- A floating point value; the result is a structure of two parts. -/
  | splitting (exponent : Bool)
  deriving Repr

namespace Signature

/-- Functions on floating point scalars and vectors, with their arity. -/
def floatFunctions : List (String × Nat) :=
  [("cos", 1), ("cosh", 1), ("sin", 1), ("sinh", 1), ("tan", 1), ("tanh", 1), ("acos", 1),
   ("acosh", 1), ("asin", 1), ("asinh", 1), ("atan", 1), ("atanh", 1), ("saturate", 1),
   ("radians", 1), ("degrees", 1), ("ceil", 1), ("floor", 1), ("round", 1), ("fract", 1),
   ("trunc", 1), ("exp", 1), ("exp2", 1), ("log", 1), ("log2", 1), ("sqrt", 1),
   ("inverseSqrt", 1), ("atan2", 2), ("pow", 2), ("step", 2), ("fma", 3), ("smoothstep", 3)]

def integerFunctions : List String :=
  ["countTrailingZeros", "countLeadingZeros", "countOneBits", "reverseBits",
   "firstTrailingBit", "firstLeadingBit"]

def vectorOf (size : Nat) (scalar : Scalar) : Ty := .vector size scalar

def packingFunctions : List (String × List Ty × Ty) :=
  [("pack4x8snorm", [vectorOf 4 .f32], .u32), ("pack4x8unorm", [vectorOf 4 .f32], .u32),
   ("pack2x16snorm", [vectorOf 2 .f32], .u32), ("pack2x16unorm", [vectorOf 2 .f32], .u32),
   ("pack2x16float", [vectorOf 2 .f32], .u32), ("pack4xI8", [vectorOf 4 .i32], .u32),
   ("pack4xU8", [vectorOf 4 .u32], .u32), ("pack4xI8Clamp", [vectorOf 4 .i32], .u32),
   ("pack4xU8Clamp", [vectorOf 4 .u32], .u32),
   ("unpack4x8snorm", [.u32], vectorOf 4 .f32), ("unpack4x8unorm", [.u32], vectorOf 4 .f32),
   ("unpack2x16snorm", [.u32], vectorOf 2 .f32), ("unpack2x16unorm", [.u32], vectorOf 2 .f32),
   ("unpack2x16float", [.u32], vectorOf 2 .f32), ("unpack4xI8", [.u32], vectorOf 4 .i32),
   ("unpack4xU8", [.u32], vectorOf 4 .u32), ("dot4I8Packed", [.u32, .u32], .i32),
   ("dot4U8Packed", [.u32, .u32], .u32)]

def ofName? (name : String) : Option Signature :=
  if let some arity := floatFunctions.lookup name then
    some (.uniform arity .float .scalarOrVector .same)
  else if integerFunctions.contains name then
    some (.uniform 1 .integer .scalarOrVector .same)
  else if let some (arguments, result) := packingFunctions.lookup name then
    some (.fixed arguments result)
  else match name with
    | "abs" | "sign" => some (.uniform 1 .number .scalarOrVector .same)
    | "min" | "max" => some (.uniform 2 .number .scalarOrVector .same)
    | "clamp" => some (.uniform 3 .number .scalarOrVector .same)
    | "dot" => some (.uniform 2 .number .vector .component)
    | "cross" => some (.uniform 2 .float .vector3 .same)
    | "length" => some (.uniform 1 .concreteFloat .scalarOrVector .component)
    | "distance" => some (.uniform 2 .concreteFloat .scalarOrVector .component)
    | "normalize" => some (.uniform 1 .concreteFloat .vector .same)
    | "reflect" => some (.uniform 2 .concreteFloat .vector .same)
    | "faceForward" => some (.uniform 3 .concreteFloat .vector .same)
    | "quantizeToF16" => some (.uniform 1 .single .scalarOrVector .same)
    | "transpose" => some (.uniform 1 .concreteFloat .matrix .transposed)
    | "determinant" => some (.uniform 1 .concreteFloat .squareMatrix .component)
    | "mix" => some .mixing
    | "refract" => some .refraction
    | "ldexp" => some .scaling
    | "extractBits" => some (.bitField 1)
    | "insertBits" => some (.bitField 2)
    | "modf" => some (.splitting false)
    | "frexp" => some (.splitting true)
    | _ => none

def arity : Signature → Nat
  | .uniform arity _ _ _ => arity
  | .fixed arguments _ => arguments.length
  | .mixing | .refraction => 3
  | .scaling => 2
  | .bitField values => values + 2
  | .splitting _ => 1

/-- The types of the arguments of all functions of a signature, the preferred ones first. -/
def overloads : Signature → List (List Ty)
  | .uniform arity scalars shapes _ => scalars.members.flatMap fun scalar =>
    (shapes.members scalar).map (List.replicate arity)
  | .fixed arguments _ => [arguments]
  | .mixing => ScalarClass.float.members.flatMap fun scalar =>
    [.scalar scalar, .scalar scalar, .scalar scalar] ::
      (ShapeClass.vector.members scalar).flatMap fun vector =>
        [[vector, vector, vector], [vector, vector, .scalar scalar]]
  | .refraction => ScalarClass.concreteFloat.members.flatMap fun scalar =>
    (ShapeClass.vector.members scalar).map fun vector => [vector, vector, .scalar scalar]
  | .scaling => ScalarClass.concreteFloat.members.flatMap fun scalar =>
    (ShapeClass.scalarOrVector.members scalar).map fun type => [type, type.withLeaf .i32]
  | .bitField values => ScalarClass.integer.members.flatMap fun scalar =>
    (ShapeClass.scalarOrVector.members scalar).map fun type =>
      List.replicate values type ++ [.u32, .u32]
  | .splitting _ => ScalarClass.concreteFloat.members.flatMap fun scalar =>
    (ShapeClass.scalarOrVector.members scalar).map ([·])

def accepts (type goal : Ty) : Bool := type = goal || (type.conversion? goal).isSome

/-- Overloads that accept a type for the argument at an index. -/
def narrow (place : Nat) (type : Ty) (overloads : List (List Ty)) : List (List Ty) :=
  overloads.filter fun goals => (goals[place]?.map (accepts type)).getD false

inductive Mismatch where
  /-- No overload accepts the argument. -/
  | wrong (place : Nat)
  /-- No remaining overload accepts the argument. -/
  | inconsistent (place : Nat)
  deriving DecidableEq, Repr

/-- Overloads that accept all arguments, or the first argument that leaves none. -/
def select (every : List (List Ty)) : Nat → List (List Ty) → List Ty →
    Except Mismatch (List (List Ty))
  | _, remaining, [] => .ok remaining
  | place, remaining, type :: types =>
    let next := narrow place type remaining
    if !next.isEmpty then select every (place + 1) next types
    else if (narrow place type every).isEmpty then .error (.wrong place)
    else .error (.inconsistent place)

def resultType (shape : ResultShape) (type : Ty) : Ty :=
  match shape, type with
  | .component, .vector _ s => .scalar s
  | .component, .matrix _ _ s => .scalar s
  | .transposed, .matrix columns rows s => .matrix rows columns s
  | _, other => other

def convert (types : List Ty) (signature : Signature) : Except Mismatch (List Ty) := do
  let overloads := signature.overloads
  return (← select overloads 0 overloads types).head?.getD types

/-- The type of the result of a call with converted arguments; a function that splits its argument
gives a structure, which is looked up by its name. -/
def result? (structs : StructTable) (types : List Ty) : Signature → Option Ty
  | .uniform _ _ _ shape => types.head?.map (resultType shape)
  | .fixed _ result => some result
  | .mixing | .refraction | .scaling | .bitField _ => types.head?
  | .splitting exponent => do
    let type ← types.head?
    (structs.findIdx? (· = Predeclared.splitResult exponent type)).map .struct

end Signature

end ShaderPreview.Wgsl
