/-!
# Scalar types

Concrete scalars and the abstract ones of literals without a suffix. Abstract numbers convert
automatically to a concrete type.
-/

namespace ShaderPreview.Wgsl

inductive ScalarKind where
  | bool
  | sint
  | uint
  | float
  | abstractInt
  | abstractFloat
  deriving DecidableEq, Repr, Inhabited

/-- Kind and width in bytes. -/
structure Scalar where
  kind : ScalarKind
  width : Nat
  deriving DecidableEq, Repr, Inhabited

namespace Scalar

def bool : Scalar := ⟨.bool, 1⟩
def i32 : Scalar := ⟨.sint, 4⟩
def u32 : Scalar := ⟨.uint, 4⟩
def f32 : Scalar := ⟨.float, 4⟩
def f16 : Scalar := ⟨.float, 2⟩
def f64 : Scalar := ⟨.float, 8⟩
def i64 : Scalar := ⟨.sint, 8⟩
def u64 : Scalar := ⟨.uint, 8⟩
def abstractInt : Scalar := ⟨.abstractInt, 8⟩
def abstractFloat : Scalar := ⟨.abstractFloat, 8⟩

def isAbstract (scalar : Scalar) : Bool :=
  scalar.kind == .abstractInt || scalar.kind == .abstractFloat

def concrete : List Scalar := [bool, i32, u32, f32, f16, f64, i64, u64]

def isConcrete (scalar : Scalar) : Bool := concrete.contains scalar

def isInteger (scalar : Scalar) : Bool :=
  scalar.kind == .sint || scalar.kind == .uint || scalar.kind == .abstractInt

def isFloat (scalar : Scalar) : Bool := scalar.kind == .float || scalar.kind == .abstractFloat

/-- Default concrete type of an abstract number. -/
def concretize (scalar : Scalar) : Scalar :=
  match scalar.kind with
  | .abstractInt => i32
  | .abstractFloat => f32
  | _ => scalar

/-- Common type of two operands. -/
def combine? (first second : Scalar) : Option Scalar :=
  if first = second then some first
  else match first.kind, second.kind with
    | .sint, .abstractInt | .uint, .abstractInt => some first
    | .float, .abstractInt | .float, .abstractFloat => some first
    | .abstractInt, .sint | .abstractInt, .uint => some second
    | .abstractInt, .float | .abstractFloat, .float => some second
    | .abstractInt, .abstractFloat | .abstractFloat, .abstractInt => some abstractFloat
    | _, _ => none

/-- Automatic conversion. -/
def becomes (source goal : Scalar) : Bool := combine? source goal == some goal

/-- Name of a scalar; types without a name are shown in braces. -/
def label (scalar : Scalar) : String :=
  match scalar.kind with
  | .bool => "bool"
  | .sint => if scalar.width = 8 then "i64" else "i32"
  | .uint => if scalar.width = 8 then "u64" else "u32"
  | .float => if scalar.width = 8 then "f64" else if scalar.width = 2 then "f16" else "f32"
  | .abstractInt => "\x7bAbstractInt\x7d"
  | .abstractFloat => "\x7bAbstractFloat\x7d"

def ofWord? (word : String) : Option Scalar :=
  concrete.find? (·.label == word)

end Scalar

end ShaderPreview.Wgsl
