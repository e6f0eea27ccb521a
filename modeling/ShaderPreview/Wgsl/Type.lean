import ShaderPreview.Wgsl.Name
import ShaderPreview.Text.Place

/-!
# Types

Structures are identified by their index in the module; all other types are compared structurally.
An alias is transparent, except as the element type of an array.
-/

namespace ShaderPreview.Wgsl

open Text

inductive ArrayLength where
  | fixed (count : Nat)
  /-- Length given by an override. -/
  | pending (number : Nat) (name : Option String)
  /-- Runtime-sized. -/
  | dynamic
  deriving DecidableEq, Repr, Inhabited

inductive Ty where
  | scalar (scalar : Scalar)
  | vector (size : Nat) (scalar : Scalar)
  | matrix (columns rows : Nat) (scalar : Scalar)
  | atomic (scalar : Scalar)
  | pointer (base : Ty) (space : AddressSpace)
  | array (base : Ty) (length : ArrayLength)
  | bindingArray (base : Ty) (length : ArrayLength)
  | struct (number : Nat)
  | texture (texture : Texture)
  | sampler (comparison : Bool)
  | accelerationStructure (vertexReturn : Bool)
  | rayQuery (vertexReturn : Bool)
  /-- A named alias within another type. -/
  | named (name : String) (type : Ty)
  deriving DecidableEq, Repr, Inhabited

/-- A type with the alias it was declared under, if any. -/
structure Typing where
  type : Ty
  declaredAs : Option String
  deriving DecidableEq, Repr, Inhabited

def Typing.part (typing : Typing) : Ty :=
  match typing.declaredAs with
  | some name => .named name typing.type
  | none => typing.type

def Ty.typing : Ty → Typing
  | .named name type => ⟨type, some name⟩
  | type => ⟨type, none⟩

def Ty.bare (part : Ty) : Ty := part.typing.type

inductive Binding where
  | builtin (builtin : Builtin)
  /-- Location with an optional blend source. -/
  | location (location : Nat) (interpolation : Option Interpolation)
      (sampling : Option SamplePlace) (source : Option Nat)
  deriving DecidableEq, Repr

structure StructMember where
  name : String
  typing : Typing
  binding : Option Binding
  offset : Nat
  deriving DecidableEq, Repr

structure StructType where
  name : String
  members : List StructMember
  size : Nat
  alignment : Nat
  span : Span
  deriving DecidableEq, Repr, Inhabited

abbrev StructTable := Array StructType

namespace Ty

def bool : Ty := .scalar .bool
def i32 : Ty := .scalar .i32
def u32 : Ty := .scalar .u32
def f32 : Ty := .scalar .f32

/-- Common scalar of all components. -/
def leaf? : Ty → Option Scalar
  | .scalar s | .vector _ s | .matrix _ _ s => some s
  | .array base _ => base.leaf?
  | .named _ type => type.leaf?
  | _ => none

def elementary? : Ty → Option Scalar
  | .scalar s | .vector _ s | .matrix _ _ s => some s
  | _ => none

def component? : Ty → Option Scalar
  | .scalar s | .vector _ s => some s
  | _ => none

def withLeaf (scalar : Scalar) : Ty → Ty
  | .scalar _ => .scalar scalar
  | .vector size _ => .vector size scalar
  | .matrix columns rows _ => .matrix columns rows scalar
  | .array base length => .array (base.withLeaf scalar) length
  | .named _ type => type.withLeaf scalar
  | other => other

def unnamed : Ty → Ty
  | .pointer base space => .pointer base.unnamed space
  | .array base length => .array base.unnamed length
  | .bindingArray base length => .bindingArray base.unnamed length
  | .named _ type => type.unnamed
  | other => other

/-- Type equality up to aliases of numbers and vectors behind pointers. -/
def same : Ty → Ty → Bool
  | .pointer a s, .pointer b t => s = t && (a = b || (a.bare = b.bare && a.bare.component?.isSome))
  | a, b => a = b

def isAbstract (type : Ty) : Bool := (type.leaf?.map (·.isAbstract)).getD false

def pointeeTyping? : Ty → Option Typing
  | .pointer base _ => some base.typing
  | _ => none

def pointee? (type : Ty) : Option Ty := type.pointeeTyping?.map (·.type)

def space? : Ty → Option AddressSpace
  | .pointer _ space => some space
  | _ => none

/-- Leaf scalars of an automatic conversion between types of the same shape. -/
def conversion? (source goal : Ty) : Option Scalar :=
  match source.leaf?, goal.leaf? with
  | some leaf, some wanted =>
    if source.withLeaf wanted = goal.unnamed && leaf.becomes wanted then some wanted else none
  | _, _ => none

/-- Values of the type end in an array whose length is known when the shader runs. -/
def isDynamicIn (structs : StructTable) : Nat → Ty → Bool
  | 0, _ => false
  | fuel + 1, type => match type with
    | .array _ .dynamic => true
    | .struct number =>
      (((structs[number]?).bind (·.members.getLast?)).map
        fun member => isDynamicIn structs fuel member.typing.type).getD false
    | _ => false

/-- The type ends in a runtime-sized array. Members of a structure have earlier types. -/
def isDynamic (structs : StructTable) (type : Ty) : Bool :=
  isDynamicIn structs (structs.size + 1) type

/-- Number of components, if statically indexable. -/
def componentCount? (structs : StructTable) : Ty → Option Nat
  | .vector size _ => some size
  | .matrix columns _ _ => some columns
  | .array _ (.fixed count) => some count
  | .struct number => (structs[number]?).map (·.members.length)
  | _ => none

def componentTyping? (structs : StructTable) (index : Nat) : Ty → Option Typing
  | .vector _ s => some ⟨.scalar s, none⟩
  | .matrix _ rows s => some ⟨.vector rows s, none⟩
  | .array base _ | .bindingArray base _ => some base.typing
  | .struct number =>
    (structs[number]?).bind fun struct => (struct.members[index]?).map (·.typing)
  | _ => none

/-- Number of scalars a constructor argument contributes to a vector. -/
def width? : Ty → Option Nat
  | .scalar _ => some 1
  | .vector n _ => some n
  | _ => none

def total : List Nat → Nat
  | [] => 0
  | count :: rest => count + total rest

def isMadeOf (structs : StructTable) (type : Ty) (parts : List Ty) : Bool :=
  match type with
  | .vector n s =>
    parts.all (·.component? = some s) && (parts.mapM width?).map total == some n
  | .matrix columns rows s => parts.length = columns && parts.all (· = .vector rows s)
  | .array base (.fixed count) => parts.length = count && parts.all (base.bare.same ·)
  | .struct number => match structs[number]? with
    | some declared =>
      declared.members.length = parts.length &&
        (declared.members.zip parts).all fun (member, part) => member.typing.type.same part
    | none => false
  | _ => false

/-! ### Layout -/

def roundUp (alignment offset : Nat) : Nat :=
  if alignment = 0 then offset else (offset + alignment - 1) / alignment * alignment

def vectorAlignment (size : Nat) : Nat := if size = 2 then 2 else 4

def alignment (structs : StructTable) : Ty → Nat
  | .scalar s | .atomic s => s.width
  | .vector size s => vectorAlignment size * s.width
  | .matrix _ rows s => vectorAlignment rows * s.width
  | .array base _ => base.alignment structs
  | .named _ type => type.alignment structs
  | .struct number => ((structs[number]?).map (·.alignment)).getD 1
  | _ => 1

/-- Size in bytes; a runtime-sized array counts one element. -/
def size (structs : StructTable) : Ty → Nat
  | .scalar s | .atomic s => s.width
  | .vector size s => size * s.width
  | .matrix columns rows s => columns * vectorAlignment rows * s.width
  | .pointer _ _ => 4
  | .array base length =>
    let count := match length with
      | .fixed count => count
      | _ => 1
    count * roundUp (base.alignment structs) (base.size structs)
  | .named _ type => type.size structs
  | .struct number => ((structs[number]?).map (·.size)).getD 0
  | _ => 0

def stride (structs : StructTable) (type : Ty) : Nat :=
  roundUp (type.alignment structs) (type.size structs)

/-! ### Names -/

def storageScalar (kind : ScalarKind) (format : String) : Scalar :=
  ⟨kind, if format == "r64uint" then 8 else 4⟩

def textureArguments : TextureClass → String
  | .sampled kind _ => s!"<{(Scalar.mk kind 4).label}>"
  | .depth _ => ""
  | .storage _ format access =>
    let mode := if access.atomic then "atomic"
      else if access.read && access.write then "read_write"
      else if access.write then "write" else "read"
    s!"<{format},{mode}>"

def textureLabel (texture : Texture) : String :=
  let dimension := match texture.dimension with
    | .d1 => "1d"
    | .d2 => "2d"
    | .d3 => "3d"
    | .cube => "cube"
  let kind := match texture.content with
    | .sampled _ true => "multisampled_"
    | .sampled _ false => ""
    | .depth true => "depth_multisampled_"
    | .depth false => "depth_"
    | .storage _ _ _ => "storage_"
  let layers := if texture.arrayed then "_array" else ""
  s!"texture_{kind}{dimension}{layers}{textureArguments texture.content}"

def arrayLabel (word base : String) : ArrayLength → String
  | .fixed count => s!"{word}<{base}, {count}>"
  | .pending _ name => s!"{word}<{base}, " ++ name.getD "_" ++ ">"
  | .dynamic => s!"{word}<{base}>"

def rayLabel (word : String) (vertexReturn : Bool) : String :=
  if vertexReturn then word ++ "<vertex_return>" else word

def label (structs : StructTable) : Ty → String
  | .scalar s => s.label
  | .vector size s => s!"vec{size}<{s.label}>"
  | .matrix columns rows s => s!"mat{columns}x{rows}<{s.label}>"
  | .atomic s => s!"atomic<{s.label}>"
  | .pointer base space => s!"ptr<{space.label}, {base.label structs}>"
  | .array base length => arrayLabel "array" (base.label structs) length
  | .bindingArray base length => arrayLabel "binding_array" (base.label structs) length
  | .struct number => ((structs[number]?).map (·.name)).getD ""
  | .texture t => textureLabel t
  | .sampler true => "sampler_comparison"
  | .sampler false => "sampler"
  | .named name _ => name
  | .accelerationStructure vertexReturn => rayLabel "acceleration_structure" vertexReturn
  | .rayQuery vertexReturn => rayLabel "ray_query" vertexReturn

end Ty

def Typing.label (structs : StructTable) (typing : Typing) : String :=
  typing.declaredAs.getD (typing.type.label structs)

end ShaderPreview.Wgsl
