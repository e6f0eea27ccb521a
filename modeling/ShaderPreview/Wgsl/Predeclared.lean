import ShaderPreview.Wgsl.Type

/-!
# Predeclared structures

The structure types of the language: ray descriptions and intersections, and the results of built-in
functions with two results. They have no location in the text, and none is equal to a declared
structure.
-/

namespace ShaderPreview.Wgsl.Predeclared

def record (name : String) (members : List (String × Ty × Nat)) (size alignment : Nat) :
    StructType :=
  { name := name
    members := members.map fun (name, type, offset) => ⟨name, ⟨type, none⟩, none, offset⟩
    size := size
    alignment := alignment
    span := .nowhere }

def rayDescription : StructType :=
  record "RayDesc"
    [("flags", .u32, 0), ("cull_mask", .u32, 4), ("tmin", .f32, 8), ("tmax", .f32, 12),
     ("origin", .vector 3 .f32, 16), ("dir", .vector 3 .f32, 32)] 48 16

def rayIntersection : StructType :=
  record "RayIntersection"
    [("kind", .u32, 0), ("t", .f32, 4), ("instance_custom_data", .u32, 8),
     ("instance_index", .u32, 12), ("sbt_record_offset", .u32, 16), ("geometry_index", .u32, 20),
     ("primitive_index", .u32, 24), ("barycentrics", .vector 2 .f32, 28),
     ("front_face", .bool, 36), ("object_to_world", .matrix 4 3 .f32, 48),
     ("world_to_object", .matrix 4 3 .f32, 112)] 176 16

/-- Result of `modf` or `frexp`. -/
def splitResult (exponent : Bool) (type : Ty) : StructType :=
  let shape := match type with
    | .vector n _ => s!"vec{n}_"
    | _ => ""
  let scalar := (type.component?.map (·.label)).getD "f32"
  let other := if exponent then type.withLeaf .i32 else type
  let alignment := max (type.alignment #[]) (other.alignment #[])
  let place := Ty.roundUp (other.alignment #[]) (type.size #[])
  record (if exponent then s!"__frexp_result_{shape}{scalar}"
    else s!"__modf_result_{shape}{scalar}")
    [("fract", type, 0), (if exponent then "exp" else "whole", other, place)]
    (Ty.roundUp alignment (place + other.size #[])) alignment

/-- Result of `atomicCompareExchangeWeak`. -/
def exchangeResult (scalar : Scalar) : StructType :=
  let kind := match scalar.kind with
    | .sint => "Sint"
    | .uint => "Uint"
    | _ => "Float"
  record s!"__atomic_compare_exchange_result<{kind},{scalar.width}>"
    [("old_value", .scalar scalar, 0), ("exchanged", .bool, scalar.width)] (2 * scalar.width)
    scalar.width

end ShaderPreview.Wgsl.Predeclared
