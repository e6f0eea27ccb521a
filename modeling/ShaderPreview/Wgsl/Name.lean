import ShaderPreview.Wgsl.Scalar

/-!
# Predeclared names

Enumerants of attributes and type parameters, with their spelling.
-/

namespace ShaderPreview.Wgsl

structure Access where
  read : Bool
  write : Bool
  atomic : Bool
  deriving DecidableEq, Repr, Inhabited

def Access.readOnly : Access := ⟨true, false, false⟩

def Access.readWrite : Access := ⟨true, true, false⟩

inductive AddressSpace where
  | function
  | priv
  | workgroup
  | uniform
  | storage (access : Access)
  | pushConstant
  /-- Textures and samplers. -/
  | handle
  deriving DecidableEq, Repr, Inhabited

namespace AddressSpace

/-- The address space of a word. `storage` is read-only by default. -/
def ofWord? : String → Option AddressSpace
  | "private" => some .priv
  | "workgroup" => some .workgroup
  | "uniform" => some .uniform
  | "storage" => some (.storage .readOnly)
  | "push_constant" => some .pushConstant
  | "function" => some .function
  | _ => none

def access : AddressSpace → Access
  | .function | .priv | .workgroup => .readWrite
  | .uniform | .pushConstant | .handle => .readOnly
  | .storage access => access

def label : AddressSpace → String
  | .function => "function"
  | .priv => "private"
  | .workgroup => "workgroup"
  | .uniform => "uniform"
  | .storage _ => "storage"
  | .pushConstant => "push_constant"
  | .handle => "handle"

end AddressSpace

def Access.ofWord? : String → Option Access
  | "read" => some .readOnly
  | "write" => some ⟨false, true, false⟩
  | "read_write" => some .readWrite
  | "atomic" => some ⟨true, true, true⟩
  | _ => none

inductive Interpolation where
  | perspective
  | linear
  | flat
  deriving DecidableEq, Repr

def Interpolation.ofWord? : String → Option Interpolation
  | "perspective" => some .perspective
  | "linear" => some .linear
  | "flat" => some .flat
  | _ => none

/-- Interpolation sampling, or the provoking vertex. -/
inductive SamplePlace where
  | center
  | centroid
  | sample
  | first
  | either
  deriving DecidableEq, Repr

def samplePlaces : List (String × SamplePlace × String) :=
  [("center", .center, "Center"), ("centroid", .centroid, "Centroid"),
   ("sample", .sample, "Sample"), ("first", .first, "First"), ("either", .either, "Either")]

def SamplePlace.ofWord? (word : String) : Option SamplePlace := (samplePlaces.lookup word).map (·.1)

def SamplePlace.label (place : SamplePlace) : String :=
  ((samplePlaces.find? (·.2.1 = place)).map (·.2.2)).getD ""

def Interpolation.label : Interpolation → String
  | .perspective => "Perspective"
  | .linear => "Linear"
  | .flat => "Flat"

/-- Flat values take the vertex choices, interpolated ones the sampling choices. -/
def Interpolation.admits : Interpolation → SamplePlace → Bool
  | .flat, place => place = .first ∨ place = .either
  | _, place => place = .center ∨ place = .centroid ∨ place = .sample

def depthWords : List String := ["greater_equal", "less_equal", "unchanged"]

inductive Builtin where
  | position (invariant : Bool)
  | viewIndex
  | clipDistance
  | instanceIndex
  | vertexIndex
  | fragDepth
  | frontFacing
  | primitiveIndex
  | sampleIndex
  | sampleMask
  | globalInvocationId
  | localInvocationId
  | localInvocationIndex
  | workGroupId
  | numWorkGroups
  | numSubgroups
  | subgroupId
  | subgroupSize
  | subgroupInvocationId
  deriving DecidableEq, Repr

def builtinNames : List (String × Builtin × String) :=
  [("position", .position false, "Position \x7b invariant: false \x7d"),
   ("view_index", .viewIndex, "ViewIndex"),
   ("clip_distances", .clipDistance, "ClipDistance"),
   ("instance_index", .instanceIndex, "InstanceIndex"),
   ("vertex_index", .vertexIndex, "VertexIndex"),
   ("frag_depth", .fragDepth, "FragDepth"),
   ("front_facing", .frontFacing, "FrontFacing"),
   ("primitive_index", .primitiveIndex, "PrimitiveIndex"),
   ("sample_index", .sampleIndex, "SampleIndex"),
   ("sample_mask", .sampleMask, "SampleMask"),
   ("global_invocation_id", .globalInvocationId, "GlobalInvocationId"),
   ("local_invocation_id", .localInvocationId, "LocalInvocationId"),
   ("local_invocation_index", .localInvocationIndex, "LocalInvocationIndex"),
   ("workgroup_id", .workGroupId, "WorkGroupId"),
   ("num_workgroups", .numWorkGroups, "NumWorkGroups"),
   ("num_subgroups", .numSubgroups, "NumSubgroups"),
   ("subgroup_id", .subgroupId, "SubgroupId"),
   ("subgroup_size", .subgroupSize, "SubgroupSize"),
   ("subgroup_invocation_id", .subgroupInvocationId, "SubgroupInvocationId")]

def Builtin.ofWord? (word : String) : Option Builtin := (builtinNames.lookup word).map (·.1)

def Builtin.label : Builtin → String
  | .position true => "Position \x7b invariant: true \x7d"
  | builtin => ((builtinNames.find? (·.2.1 = builtin)).map (·.2.2)).getD ""

/-! ### Textures -/

inductive Dimension where
  | d1
  | d2
  | d3
  | cube
  deriving DecidableEq, Repr, Inhabited

inductive TextureClass where
  | sampled (kind : ScalarKind) (multisampled : Bool)
  | depth (multisampled : Bool)
  | storage (kind : ScalarKind) (format : String) (access : Access)
  deriving DecidableEq, Repr, Inhabited

structure Texture where
  dimension : Dimension
  arrayed : Bool
  content : TextureClass
  deriving DecidableEq, Repr, Inhabited

/-- Sampled texture types: dimension, arrayed, multisampled. -/
def sampledTextures : List (String × Dimension × Bool × Bool) :=
  [("texture_1d", .d1, false, false), ("texture_1d_array", .d1, true, false),
   ("texture_2d", .d2, false, false), ("texture_2d_array", .d2, true, false),
   ("texture_3d", .d3, false, false), ("texture_cube", .cube, false, false),
   ("texture_cube_array", .cube, true, false), ("texture_multisampled_2d", .d2, false, true),
   ("texture_multisampled_2d_array", .d2, true, true)]

def depthTextures : List (String × Texture) :=
  [("texture_depth_2d", ⟨.d2, false, .depth false⟩),
   ("texture_depth_2d_array", ⟨.d2, true, .depth false⟩),
   ("texture_depth_cube", ⟨.cube, false, .depth false⟩),
   ("texture_depth_cube_array", ⟨.cube, true, .depth false⟩),
   ("texture_depth_multisampled_2d", ⟨.d2, false, .depth true⟩)]

def storageTextures : List (String × Dimension × Bool) :=
  [("texture_storage_1d", .d1, false), ("texture_storage_1d_array", .d1, true),
   ("texture_storage_2d", .d2, false), ("texture_storage_2d_array", .d2, true),
   ("texture_storage_3d", .d3, false)]

def opaqueTypeWords : List String :=
  ["atomic", "binding_array", "sampler", "sampler_comparison"] ++
    sampledTextures.map (·.1) ++ depthTextures.map (·.1) ++ storageTextures.map (·.1)

/-- Predeclared constants for ray queries. -/
def rayConstants : List (String × Nat) :=
  [("RAY_FLAG_NONE", 0), ("RAY_FLAG_FORCE_OPAQUE", 1), ("RAY_FLAG_FORCE_NO_OPAQUE", 2),
   ("RAY_FLAG_TERMINATE_ON_FIRST_HIT", 4), ("RAY_FLAG_SKIP_CLOSEST_HIT_SHADER", 8),
   ("RAY_FLAG_CULL_BACK_FACING", 16), ("RAY_FLAG_CULL_FRONT_FACING", 32),
   ("RAY_FLAG_CULL_OPAQUE", 64), ("RAY_FLAG_CULL_NO_OPAQUE", 128),
   ("RAY_FLAG_SKIP_TRIANGLES", 256), ("RAY_FLAG_SKIP_AABBS", 512),
   ("RAY_QUERY_INTERSECTION_NONE", 0), ("RAY_QUERY_INTERSECTION_TRIANGLE", 1),
   ("RAY_QUERY_INTERSECTION_GENERATED", 2), ("RAY_QUERY_INTERSECTION_AABB", 3)]

def storageFormats : List (String × ScalarKind) :=
  [("r8unorm", .float), ("r8snorm", .float), ("r8uint", .uint), ("r8sint", .sint),
   ("r16unorm", .float), ("r16snorm", .float), ("r16uint", .uint), ("r16sint", .sint),
   ("r16float", .float), ("rg8unorm", .float), ("rg8snorm", .float), ("rg8uint", .uint),
   ("rg8sint", .sint), ("r32uint", .uint), ("r32sint", .sint), ("r32float", .float),
   ("rg16unorm", .float), ("rg16snorm", .float), ("rg16uint", .uint), ("rg16sint", .sint),
   ("rg16float", .float), ("rgba8unorm", .float), ("rgba8snorm", .float), ("rgba8uint", .uint),
   ("rgba8sint", .sint), ("rgb10a2uint", .uint), ("rgb10a2unorm", .float),
   ("rg11b10float", .float), ("r64uint", .uint), ("rg32uint", .uint), ("rg32sint", .sint),
   ("rg32float", .float), ("rgba16unorm", .float), ("rgba16snorm", .float),
   ("rgba16uint", .uint), ("rgba16sint", .sint), ("rgba16float", .float),
   ("rgba32uint", .uint), ("rgba32sint", .sint), ("rgba32float", .float),
   ("bgra8unorm", .float)]

/-! ### Vectors and matrices by name -/

def sideOf? : Char → Option Nat
  | '2' => some 2
  | '3' => some 3
  | '4' => some 4
  | _ => none

/-- Component type of a suffix such as `f` in `vec3f`. -/
def componentOf? : Char → Option Scalar
  | 'i' => some .i32
  | 'u' => some .u32
  | 'f' => some .f32
  | 'h' => some .f16
  | _ => none

/-- Size of a vector type name, and component type if it has a suffix. -/
def vectorName? (word : String) : Option (Nat × Option Scalar) :=
  match word.toList with
  | ['v', 'e', 'c', n] => (sideOf? n).map (·, none)
  | ['v', 'e', 'c', n, c] => match sideOf? n, componentOf? c with
    | some size, some scalar => some (size, some scalar)
    | _, _ => none
  | _ => none

/-- Columns and rows of a matrix type name, and component type if it has a suffix. -/
def matrixName? (word : String) : Option (Nat × Nat × Option Scalar) :=
  match word.toList with
  | 'm' :: 'a' :: 't' :: n :: 'x' :: m :: rest => match sideOf? n, sideOf? m, rest with
    | some columns, some rows, [] => some (columns, rows, none)
    | some columns, some rows, ['f'] => some (columns, rows, some .f32)
    | some columns, some rows, ['h'] => some (columns, rows, some .f16)
    | _, _, _ => none
  | _ => none

def directiveWords : List String := ["diagnostic", "enable", "requires"]

end ShaderPreview.Wgsl
