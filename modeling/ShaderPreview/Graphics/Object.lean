import ShaderPreview.Scene.Channel

/-!
# Graphics objects

Handles with the descriptors they were created from. Every object has a number of its own, so the
objects of a draw call determine what is drawn.
-/

namespace ShaderPreview.Graphics

structure Surface where
  number : Nat
  deriving DecidableEq, Repr

structure TextureFormat where
  name : String
  deriving DecidableEq, Repr

def TextureFormat.isSrgb (format : TextureFormat) : Bool :=
  "Srgb".toList.isSuffixOf format.name.toList

/-! ### Devices -/

inductive PowerPreference where
  | lowPower
  | highPerformance
  deriving DecidableEq, Repr

structure AdapterOptions where
  power : PowerPreference
  forceFallback : Bool
  deriving DecidableEq, Repr

inductive MemoryHints where
  | performance
  | memoryUsage
  deriving DecidableEq, Repr

structure DeviceDescriptor where
  label : String
  requiredFeatures : List String
  memory : MemoryHints
  /-- `max_texture_dimension_2d`. -/
  maxTexture : Nat
  maxBindGroups : Nat
  deriving DecidableEq, Repr

structure Device where
  number : Nat
  descriptor : DeviceDescriptor
  deriving DecidableEq, Repr

inductive ErrorFilter where
  | validation
  | outOfMemory
  deriving DecidableEq, Repr

/-! ### Surfaces -/

inductive TextureUsage where
  | copyDst
  | textureBinding
  | renderAttachment
  deriving DecidableEq, Repr

/-- Formats and modes that a surface supports on an adapter, preferred ones first. -/
structure SurfaceCapabilities where
  formats : List TextureFormat
  presentModes : List String
  alphaModes : List String
  deriving DecidableEq, Repr

structure SurfaceConfiguration where
  usage : List TextureUsage
  format : TextureFormat
  width : Nat
  height : Nat
  presentMode : String
  alphaMode : String
  viewFormats : List TextureFormat
  /-- Maximum number of frames in flight. -/
  latency : Nat
  deriving DecidableEq, Repr

/-! ### Buffers, textures and samplers -/

inductive BufferUsage where
  | copyDst
  | uniform
  | vertex
  deriving DecidableEq, Repr

/-- Buffer with its initial contents. -/
structure Buffer where
  number : Nat
  label : String
  usage : List BufferUsage
  contents : List UInt8
  deriving DecidableEq, Repr

inductive TextureDimension where
  | d1
  | d2
  | d3
  deriving DecidableEq, Repr

inductive TextureDataOrder where
  | layerMajor
  | levelMajor
  deriving DecidableEq, Repr

structure TextureShape where
  layers : Nat
  levels : Nat
  samples : Nat
  dimension : TextureDimension
  usage : List TextureUsage
  viewFormats : List TextureFormat
  order : TextureDataOrder
  deriving DecidableEq, Repr

/-- Texture with the image it is filled with. -/
structure Texture where
  number : Nat
  label : String
  format : TextureFormat
  shape : TextureShape
  image : ChannelImage
  deriving DecidableEq, Repr

/-- Addressing outside the unit interval; `tiled` repeats the texture. -/
inductive AddressMode where
  | clamped
  | tiled
  | mirrored
  deriving DecidableEq, Repr

inductive FilterMode where
  | nearest
  | linear
  deriving DecidableEq, Repr

/-- Sampler: address modes for u, v and w; filters for magnification, minification and mip
levels. -/
structure Sampler where
  number : Nat
  label : String
  address : AddressMode × AddressMode × AddressMode
  filter : FilterMode × FilterMode × FilterMode
  deriving DecidableEq, Repr

/-! ### Shaders and bindings -/

structure ShaderObject where
  number : Nat
  label : String
  text : String
  deriving DecidableEq, Repr

inductive VisibleStage where
  | vertex
  | fragment
  | compute
  deriving DecidableEq, Repr

inductive SamplerBindingType where
  | filtering
  | comparison
  deriving DecidableEq, Repr

inductive BindingType where
  | uniformBuffer (dynamicOffset : Bool) (minSize : Option Nat)
  | texture (filterable : Bool) (dimension : TextureDimension) (multisampled : Bool)
  | sampler (type : SamplerBindingType)
  deriving DecidableEq, Repr

structure LayoutEntry where
  binding : Nat
  visibility : List VisibleStage
  type : BindingType
  /-- Length of a binding array. -/
  count : Option Nat
  deriving DecidableEq, Repr

structure BindGroupLayout where
  number : Nat
  label : String
  entries : List LayoutEntry
  deriving DecidableEq, Repr

inductive Resource where
  | buffer (buffer : Buffer)
  | view (texture : Texture)
  | sampler (sampler : Sampler)
  deriving DecidableEq, Repr

structure BindGroup where
  number : Nat
  label : String
  layout : BindGroupLayout
  entries : List (Nat × Resource)
  deriving DecidableEq, Repr

/-! ### Pipelines -/

structure PipelineLayout where
  number : Nat
  label : String
  groups : List BindGroupLayout
  pushConstants : List (Nat × Nat)
  deriving DecidableEq, Repr

structure VertexAttribute where
  location : Nat
  offset : Nat
  format : String
  deriving DecidableEq, Repr

inductive VertexStep where
  | vertex
  | instanced
  deriving DecidableEq, Repr

structure VertexLayout where
  stride : Nat
  step : VertexStep
  attributes : List VertexAttribute
  deriving DecidableEq, Repr

inductive PrimitiveTopology where
  | pointList
  | lineList
  | lineStrip
  | triangleList
  | triangleStrip
  deriving DecidableEq, Repr

inductive FrontFace where
  | ccw
  | cw
  deriving DecidableEq, Repr

inductive Face where
  | front
  | back
  deriving DecidableEq, Repr

inductive PolygonMode where
  | fill
  | line
  | point
  deriving DecidableEq, Repr

structure PrimitiveState where
  topology : PrimitiveTopology
  frontFace : FrontFace
  culled : Option Face
  polygon : PolygonMode
  deriving DecidableEq, Repr

inductive BlendState where
  | replace
  | alphaBlending
  deriving DecidableEq, Repr

inductive ColorChannel where
  | red
  | green
  | blue
  | alpha
  deriving DecidableEq, Repr

/-- Fixed-function state. -/
structure FixedState where
  primitive : PrimitiveState
  depthTested : Bool
  samples : Nat
  blend : Option BlendState
  writes : List ColorChannel
  multiview : Option Nat
  cached : Bool
  deriving DecidableEq, Repr

structure RenderPipeline where
  number : Nat
  label : String
  layout : PipelineLayout
  vertexModule : ShaderObject
  vertexEntry : String
  vertexLayouts : List VertexLayout
  fragmentModule : ShaderObject
  fragmentEntry : String
  target : TextureFormat
  state : FixedState
  deriving DecidableEq, Repr

/-! ### Surface faults -/

inductive SurfaceFault where
  | lost
  | outdated
  | timeout
  | outOfMemory
  | other
  deriving DecidableEq, Repr

def SurfaceFault.message : SurfaceFault → String
  | .lost => "The swap chain has been lost and needs to be recreated"
  | .outdated => "The underlying surface has changed, and therefore the swap chain must be updated"
  | .timeout => "A timeout was encountered while trying to acquire the next frame"
  | .outOfMemory => "There is no more memory left to allocate a new frame"
  | .other =>
    "Acquiring a texture failed with a generic error. Check error callbacks for more information"

end ShaderPreview.Graphics
