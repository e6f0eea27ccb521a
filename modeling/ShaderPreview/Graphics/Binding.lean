import ShaderPreview.Graphics.System
import ShaderPreview.Number.Single
import ShaderPreview.Scene.Request

/-!
# Resource binding

Resource binder (SPEC_FULL.md, section 4.5). Bindings 0 to 2 are the uniforms; channel `i`, if
populated, has its texture at `3 + 2 * i` and its sampler next to it. Empty channels have no
entries, so every session has its own layout.
-/

namespace ShaderPreview.Graphics

inductive SlotKind where
  | resolution
  | time
  | pointer
  | texture (channel : Nat)
  | sampler (channel : Nat)
  deriving DecidableEq, Repr

structure BindingSlot where
  binding : Nat
  kind : SlotKind
  deriving DecidableEq, Repr

def channelSlots (channel : Nat) : List BindingSlot :=
  [⟨3 + 2 * channel, .texture channel⟩, ⟨4 + 2 * channel, .sampler channel⟩]

def bindingSlots (populated : PerChannel Bool) : List BindingSlot :=
  [⟨0, .resolution⟩, ⟨1, .time⟩, ⟨2, .pointer⟩] ++
    (List.finRange channelCount).flatMap fun channel =>
      if populated channel then channelSlots channel.val else []

def SlotKind.type : SlotKind → BindingType
  | .resolution | .time | .pointer => .uniformBuffer false none
  | .texture _ => .texture true .d2 false
  | .sampler _ => .sampler .filtering

/-- Layout entry, visible to the vertex and the fragment stage. -/
def BindingSlot.entry (slot : BindingSlot) : LayoutEntry :=
  ⟨slot.binding, [.vertex, .fragment], slot.kind.type, none⟩

structure ChannelTexture where
  texture : Texture
  sampler : Sampler
  deriving DecidableEq, Repr

/-- 2D, one layer, one mip level. -/
def channelShape : TextureShape :=
  { layers := 1
    levels := 1
    samples := 1
    dimension := .d2
    usage := [.copyDst, .textureBinding]
    viewFormats := []
    order := .layerMajor }

def loadTexture (device : Device) (channel : Nat) (image : ChannelImage) :
    GraphicsM ChannelTexture := do
  let texture ← device.create
    (⟨·, s!"iChannel{channel} texture", ⟨"Rgba8UnormSrgb"⟩, channelShape, image⟩) .createTexture
  let sampler ← device.create
    (⟨·, s!"iChannel{channel} sampler", (.tiled, .tiled, .tiled), (.linear, .linear, .linear)⟩)
    .createSampler
  return ⟨texture, sampler⟩

/-! ### Uniforms -/

def singleBytes (values : List Single) : List UInt8 := values.flatMap Single.bytes

/-- Contents of the resolution uniform: width, height, 1, padding. -/
def resolutionBytes (canvas : CanvasSize) : List UInt8 :=
  singleBytes [.ofNat canvas.width, .ofNat canvas.height, .one, .zero]

/-- Contents of the time uniform, padded to 16 bytes. -/
def timeBytes (seconds : Single) : List UInt8 := singleBytes [seconds, .zero, .zero, .zero]

def pointerBytes (pointer : Pointer) : List UInt8 := singleBytes pointer.uniform

structure Uniforms where
  resolution : Buffer
  time : Buffer
  pointer : Buffer
  deriving DecidableEq, Repr

namespace Uniforms

def createBuffer (device : Device) (label : String) (contents : List UInt8) : GraphicsM Buffer :=
  device.create (⟨·, label, [.copyDst, .uniform], contents⟩) .createBuffer

/-- Creates the uniform buffers with time zero and the pointer at rest. -/
def create (device : Device) (canvas : CanvasSize) : GraphicsM Uniforms := do
  let resolution ← createBuffer device "iResolution" (resolutionBytes canvas)
  let time ← createBuffer device "iTime" (timeBytes .zero)
  let pointer ← createBuffer device "iMouse" (pointerBytes .rest)
  return ⟨resolution, time, pointer⟩

/-- Updates time and pointer; the resolution is fixed for the session. -/
def writeFrame (device : Device) (elapsed : Nat) (pointer : Pointer) (uniforms : Uniforms) :
    GraphicsM Unit := do
  device.ask (.writeBuffer uniforms.time 0 (timeBytes (secondsOf elapsed)))
  device.ask (.writeBuffer uniforms.pointer 0 (pointerBytes pointer))

end Uniforms

/-! ### Bind groups -/

structure BoundResources where
  layout : BindGroupLayout
  group : BindGroup
  uniforms : Uniforms
  slots : List BindingSlot
  deriving DecidableEq, Repr

def textureOf? (textures : PerChannel (Option ChannelTexture)) (channel : Nat) :
    Option ChannelTexture :=
  if h : channel < channelCount then textures ⟨channel, h⟩ else none

def resourceFor? (uniforms : Uniforms) (textures : PerChannel (Option ChannelTexture)) :
    SlotKind → Option Resource
  | .resolution => some (.buffer uniforms.resolution)
  | .time => some (.buffer uniforms.time)
  | .pointer => some (.buffer uniforms.pointer)
  | .texture channel => (textureOf? textures channel).map (.view ·.texture)
  | .sampler channel => (textureOf? textures channel).map (.sampler ·.sampler)

def groupEntries (uniforms : Uniforms) (textures : PerChannel (Option ChannelTexture))
    (slots : List BindingSlot) : List (Nat × Resource) :=
  slots.filterMap fun slot => (resourceFor? uniforms textures slot.kind).map (slot.binding, ·)

def bind (device : Device) (canvas : CanvasSize) (textures : PerChannel (Option ChannelTexture)) :
    GraphicsM BoundResources := do
  let slots := bindingSlots (PerChannel.occupancy textures)
  let uniforms ← Uniforms.create device canvas
  let layout ← device.create
    (⟨·, "session bind group layout", slots.map BindingSlot.entry⟩)
    .createBindGroupLayout
  let group ← device.create
    (⟨·, "session bind group", layout, groupEntries uniforms textures slots⟩) .createBindGroup
  return ⟨layout, group, uniforms, slots⟩

end ShaderPreview.Graphics
