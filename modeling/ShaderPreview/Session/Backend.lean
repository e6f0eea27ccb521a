import ShaderPreview.Scene.Request
import ShaderPreview.Shader.Compilation

/-!
# Rendering backends

Interface between the render loop and the GPU (SPEC_FULL.md, section 10). The state of a backend is
abstract, and so are the results of its operations; a theorem about every `Backend` holds for every
behaviour of the GPU. Each operation also returns a log of the calls it made.
-/

namespace ShaderPreview

/-- Result of a backend operation: the value, the log of calls made for it, and the next state. -/
structure Answer (State Note α : Type) where
  value : α
  notes : List Note
  state : State

structure PipelineStages (Module : Type) where
  vertexModule : Module
  vertexEntry : String
  fragmentModule : Module
  fragmentEntry : String
  /-- Vertices come from an interleaved vertex buffer. -/
  usesVertexInput : Bool
  deriving DecidableEq, Repr

/-- Per-frame inputs; times are in nanoseconds. -/
structure FrameInput where
  elapsed : Nat
  pointer : Pointer
  vertexCount : Nat
  deriving DecidableEq, Repr

/-- The operations of a rendering backend (SPEC_FULL.md, section 10, `backend`). -/
structure Backend where
  State : Type
  Note : Type
  Module : Type
  Texture : Type
  Resources : Type
  Pipeline : Type
  Vertices : Type
  /-- Acquires the device for a canvas; `false` if no device is available. -/
  acquire : CanvasSize → State → Answer State Note Bool
  compile : ComposedSource → String → State → Answer State Note (Compilation Module)
  loadTexture :
    Fin channelCount → ChannelImage → State → Answer State Note (Except Failure Texture)
  bind : CanvasSize → PerChannel (Option Texture) → State →
    Answer State Note (Except Failure Resources)
  uploadVertices : VertexData → State → Answer State Note (Except Failure Vertices)
  buildPipeline :
    PipelineStages Module → Resources → State → Answer State Note (Except Failure Pipeline)
  /-- First validation error since the device was acquired; reading clears it. -/
  takeValidationError : State → Answer State Note (Option String)
  draw : Pipeline → Resources → Option Vertices → FrameInput → State →
    Answer State Note (Except Failure Unit)

end ShaderPreview
