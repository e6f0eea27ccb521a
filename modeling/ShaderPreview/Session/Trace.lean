import ShaderPreview.Diagnostic.Basic
import ShaderPreview.Session.Backend
import ShaderPreview.Session.Host

/-!
# Traces of a render loop

The observable behaviour of a render loop, in order: state transitions, backend calls with their
results, host calls, and output to the user. Output is also formatted as log lines, with diagnostics
at the level of their severity and prefixed by the path of the shader (SPEC_FULL.md, section 11.1).
-/

namespace ShaderPreview

inductive Event (B : Backend) where
  | transition (before after : LoopState)
  | acquire (canvas : CanvasSize) (available : Bool)
  | compile (source : ComposedSource) (label : String) (result : Compilation B.Module)
  | loadTexture (channel : Fin channelCount) (image : ChannelImage)
      (result : Except Failure B.Texture)
  | bind (canvas : CanvasSize) (textures : PerChannel (Option B.Texture))
      (result : Except Failure B.Resources)
  | uploadVertices (vertices : VertexData) (result : Except Failure B.Vertices)
  | buildPipeline (stages : PipelineStages B.Module) (resources : B.Resources)
      (result : Except Failure B.Pipeline)
  | takeValidationError (result : Option String)
  | draw (pipeline : B.Pipeline) (resources : B.Resources) (vertices : Option B.Vertices)
      (frame : FrameInput) (result : Except Failure Unit)
  | requestFrame (token : Token) (frame : FrameId)
  | cancelFrame (frame : FrameId)
  | observeResize (observer : ObserverId)
  | disconnectResize (observer : ObserverId)
  | console (line : String)
  | errors (batch : List Diagnostic)
  | note (entry : B.Note)

/-- GPU objects and bookkeeping of the running session. -/
structure Session (B : Backend) where
  request : RenderRequest
  pipeline : B.Pipeline
  resources : B.Resources
  vertices : Option B.Vertices
  vertexCount : Nat
  startedAt : Nat
  token : Token
  /-- The pending frame. -/
  frame : Option FrameId
  observer : ObserverId
  /-- Consecutive draw failures. -/
  drawFailures : Nat

structure RenderLoop (B : Backend) (H : FrameHost) where
  state : LoopState
  session : Option (Session B)
  lastRequest : Option RenderRequest
  pointer : Pointer
  backend : B.State
  host : H.State
  tokens : Tokens
  trace : List (Event B)

def RenderLoop.idle {B : Backend} {H : FrameHost} (backend : B.State) (host : H.State) :
    RenderLoop B H :=
  ⟨.idle, none, none, .rest, backend, host, .none, []⟩

namespace RenderLoop

variable {B : Backend} {H : FrameHost}

def record (event : Event B) (loop : RenderLoop B H) : RenderLoop B H :=
  { loop with trace := loop.trace ++ [event] }

/-- Changes the loop state; a transition to the same state is not recorded. -/
def transition (next : LoopState) (loop : RenderLoop B H) : RenderLoop B H :=
  if loop.state = next then loop
  else { loop with state := next, trace := loop.trace ++ [.transition loop.state next] }

def take {α : Type} (answer : Answer B.State B.Note α) (call : α → Event B)
    (loop : RenderLoop B H) : α × RenderLoop B H :=
  (answer.value,
    { loop with
      backend := answer.state
      trace := loop.trace ++ call answer.value :: answer.notes.map .note })

@[simp] theorem transition_state (next : LoopState) (loop : RenderLoop B H) :
    (loop.transition next).state = next := by
  simp only [transition]
  split
  · assumption
  · rfl

end RenderLoop

structure LogLine where
  level : Severity
  text : String
  deriving DecidableEq, Repr

namespace LogLine

def info (text : String) : LogLine := ⟨.info, text⟩

def ofDiagnostic (shader : Path) (diagnostic : Diagnostic) : LogLine :=
  ⟨diagnostic.severity, diagnostic.lineIn shader⟩

def ofEvent {B : Backend} (shader : Path) : Event B → List LogLine
  | .console line => [info line]
  | .errors batch => batch.map (ofDiagnostic shader)
  | _ => []

end LogLine

end ShaderPreview
