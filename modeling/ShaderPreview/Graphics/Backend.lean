import ShaderPreview.Graphics.Gateway
import ShaderPreview.Graphics.Pipeline
import ShaderPreview.Graphics.WindowSurface

/-!
# The graphics backend

The implementation of `Backend` on the graphics system. Uploads, bindings and pipelines are created
inside validation error scopes; the first captured error of an attempt is kept until it is read
(SPEC_FULL.md, section 12).
-/

namespace ShaderPreview.Graphics

/-- Backend state: graphics system, device gateway, window surface, acquired device, and the first
validation error of the attempt. -/
structure Screen where
  system : System
  gateway : Gateway
  window : Option WindowSurface
  device : Option Device
  validationError : Option String
  deriving Repr

namespace Screen

def start (system : System) (gateway : Gateway) : Screen := ⟨system, gateway, none, none, none⟩

abbrev ScreenM := StateT Screen (StateM System)

def notAcquired : Failure := .of "graphics device has not been acquired"

def notConfigured : Failure := .of "surface is not configured"

/-- Runs a step inside a validation error scope and keeps the first error. -/
def guarded {α : Type} (label : String) (step : Device → GraphicsM α) :
    ScreenM (Except Failure α) := do
  match (← get).device with
  | none => return .error notAcquired
  | some device =>
    let (value, error) ← device.inErrorScope (step device)
    match error with
    | none => return .ok value
    | some text =>
      report .warning "GPU validation error" [("error", text), ("label", label)]
      modify fun screen => { screen with validationError := screen.validationError.or (some text) }
      return .ok value

def ensureSurface : ScreenM (Option WindowSurface) := do
  match (← get).window with
  | some window => return some window
  | none => match ← Gateway.createSurface with
    | .ok surface =>
      let window : WindowSurface := ⟨surface, none⟩
      modify ({ · with window := some window })
      return some window
    | .error failure =>
      Gateway.reportUnavailable failure
      return none

/-- Acquires surface and device, and configures the surface. -/
def acquire (canvas : CanvasSize) : ScreenM Bool := do
  modify ({ · with validationError := none })
  match ← ensureSurface with
  | none => return false
  | some window =>
    let (device, gateway) ← (← get).gateway.acquire (some window.surface)
    modify ({ · with gateway := gateway })
    match device with
    | none => return false
    | some device =>
      let window ← window.configure device canvas
      modify ({ · with window := some window, device := some device })
      return true

/-- Creates a shader module inside its own error scope; a captured error becomes a diagnostic on
line 1. -/
def createShader (device : Device) (source : ComposedSource) (label : String)
    (diagnostics : List Diagnostic) : GraphicsM (Compilation ShaderObject) := do
  let (shader, error) ← device.inErrorScope
    (device.create (⟨·, label, source.text⟩) .createShader)
  return .of (some shader) (diagnostics ++ error.toList.map (.onLine · 1))

def compile (frontEnd : FrontEnd) (source : ComposedSource) (label : String) :
    ScreenM (Compilation ShaderObject) := do
  match (← get).device with
  | none => return .of none [.onLine notAcquired.summary 1]
  | some device =>
    let diagnostics := frontEnd.diagnose source
    if rejects diagnostics then return .of none diagnostics
    else createShader device source label diagnostics

def buildPipeline (stages : PipelineStages ShaderObject) (resources : BoundResources) :
    ScreenM (Except Failure RenderPipeline) := do
  match (← get).window.bind WindowSurface.format? with
  | none => return .error notConfigured
  | some target =>
    guarded "render pipeline" fun device => Graphics.buildPipeline device stages resources target

def takeValidationError : ScreenM (Option String) :=
  modifyGet fun screen => (screen.validationError, { screen with validationError := none })

/-- Draws a frame; the frame is skipped if the surface has no image. -/
def draw (pipeline : RenderPipeline) (resources : BoundResources) (vertices : Option Buffer)
    (frame : FrameInput) : ScreenM (Except Failure Unit) := do
  let screen ← get
  match screen.device, screen.window with
  | none, _ => return .error notAcquired
  | some _, none => return .error notConfigured
  | some device, some window =>
    resources.uniforms.writeFrame device frame.elapsed frame.pointer
    match ← window.nextImage device with
    | .error failure => return .error failure
    | .ok false => return .ok ()
    | .ok true =>
      drawFrame device window.surface pipeline resources vertices frame.vertexCount
      return .ok ()

def answer {α : Type} (step : ScreenM α) (screen : Screen) : Answer Screen Call α :=
  let ((value, after), system) := (step screen).run { screen.system with calls := [] }
  ⟨value, system.calls, { after with system := { system with calls := [] } }⟩

end Screen

def backend (frontEnd : FrontEnd) : Backend where
  State := Screen
  Note := Call
  Module := ShaderObject
  Texture := ChannelTexture
  Resources := BoundResources
  Pipeline := RenderPipeline
  Vertices := Buffer
  acquire canvas := Screen.answer (Screen.acquire canvas)
  compile source label := Screen.answer (Screen.compile frontEnd source label)
  loadTexture channel image := Screen.answer
    (Screen.guarded "channel texture" fun device => loadTexture device channel.val image)
  bind canvas textures := Screen.answer
    (Screen.guarded "bind group" fun device => bind device canvas textures)
  uploadVertices vertices := Screen.answer
    (Screen.guarded "vertex buffer" fun device => uploadVertices device vertices)
  buildPipeline stages resources := Screen.answer (Screen.buildPipeline stages resources)
  takeValidationError := Screen.answer Screen.takeValidationError
  draw pipeline resources vertices frame :=
    Screen.answer (Screen.draw pipeline resources vertices frame)

end ShaderPreview.Graphics
