import ShaderPreview.Diagnostic.Normalize
import ShaderPreview.Session.Trace
import ShaderPreview.Shader.Classification

/-!
# Render attempts

The stages of one attempt (SPEC_FULL.md, section 4.7): acquire the device, classify and compile the
source, bind the resources, build the pipeline, schedule the first frame. An attempt ends with a
session, or stops at the first stage that fails, with diagnostics for the user or with the error of
the backend.
-/

namespace ShaderPreview

/-- Console line after a successful attempt (SPEC_FULL.md, section 12). -/
def successLine : String := "Shader compiled and executed successfully."

/-- Reported when the shader samples textures but channel 0 is empty (SPEC_FULL.md, section 13). -/
def missingFirstChannel : String := "No texture provided for iChannel0"

def noEntryPoints : String := "No entry points found in shader code."

def fullscreenVertexCount : Nat := 3

/-- Early end of an attempt. -/
inductive Stop where
  /-- The request is rejected with these diagnostics; `none` if nothing is reported. -/
  | rejected (report : Option (List Diagnostic))
  /-- A backend operation failed. -/
  | failed (failure : Failure)

/-- Attempts update the loop state and may end early with a `Stop`. -/
abbrev Attempt (B : Backend) (H : FrameHost) (α : Type) : Type :=
  ExceptT Stop (StateM (RenderLoop B H)) α

namespace Attempt

variable {B : Backend} {H : FrameHost}

def transition (next : LoopState) : Attempt B H Unit :=
  modifyThe (RenderLoop B H) (·.transition next)

def record (event : Event B) : Attempt B H Unit := modifyThe (RenderLoop B H) (·.record event)

/-- Emits a console line. -/
def console (line : String) : Attempt B H Unit := record (.console line)

/-- Ends the attempt with diagnostics. -/
def reject {α : Type} (report : List Diagnostic) : Attempt B H α := throw (.rejected (some report))

/-- Unwraps the result of a backend operation; a failure ends the attempt. -/
def require {α : Type} : Except Failure α → Attempt B H α
  | .ok value => pure value
  | .error failure => throw (.failed failure)

def ask {α : Type} (operation : B.State → Answer B.State B.Note α) (call : α → Event B) :
    Attempt B H α :=
  modifyGetThe (RenderLoop B H) fun loop => loop.take (operation loop.backend) call

/-! ### The stages -/

/-- Classifies the source and selects the vertex and fragment entry points. -/
def examine (frontEnd : FrontEnd) (source : String) :
    Attempt B H (Classification × String × String) := do
  transition .compiling
  let classification := frontEnd.classify source
  if classification.isRenderable then
    console s!"Detected shader type: {classification.kind.label}"
    classification.warnings.forM console
    match classification.entryNames? with
    | some names => pure (classification, names)
    | none =>
      console noEntryPoints
      throw (.rejected none)
  else
    let message := classification.diagnostic.getD fragmentRequired
    if classification.entryPoints.isEmpty && classification.kind == .invalid then
      console noEntryPoints
    console s!"Shader validation failed: {message}"
    reject (Diagnostic.normalize message 0)

/-- Modules of the vertex and the fragment stage with all diagnostics. The fullscreen vertex shader
is compiled only for a source without a vertex stage of its own. -/
def compileStages (kind : ShaderKind) (source : String) :
    Attempt B H (B.Module × B.Module × List Diagnostic) := do
  let composed := compose source (needsTextures source)
  let fragment ← ask (B.compile composed "user shader") (.compile composed "user shader")
  let vertex ← match kind with
    | .vertexFragment => pure none
    | _ =>
      let fullscreen := ComposedSource.plain fullscreenVertex
      some <$> ask (B.compile fullscreen "fullscreen vertex")
        (.compile fullscreen "fullscreen vertex")
  let diagnostics := fragment.diagnostics ++ (vertex.map (·.diagnostics)).getD []
  if fragment.hasErrors || (vertex.map (·.hasErrors)).getD false then
    console "Shader compilation failed."
    reject diagnostics
  else match fragment.module with
    | none =>
      throw (.failed (.of "compiler produced no module without reporting errors"))
    | some module =>
      pure ((vertex.bind (·.module)).getD module, module, diagnostics)

def loadTexture (channel : Fin channelCount) (image : ChannelImage) : Attempt B H B.Texture := do
  let result ← ask (B.loadTexture channel image) (.loadTexture channel image)
  require (result.mapError (·.because s!"failed to upload texture for iChannel{channel.val}"))

/-- Uploads the populated channels in channel order. -/
def loadTextures (channels : ChannelMap) : Attempt B H (PerChannel (Option B.Texture)) :=
  (PerChannel.populated channels).foldlM
    (fun textures entry => do
      let texture ← loadTexture entry.1 entry.2
      pure (PerChannel.set textures entry.1 (some texture)))
    PerChannel.empty

/-- Binding stage. A shader that samples textures requires channel 0. -/
def bindResources (request : RenderRequest) (diagnostics : List Diagnostic) :
    Attempt B H B.Resources := do
  transition .binding
  let textured := needsTextures request.source
  if textured && !request.channels.isPopulated 0 then
    console missingFirstChannel
    reject (diagnostics ++ [.general missingFirstChannel])
  else
    let textures ← if textured then loadTextures request.channels else pure PerChannel.empty
    let result ← ask (B.bind request.canvas textures) (.bind request.canvas textures)
    require result

def uploadVertices : Option VertexData → Attempt B H (Option B.Vertices)
  | none => pure none
  | some vertices => do
    let result ← ask (B.uploadVertices vertices) (.uploadVertices vertices)
    some <$> require result

/-- Builds the pipeline; a captured validation error rejects the attempt. -/
def buildPipeline (stages : PipelineStages B.Module) (resources : B.Resources) :
    Attempt B H B.Pipeline := do
  transition .running
  let result ← ask (B.buildPipeline stages resources) (.buildPipeline stages resources)
  let pipeline ← require result
  match ← ask B.takeValidationError .takeValidationError with
  | some error => reject [.general s!"GPU validation error: {error}"]
  | none => pure pipeline

/-- Issues the session's token and registers the first frame and the resize observer. -/
def connect : Attempt B H (Token × FrameId × ObserverId) :=
  modifyGetThe (RenderLoop B H) fun loop =>
    let token := loop.tokens.fresh
    let (frame, host) := H.request token loop.host
    let (observer, host) := H.observe host
    ((token, frame, observer),
      { loop with
        tokens := loop.tokens.issue
        host := host
        trace := loop.trace ++ [.requestFrame token frame, .observeResize observer] })

/-- All stages of an attempt. Returns the session and the diagnostics to report. -/
def launch (frontEnd : FrontEnd) (request : RenderRequest) (now : Nat) :
    Attempt B H (Session B × List Diagnostic) := do
  let (classification, vertexEntry, fragmentEntry) ← examine frontEnd request.source
  let (vertexModule, fragmentModule, diagnostics) ←
    compileStages classification.kind request.source
  let resources ← bindResources request diagnostics
  let vertices ← uploadVertices request.vertices
  let pipeline ← buildPipeline
    ⟨vertexModule, vertexEntry, fragmentModule, fragmentEntry, vertices.isSome⟩ resources
  let (token, frame, observer) ← connect
  console successLine
  let session : Session B :=
    { request := request
      pipeline := pipeline
      resources := resources
      vertices := vertices
      vertexCount := (request.vertices.map (·.count)).getD fullscreenVertexCount
      startedAt := now
      token := token
      frame := some frame
      observer := observer
      drawFailures := 0 }
  pure (session, diagnostics)

end Attempt

end ShaderPreview
