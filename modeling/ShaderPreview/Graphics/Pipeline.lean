import ShaderPreview.Graphics.Binding
import ShaderPreview.Scene.Request
import ShaderPreview.Session.Backend

/-!
# Pipelines

Pipeline factory (SPEC_FULL.md, section 4.6). Pipelines draw triangle lists, from an interleaved
vertex buffer or, without one, from vertices computed in the vertex stage.
-/

namespace ShaderPreview.Graphics

/-- Interleaved position and colour, three floats each (SPEC_FULL.md, section 4.6). -/
def meshLayout : VertexLayout :=
  ⟨4 * floatsPerVertex, .vertex, [⟨0, 0, "Float32x3"⟩, ⟨1, 12, "Float32x3"⟩]⟩

def uploadVertices (device : Device) (vertices : VertexData) : GraphicsM Buffer :=
  device.create (⟨·, "mesh vertices", [.vertex], vertices.bytes⟩) .createBuffer

/-- No culling, no blending, all colour channels written. -/
def fixedState : FixedState :=
  { primitive := ⟨.triangleList, .ccw, none, .fill⟩
    depthTested := false
    samples := 1
    blend := some .replace
    writes := [.red, .green, .blue, .alpha]
    multiview := none
    cached := false }

def buildPipeline (device : Device) (stages : PipelineStages ShaderObject)
    (resources : BoundResources) (target : TextureFormat) : GraphicsM RenderPipeline := do
  let layout ← device.create (⟨·, "session pipeline layout", [resources.layout], []⟩)
    .createPipelineLayout
  device.create
    (fun number =>
      { number := number
        label := "session pipeline"
        layout := layout
        vertexModule := stages.vertexModule
        vertexEntry := stages.vertexEntry
        vertexLayouts := if stages.usesVertexInput then [meshLayout] else []
        fragmentModule := stages.fragmentModule
        fragmentEntry := stages.fragmentEntry
        target := target
        state := fixedState })
    .createRenderPipeline

/-- RGBA in tenths: (0.1, 0.1, 0.1, 1.0). -/
def clearColour : List Nat := [1, 1, 1, 10]

/-- Draws and presents a frame. -/
def drawFrame (device : Device) (surface : Surface) (pipeline : RenderPipeline)
    (resources : BoundResources) (vertices : Option Buffer) (vertexCount : Nat) :
    GraphicsM Unit := do
  device.ask (.createEncoder "frame encoder")
  device.ask (.beginPass "frame pass" surface clearColour true false)
  device.ask (.setPipeline pipeline)
  device.ask (.setBindGroup 0 resources.group [])
  vertices.forM fun buffer => device.ask (.setVertexBuffer 0 buffer)
  device.ask (.draw vertexCount)
  device.ask .endPass
  device.ask .finish
  device.ask .submit
  note (.present surface)

end ShaderPreview.Graphics
