import ShaderPreview.Mesh.Load
import ShaderPreview.Picture.Load
import ShaderPreview.Preview.Settings
import ShaderPreview.Session.Trace

/-!
# Loading requests

Loads the shader, the channel images in channel order, and the mesh. Images and meshes are logged
once loaded.
-/

namespace ShaderPreview

inductive RequestFault where
  | shader (path : Path) (reason : String)
  | channel (channel : Nat) (fault : TextureFault)
  /-- The image was decoded but the channel index is out of range. -/
  | slot (fault : ChannelFault)
  | mesh (fault : MeshFault)
  deriving DecidableEq, Repr

def RequestFault.failure : RequestFault → Failure
  | .shader path reason =>
    (Failure.of reason).because s!"failed to read shader {path.text}"
  | .channel index fault => fault.failure.because s!"failed to load iChannel{index}"
  | .slot fault => fault.failure
  | .mesh fault => fault.failure

/-- Readers of the external file formats. -/
structure FormatReaders where
  toml : Toml.Parser
  picture : PictureReader
  mesh : MeshReader

def FormatReaders.standard : FormatReaders := ⟨Toml.parse, decodePicture, readModels⟩

namespace PreviewSettings

section Loading

variable {m : Type → Type} [Monad m] (formats : FormatReaders)

abbrev Loading (m : Type → Type) (α : Type) := ExceptT RequestFault (StateT (List LogLine) m) α

def log (text : String) : Loading m Unit := modifyThe (List LogLine) (· ++ [.info text])

def loaded {ε α : Type} (fault : ε → RequestFault) (step : m (Except ε α)) : Loading m α :=
  ExceptT.mk (StateT.lift ((·.mapError fault) <$> step))

def loadChannel (read : FileReader m) (images : ChannelMap) (entry : ChannelAssignment) :
    Loading m ChannelMap := do
  let image ← loaded (.channel entry.1) (loadChannelImage formats.picture read entry.2)
  log "loaded channel texture"
  ExceptT.mk (pure ((images.assign entry.1 image).mapError .slot))

def loadVertices (read : FileReader m) (path : Path) : Loading m VertexData := do
  let vertices ← loaded .mesh (loadMesh formats.mesh read path)
  log "loaded mesh"
  return vertices

def load (read : FileReader m) (settings : PreviewSettings) : Loading m RenderRequest := do
  let source ← loaded (.shader settings.shader) (textOf <$> read settings.shader)
  let images ← settings.channels.toList.foldlM (loadChannel formats read) .empty
  let vertices ← settings.mesh.mapM (loadVertices formats read)
  return ⟨source, images, vertices, settings.size⟩

/-- The render request, and the log lines emitted while loading it. -/
def request (read : FileReader m) (settings : PreviewSettings) :
    m (Except RequestFault RenderRequest × List LogLine) :=
  (settings.load formats read).run.run []

end Loading

end PreviewSettings

end ShaderPreview
