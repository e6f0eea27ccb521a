import ShaderPreview.CommandLine.Arguments
import ShaderPreview.Manifest.Load
import ShaderPreview.Scene.Request
import Std.Data.ExtTreeMap.Lemmas

/-!
# Preview settings

Command line arguments take precedence over the manifest, and the manifest over the defaults
(SPEC_FULL.md, section 11.3).
-/

namespace ShaderPreview

abbrev ChannelPaths := Std.ExtTreeMap Nat Path

/-- Arguments merged with the manifest. -/
structure PreviewSettings where
  shader : Path
  channels : ChannelPaths
  mesh : Option Path
  size : CanvasSize
  title : String
  watch : Bool

inductive SettingsFault where
  | manifest (fault : ManifestFault)
  | noShader
  deriving Repr

def SettingsFault.failure : SettingsFault → Failure
  | .manifest fault => fault.failure.because "failed to load preview manifest"
  | .noShader => .of "no shader given; pass a SHADER path or --manifest"

def Manifest.channelPaths (manifest : Manifest) : ChannelPaths := .ofList manifest.assigned

def WindowSettings.size (window : WindowSettings) : CanvasSize :=
  ⟨window.width.getD PreviewConfig.standard.size.width,
    window.height.getD PreviewConfig.standard.size.height⟩

namespace PreviewSettings

def merge (arguments : PreviewArguments) (manifest : Option Manifest) :
    Except SettingsFault PreviewSettings :=
  match arguments.shader.or (manifest.map (·.shader)) with
  | none => .error .noShader
  | some shader =>
    let window := (manifest.map (·.window)).getD .unset
    .ok
      { shader := shader
        channels := ((manifest.map Manifest.channelPaths).getD ∅).insertMany arguments.channels
        mesh := arguments.mesh.or (manifest.bind (·.mesh))
        size := arguments.size.getD window.size
        title := (arguments.title.or window.title).getD PreviewConfig.standard.title
        watch := arguments.watch || manifest.any (·.watch) }

/-- Loads the manifest given by the arguments, if any. -/
def manifestOf {m : Type → Type} [Monad m] (toml : Toml.Parser) (read : FileReader m)
    (arguments : PreviewArguments) : m (Except ManifestFault (Option Manifest)) := do
  match arguments.manifest with
  | none => return .ok none
  | some path => return (← Manifest.load toml read path).map some

def resolve {m : Type → Type} [Monad m] (toml : Toml.Parser) (read : FileReader m)
    (arguments : PreviewArguments) : m (Except SettingsFault PreviewSettings) := do
  match ← manifestOf toml read arguments with
  | .error fault => return .error (.manifest fault)
  | .ok manifest => return merge arguments manifest

def config (settings : PreviewSettings) : PreviewConfig :=
  ⟨settings.title, settings.size, if settings.watch then some settings.shader else none⟩

end PreviewSettings

end ShaderPreview
