import ShaderPreview.Preview.Request
import ShaderPreview.Window.Run

/-!
# Previews from settings

Loads what the settings name and runs the preview window. Output of the render loop goes to the log
under the path of the shader.
-/

namespace ShaderPreview

inductive SettingsEntry (B : Backend) where
  | line (line : LogLine)
  | preview (entry : PreviewEntry B)

inductive SettingsOutcome where
  | unloaded (fault : RequestFault)
  | ended (result : Except Failure Unit)

namespace SettingsOutcome

def failure? : SettingsOutcome → Option Failure
  | .unloaded fault => some fault.failure
  | .ended (.error failure) => some failure
  | .ended (.ok ()) => none

end SettingsOutcome

/-- Log and outcome of a preview. -/
structure SettingsRun (B : Backend) where
  log : List (SettingsEntry B)
  outcome : SettingsOutcome

namespace PreviewSettings

def logEntries {B : Backend} (shader : Path) : PreviewEntry B → List (SettingsEntry B)
  | .loop (.console line) => [.line (.info line)]
  | .loop (.errors batch) => batch.map fun found => .line (.ofDiagnostic shader found)
  | entry => [.preview entry]

def run {m : Type → Type} [Monad m] (formats : FormatReaders) (read : FileReader m)
    (frontEnd : FrontEnd) (system : WindowSystem) (graphics : Graphics.System) (moment : Moment)
    (settings : PreviewSettings) : m (SettingsRun (Graphics.backend frontEnd)) := do
  let (loaded, lines) ← settings.request formats read
  match loaded with
  | .error fault => return ⟨lines.map .line, .unloaded fault⟩
  | .ok request =>
    let run := PreviewRun.run frontEnd system graphics settings.config request moment
    let opening := lines ++ [.info "opening preview window"]
    return ⟨opening.map .line ++ run.log.flatMap (logEntries settings.shader),
      .ended run.result⟩

end PreviewSettings

end ShaderPreview
