import ShaderPreview.Graphics.System
import ShaderPreview.Scene.Request

/-!
# Window surfaces

A window surface is configured for a canvas before it is drawn on. Shaders output display colours,
so a non-sRGB format is preferred.
-/

namespace ShaderPreview.Graphics

/-- Surface with its current configuration. -/
structure WindowSurface where
  surface : Surface
  configuration : Option SurfaceConfiguration
  deriving DecidableEq, Repr

/-- First non-sRGB format, or the first format if all are sRGB. -/
def chooseFormat (formats : List TextureFormat) : TextureFormat :=
  ((formats.find? fun format => !format.isSrgb).or formats.head?).getD ⟨"Bgra8Unorm"⟩

def choosePresentMode (modes : List String) : String :=
  if modes.contains "Fifo" then "Fifo" else modes.head?.getD "Fifo"

/-- Configuration for a canvas; sides are clamped to at least one pixel. -/
def configurationFor (offered : SurfaceCapabilities) (canvas : CanvasSize) : SurfaceConfiguration :=
  { usage := [.renderAttachment]
    format := chooseFormat offered.formats
    width := max canvas.width 1
    height := max canvas.height 1
    presentMode := choosePresentMode offered.presentModes
    alphaMode := offered.alphaModes.head?.getD "Auto"
    viewFormats := []
    latency := 2 }

namespace WindowSurface

def configure (device : Device) (canvas : CanvasSize) (window : WindowSurface) :
    GraphicsM WindowSurface := do
  let configuration := configurationFor (← capabilitiesOf window.surface) canvas
  device.ask (.configure window.surface configuration)
  return { window with configuration := some configuration }

def format? (window : WindowSurface) : Option TextureFormat := window.configuration.map (·.format)

/-- Acquires the next image; `false` if the frame is to be skipped. A lost or outdated surface is
reconfigured. -/
def nextImage (device : Device) (window : WindowSurface) : GraphicsM (Except Failure Bool) := do
  match ← Graphics.nextImage window.surface with
  | none => return .ok true
  | some .lost | some .outdated =>
    window.configuration.forM fun configuration =>
      device.ask (.configure window.surface configuration)
    return .ok false
  | some .timeout => return .ok false
  | some fault => return .error (.of s!"failed to acquire surface texture: {fault.message}")

end WindowSurface

end ShaderPreview.Graphics
