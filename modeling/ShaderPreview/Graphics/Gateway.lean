import ShaderPreview.Graphics.System

/-!
# The device gateway

All sessions share one device (SPEC_FULL.md, section 2). It is requested on first use; a failed
request is repeated on the next use.
-/

namespace ShaderPreview.Graphics

/-- Shared device, acquired lazily. -/
structure Gateway where
  device : Option Device
  deriving DecidableEq, Repr

namespace Gateway

def connect : GraphicsM Gateway := do
  note .createInstance
  return ⟨none⟩

def reportUnavailable (failure : Failure) : GraphicsM Unit :=
  report .error "graphics device unavailable" [("error", failure.line)]

def createSurface : GraphicsM (Except Failure Surface) := do
  return (← Graphics.createSurface).mapError (·.because "failed to create rendering surface")

def adapterOptions : AdapterOptions := ⟨.highPerformance, false⟩

/-- Default limits, except for the texture size, which is the adapter's. -/
def deviceDescriptor (maxTexture : Nat) : DeviceDescriptor :=
  { label := "shadebox device"
    requiredFeatures := []
    memory := .performance
    maxTexture := maxTexture
    maxBindGroups := 4 }

def requestDevice (surface : Option Surface) : GraphicsM (Except Failure Device) := do
  match ← requestAdapter adapterOptions surface with
  | .error failure =>
    return .error (failure.because "failed to find a suitable GPU adapter")
  | .ok () =>
    let descriptor := deviceDescriptor (← textureLimit)
    return (← Graphics.requestDevice descriptor).mapError (·.because "failed to create GPU device")

/-- Returns the shared device, requesting it on first use. -/
def acquire (surface : Option Surface) (gateway : Gateway) :
    GraphicsM (Option Device × Gateway) := do
  match gateway.device with
  | some device => return (some device, gateway)
  | none => match ← requestDevice surface with
    | .ok device => return (some device, ⟨some device⟩)
    | .error failure =>
      reportUnavailable failure
      return (none, gateway)

/-- Handler of errors outside any error scope. -/
def reportUncaptured (text : String) : GraphicsM Unit :=
  report .error "uncaptured GPU error" [("error", text)]

end Gateway

end ShaderPreview.Graphics
