import ShaderPreview.Session.Backend

/-!
# Scripted backends

A backend without a device, for tests and examples. All results are scripted, and GPU objects are
replaced by what identifies them: a module by its label, a texture by its channel, bound resources
by the list of their channels, a vertex buffer by its length, a pipeline by its fragment entry
point.
-/

namespace ShaderPreview

/-- Scripted results. Where a list of strings stands for a result, it is a failure with its chain of
causes, and the empty list is success. -/
structure Rehearsal where
  device : Bool
  textureFailures : PerChannel (List String)
  bindFailure : List String
  vertexFailure : List String
  pipelineFailure : List String
  /-- Reported once. -/
  validationError : Option String
  /-- Number of draws that still fail. -/
  failingDraws : Nat
  /-- Scripted compilations by label; any other source goes to the front end. -/
  compilations : List (String × Bool × List Diagnostic)

namespace Rehearsal

def smooth : Rehearsal :=
  { device := true, textureFailures := fun _ => [], bindFailure := [], vertexFailure := [],
    pipelineFailure := [], validationError := none, failingDraws := 0, compilations := [] }

def outcome {α : Type} (texts : List String) (value : α) : Except Failure α :=
  match texts with
  | [] => .ok value
  | summary :: causes => .error ⟨summary, causes⟩

def lostSurface : Failure := .of "surface lost its device"

def compile (frontEnd : FrontEnd) (source : ComposedSource) (label : String)
    (rehearsal : Rehearsal) : Compilation String :=
  match rehearsal.compilations.lookup label with
  | some (hasModule, diagnostics) => .of (if hasModule then some label else none) diagnostics
  | none => .of (some label) (frontEnd.diagnose source)

def backend (frontEnd : FrontEnd) : Backend where
  State := Rehearsal
  Note := Empty
  Module := String
  Texture := Fin channelCount
  Resources := PerChannel Bool
  Pipeline := String
  Vertices := Nat
  acquire _ rehearsal := ⟨rehearsal.device, [], rehearsal⟩
  compile source label rehearsal := ⟨rehearsal.compile frontEnd source label, [], rehearsal⟩
  loadTexture channel _ rehearsal :=
    ⟨outcome (rehearsal.textureFailures channel) channel, [], rehearsal⟩
  bind _ textures rehearsal :=
    ⟨outcome rehearsal.bindFailure (PerChannel.occupancy textures), [], rehearsal⟩
  uploadVertices vertices rehearsal :=
    ⟨outcome rehearsal.vertexFailure vertices.count, [], rehearsal⟩
  buildPipeline stages _ rehearsal :=
    ⟨outcome rehearsal.pipelineFailure stages.fragmentEntry, [], rehearsal⟩
  takeValidationError rehearsal :=
    ⟨rehearsal.validationError, [], { rehearsal with validationError := none }⟩
  draw _ _ _ _ rehearsal := match rehearsal.failingDraws with
    | 0 => ⟨.ok (), [], rehearsal⟩
    | more + 1 => ⟨.error lostSurface, [], { rehearsal with failingDraws := more }⟩

end Rehearsal

end ShaderPreview
