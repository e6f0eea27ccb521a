import ShaderPreview.Failure
import ShaderPreview.Graphics.Call

/-!
# The graphics system

The behaviour of the graphics system is given by its answers: one list for each kind of question,
and a default for the questions past the end of the list; a fallible call succeeds there. A finite
run asks finitely many questions, so a theorem about all `Answers` covers every graphics system.
-/

namespace ShaderPreview.Graphics

/-- Scripted answers, one list for each kind of fallible call or query. -/
structure Answers where
  surfaceErrors : List (Option String)
  adapterErrors : List (Option String)
  deviceErrors : List (Option String)
  scopeErrors : List (Option String)
  imageFaults : List (Option SurfaceFault)
  capabilities : List SurfaceCapabilities
  usualCapabilities : SurfaceCapabilities
  textureLimits : List Nat
  usualTextureLimit : Nat
  deriving Repr

/-- Every call succeeds. -/
def Answers.smooth : Answers :=
  { surfaceErrors := [], adapterErrors := [], deviceErrors := [], scopeErrors := []
    imageFaults := [], capabilities := []
    usualCapabilities := ⟨[⟨"Bgra8UnormSrgb"⟩, ⟨"Bgra8Unorm"⟩], ["Fifo"], ["Opaque"]⟩
    textureLimits := [], usualTextureLimit := 8192 }

/-- Remaining answers, number of objects created, and log of calls. -/
structure System where
  answers : Answers
  created : Nat
  calls : List Call
  deriving Repr

def System.of (answers : Answers) : System := ⟨answers, 0, []⟩

abbrev GraphicsM := StateM System

def note (call : Call) : GraphicsM Unit :=
  modify fun system => { system with calls := system.calls ++ [call] }

def report (severity : Severity) (message : String) (fields : List (String × String)) :
    GraphicsM Unit :=
  note (.report ⟨severity, message, fields⟩)

def freshNumber : GraphicsM Nat :=
  modifyGet fun system => (system.created, { system with created := system.created + 1 })

def takeAnswer {α : Type} (list : Answers → List α) (set : List α → Answers → Answers)
    (usual : Answers → α) : GraphicsM α :=
  modifyGet fun system => match list system.answers with
    | [] => (usual system.answers, system)
    | answer :: rest => (answer, { system with answers := set rest system.answers })

def takeOutcome {ε : Type} (list : Answers → List (Option ε))
    (set : List (Option ε) → Answers → Answers) : GraphicsM (Option ε) :=
  takeAnswer list set fun _ => none

def createSurface : GraphicsM (Except Failure Surface) := do
  let error ← takeOutcome (·.surfaceErrors)
    fun rest answers => { answers with surfaceErrors := rest }
  note (.createSurface error)
  match error with
  | some text => return .error (.of text)
  | none => return .ok ⟨← freshNumber⟩

def requestAdapter (options : AdapterOptions) (surface : Option Surface) :
    GraphicsM (Except Failure Unit) := do
  let error ← takeOutcome (·.adapterErrors)
    fun rest answers => { answers with adapterErrors := rest }
  note (.requestAdapter options surface error)
  return match error with
    | some text => .error (.of text)
    | none => .ok ()

def textureLimit : GraphicsM Nat :=
  takeAnswer (·.textureLimits) (fun rest answers => { answers with textureLimits := rest })
    (·.usualTextureLimit)

def requestDevice (descriptor : DeviceDescriptor) : GraphicsM (Except Failure Device) := do
  let error ← takeOutcome (·.deviceErrors)
    fun rest answers => { answers with deviceErrors := rest }
  note (.requestDevice descriptor error)
  match error with
  | some text => return .error (.of text)
  | none => return .ok ⟨← freshNumber, descriptor⟩

def capabilitiesOf (surface : Surface) : GraphicsM SurfaceCapabilities := do
  let offered ← takeAnswer (·.capabilities)
    (fun rest answers => { answers with capabilities := rest }) (·.usualCapabilities)
  note (.capabilities surface offered)
  return offered

def nextImage (surface : Surface) : GraphicsM (Option SurfaceFault) := do
  let fault ← takeOutcome (·.imageFaults) fun rest answers => { answers with imageFaults := rest }
  note (.nextImage surface fault)
  return fault

namespace Device

variable (device : Device)

def ask (call : DeviceCall) : GraphicsM Unit := note (.device device call)

/-- Closes an error scope and returns the first captured error. -/
def popErrorScope : GraphicsM (Option String) := do
  let error ← takeOutcome (·.scopeErrors) fun rest answers => { answers with scopeErrors := rest }
  device.ask (.popErrorScope error)
  return error

def inErrorScope {α : Type} (step : GraphicsM α) : GraphicsM (α × Option String) := do
  device.ask (.pushErrorScope .validation)
  let value ← step
  return (value, ← device.popErrorScope)

/-- Creates an object under a fresh number. -/
def create {α : Type} (make : Nat → α) (call : α → DeviceCall) : GraphicsM α := do
  let object := make (← freshNumber)
  device.ask (call object)
  return object

end Device

end ShaderPreview.Graphics
