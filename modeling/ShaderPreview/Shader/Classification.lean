import ShaderPreview.Shader.Compilation

/-!
# Classification

Shader classifier (SPEC_FULL.md, section 4.1). The kind of a source follows from the stages of its
entry points. A source can be rendered only if it has a fragment stage; a vertex stage is optional.
Compute entry points are reported and ignored.
-/

namespace ShaderPreview

inductive ShaderKind where
  | fragmentOnly
  | vertexFragment
  | invalid
  | parseError
  deriving DecidableEq, Repr, Inhabited

def ShaderKind.label : ShaderKind → String
  | .fragmentOnly => "fragment-only"
  | .vertexFragment => "vertex-fragment"
  | .invalid => "invalid"
  | .parseError => "parse-error"

def ShaderKind.isRenderable : ShaderKind → Bool
  | .fragmentOnly | .vertexFragment => true
  | .invalid | .parseError => false

/-- Entry points by stage, in declaration order. -/
structure EntryPoints where
  vertex : List EntryPoint
  fragment : List EntryPoint
  compute : List EntryPoint
  deriving DecidableEq, Repr

def EntryPoints.none : EntryPoints := ⟨[], [], []⟩

def EntryPoints.isEmpty (entries : EntryPoints) : Bool :=
  entries.vertex.isEmpty && entries.fragment.isEmpty && entries.compute.isEmpty

def ofStage (stage : ShaderStage) (entries : List EntryPoint) : List EntryPoint :=
  entries.filter (·.stage == stage)

def EntryPoints.of (entries : List EntryPoint) : EntryPoints :=
  ⟨ofStage .vertex entries, ofStage .fragment entries, ofStage .compute entries⟩

/-- Diagnostic of a source without a fragment entry point. -/
def fragmentRequired : String :=
  "A fragment shader entry point is required to render to screen."

/-- Warning for compute entry points next to a fragment entry point. -/
def computeIgnored : String := "Note: compute shader detected but ignored."

/-- Result of `classify` (SPEC_FULL.md, section 3). -/
structure Classification where
  kind : ShaderKind
  entryPoints : EntryPoints
  warnings : List String
  diagnostic : Option String
  deriving DecidableEq, Repr

def Classification.isRenderable (classification : Classification) : Bool :=
  classification.kind.isRenderable

/-- Classification of a source that does not parse. The message carries the user line in a form that
`normalize` reads back. -/
def Classification.unparsed (source : ComposedSource) (complaint : Complaint) : Classification :=
  let message := match complaint.place with
    | some place => s!"{complaint.message}. Line:{userLine place.line source.headerLines}"
    | none => complaint.message
  ⟨.parseError, .none, [], some message⟩

def Classification.ofEntryPoints (entries : List EntryPoint) : Classification :=
  let sorted := EntryPoints.of entries
  if sorted.fragment.isEmpty then ⟨.invalid, sorted, [], some fragmentRequired⟩
  else
    { kind := if sorted.vertex.isEmpty then .fragmentOnly else .vertexFragment
      entryPoints := sorted
      warnings := if sorted.compute.isEmpty then [] else [computeIgnored]
      diagnostic := none }

/-- Classifies a source. It is parsed behind the injected header, so that references to header
variables resolve. -/
def FrontEnd.classify (frontEnd : FrontEnd) (source : String) : Classification :=
  let composed := compose source (needsTextures source)
  match frontEnd.parse composed.text with
  | .error complaint => .unparsed composed complaint
  | .ok parsed => .ofEntryPoints (frontEnd.entryPoints parsed)

/-- Names of the first vertex and fragment entry points. -/
def Classification.entryNames? (classification : Classification) : Option (String × String) :=
  match classification.entryPoints.fragment with
  | [] => none
  | fragment :: _ => match classification.kind with
    | .vertexFragment => match classification.entryPoints.vertex with
      | [] => none
      | vertex :: _ => some (vertex.name, fragment.name)
    | _ => some (fullscreenEntry, fragment.name)

end ShaderPreview
