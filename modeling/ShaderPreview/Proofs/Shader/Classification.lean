import ShaderPreview.Diagnostic.Status
import ShaderPreview.Shader.Classification
import ShaderPreview.Wgsl.FrontEnd

/-!
# Properties of classifications

The kind of a source that parses is determined by its entry points, and a renderable kind has the
entry points it is drawn with.
-/

namespace ShaderPreview

variable {frontEnd : FrontEnd} {source : String}

theorem classify_of_error {complaint : Complaint}
    (h : frontEnd.parse (compose source (needsTextures source)).text = .error complaint) :
    frontEnd.classify source =
      .unparsed (compose source (needsTextures source)) complaint := by
  simp only [FrontEnd.classify, h]

theorem classify_of_ok {parsed : frontEnd.Parsed}
    (h : frontEnd.parse (compose source (needsTextures source)).text = .ok parsed) :
    frontEnd.classify source = .ofEntryPoints (frontEnd.entryPoints parsed) := by
  simp only [FrontEnd.classify, h]

theorem Classification.ofEntryPoints_kind (entries : List EntryPoint) :
    (ofEntryPoints entries).kind ≠ .parseError := by
  dsimp only [ofEntryPoints]
  split
  · nofun
  · dsimp only
    split <;> nofun

theorem unparsed_of_kind (h : (frontEnd.classify source).kind = .parseError) :
    ∃ complaint,
      frontEnd.parse (compose source (needsTextures source)).text = .error complaint := by
  cases hp : frontEnd.parse (compose source (needsTextures source)).text with
  | error complaint => exact ⟨complaint, rfl⟩
  | ok parsed =>
    rw [classify_of_ok hp] at h
    exact absurd h (Classification.ofEntryPoints_kind _)

/-- Rejection message of a shader that cannot be rendered. -/
def Classification.complaint (classification : Classification) : String :=
  classification.diagnostic.getD fragmentRequired

namespace Classification

theorem unparsed_not_renderable (composed : ComposedSource) (complaint : Complaint) :
    (unparsed composed complaint).isRenderable = false := rfl

theorem ofEntryPoints_names {entries : List EntryPoint}
    (h : (ofEntryPoints entries).isRenderable = true) :
    ∃ names, (ofEntryPoints entries).entryNames? = some names := by
  unfold ofEntryPoints at h ⊢
  cases hf : (EntryPoints.of entries).fragment with
  | nil =>
    simp only [hf, List.isEmpty_nil, if_true] at h
    cases h
  | cons fragment fragments =>
    cases hv : (EntryPoints.of entries).vertex with
    | nil => exact ⟨(fullscreenEntry, fragment.name), by simp [hf, hv, entryNames?]⟩
    | cons vertex vertices => exact ⟨(vertex.name, fragment.name), by simp [hf, hv, entryNames?]⟩

end Classification

theorem entryNames_of_renderable (h : (frontEnd.classify source).isRenderable = true) :
    ∃ names, (frontEnd.classify source).entryNames? = some names := by
  cases hp : frontEnd.parse (compose source (needsTextures source)).text with
  | error complaint =>
    rw [classify_of_error hp, Classification.unparsed_not_renderable] at h
    cases h
  | ok parsed =>
    rw [classify_of_ok hp] at h ⊢
    exact Classification.ofEntryPoints_names h

theorem Classification.entryNames_own {classification : Classification} {names : String × String}
    (h : classification.entryNames? = some names) (hkind : classification.kind = .vertexFragment) :
    ∃ entry others, classification.entryPoints.vertex = entry :: others ∧
      names.1 = entry.name := by
  unfold entryNames? at h
  rw [hkind] at h
  cases hf : classification.entryPoints.fragment with
  | nil =>
    rw [hf] at h
    cases h
  | cons fragment fragments =>
    cases hv : classification.entryPoints.vertex with
    | nil =>
      rw [hf, hv] at h
      cases h
    | cons vertex vertices =>
      rw [hf, hv] at h
      cases h
      exact ⟨vertex, vertices, rfl, rfl⟩

theorem Classification.entryNames_fullscreen {classification : Classification}
    {names : String × String} (h : classification.entryNames? = some names)
    (hkind : classification.kind ≠ .vertexFragment) : names.1 = fullscreenEntry := by
  unfold entryNames? at h
  cases hf : classification.entryPoints.fragment with
  | nil =>
    rw [hf] at h
    cases h
  | cons fragment fragments =>
    rw [hf] at h
    cases hk : classification.kind with
    | vertexFragment => exact absurd hk hkind
    | fragmentOnly | invalid | parseError =>
      rw [hk] at h
      cases h
      rfl

theorem Classification.ofEntryPoints_complaint {entries : List EntryPoint}
    (h : (ofEntryPoints entries).isRenderable = false) :
    (ofEntryPoints entries).complaint = fragmentRequired := by
  unfold ofEntryPoints at h ⊢
  cases hf : (EntryPoints.of entries).fragment with
  | nil =>
    simp only [List.isEmpty_nil, if_true, hf]
    rfl
  | cons fragment fragments =>
    simp only [hf, List.isEmpty_cons, Bool.false_eq_true, if_false] at h
    cases hv : (EntryPoints.of entries).vertex.isEmpty <;> simp only [hv] at h <;> cases h

/-! ### Sources and front ends of the witnesses -/

def pointerShader : String := "@fragment
fn main() -> @location(0) vec4<f32> \x7b
    return iMouse;
\x7d
"

def stagedShader : String := "@vertex
fn corner() -> @builtin(position) vec4<f32> \x7b
    return iMouse;
\x7d

@fragment
fn paint() -> @location(0) vec4<f32> \x7b
    return iMouse;
\x7d
"

/-- Fragment shader with an undeclared name. -/
def unresolvedShader : String := "@fragment
fn main() -> @location(0) vec4<f32> \x7b
    return vec4<f32>(successfully, 0.0, 0.0, 1.0);
\x7d
"

theorem unresolvedShader_refused :
    (Wgsl.frontEnd.classify unresolvedShader).kind = .parseError ∧
      Diagnostic.isStatusLine
        (Text.trim (Wgsl.frontEnd.classify unresolvedShader).complaint.toList) = true := by
  decide +kernel

/-- Fragment shader without a location on its result: it parses but is not valid. -/
def unboundShader : String := "@fragment
fn main() -> vec4<f32> \x7b
    return iMouse;
\x7d
"

/-- Accepts one fixed text, which has no entry points, and is the given front end otherwise. -/
def FrontEnd.accepting (accepted : String) (frontEnd : FrontEnd) : FrontEnd where
  Parsed := Option frontEnd.Parsed
  parse text := if text = accepted then .ok none else (frontEnd.parse text).map some
  entryPoints := (Option.elim · [] frontEnd.entryPoints)
  validate := (Option.bind · frontEnd.validate)

theorem diagnose_accepting (accepted : String) (frontEnd : FrontEnd) :
    (FrontEnd.accepting accepted frontEnd).diagnose (.plain accepted) = [] := by
  simp [FrontEnd.diagnose, FrontEnd.accepting, ComposedSource.plain]

/-- Accepts every source with fixed entry points. -/
def FrontEnd.lenient (entries : List EntryPoint) : FrontEnd where
  Parsed := Unit
  parse _ := .ok ()
  entryPoints _ := entries
  validate _ := none

end ShaderPreview
