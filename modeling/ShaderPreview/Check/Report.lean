import ShaderPreview.Check.Json
import ShaderPreview.Diagnostic.Basic
import ShaderPreview.Diagnostic.Normalize
import ShaderPreview.Shader.Classification

/-!
# Check reports

Headless check of a shader (SPEC_FULL.md, section 12): classification, warnings and diagnostics, as
text or JSON.
-/

namespace ShaderPreview

/-- Result of the headless check (SPEC_FULL.md, section 12). -/
structure CheckReport where
  path : Path
  kind : ShaderKind
  entryPoints : EntryPoints
  warnings : List String
  errors : List Diagnostic
  deriving DecidableEq, Repr

def FrontEnd.objections (frontEnd : FrontEnd) (source : String)
    (classification : Classification) : List Diagnostic :=
  if classification.isRenderable then
    frontEnd.diagnose (compose source (needsTextures source))
  else Diagnostic.normalize (classification.diagnostic.getD fragmentRequired) 0

def FrontEnd.check (frontEnd : FrontEnd) (path : Path) (source : String) : CheckReport :=
  let classification := frontEnd.classify source
  ⟨path, classification.kind, classification.entryPoints, classification.warnings,
    frontEnd.objections source classification⟩

namespace CheckReport

def hasErrors (report : CheckReport) : Bool := rejects report.errors

/-! ### Lines -/

/-- Text form: the kind, then the warnings, then the diagnostics. -/
def lines (report : CheckReport) : List String :=
  s!"{report.path.text}: {report.kind.label}" ::
    (report.warnings.map fun warning => s!"{report.path.text}: note: {warning}") ++
    report.errors.map (·.lineIn report.path)

def text (report : CheckReport) : String := String.join (report.lines.map (· ++ "\n"))

end CheckReport

/-! ### JSON -/

def Diagnostic.json (diagnostic : Diagnostic) : JsonValue := .object
  [("message", .text diagnostic.message), ("line", .number diagnostic.line),
   ("column", .ofOption .number diagnostic.column),
   ("severity", .text diagnostic.severity.label), ("offset", .number diagnostic.offset),
   ("length", .number diagnostic.length)]

def EntryPoint.json (entry : EntryPoint) : JsonValue := .object
  [("name", .text entry.name), ("stage", .text entry.stage.label)]

def EntryPoints.json (entries : EntryPoints) : JsonValue := .object
  [("vertex", .array (entries.vertex.map (·.json))),
   ("fragment", .array (entries.fragment.map (·.json))),
   ("compute", .array (entries.compute.map (·.json)))]

def CheckReport.json (report : CheckReport) : JsonValue := .object
  [("path", .text report.path.text), ("kind", .text report.kind.label),
   ("entry_points", report.entryPoints.json),
   ("warnings", .array (report.warnings.map .text)),
   ("errors", .array (report.errors.map (·.json)))]

end ShaderPreview
