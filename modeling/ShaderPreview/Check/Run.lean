import ShaderPreview.Check.Report
import ShaderPreview.Files.Fault
import ShaderPreview.Failure

/-!
# Running a check

Reads a shader, prints its report in the requested format, and fails if the report contains an
error.
-/

namespace ShaderPreview

inductive ReportFormat where
  | text
  | json
  deriving DecidableEq, Repr, Inhabited

structure CheckRequest where
  shader : Path
  format : ReportFormat
  deriving DecidableEq, Repr

structure CheckResult where
  output : String
  passed : Bool
  deriving DecidableEq, Repr

def CheckReport.print (report : CheckReport) : ReportFormat → String
  | .text => report.text
  | .json => report.json.pretty ++ "\n"

def shaderText (path : Path) (contents : Except FileFault (List UInt8)) :
    Except Failure String :=
  (textOf contents).mapError fun reason =>
    (Failure.of reason).because s!"failed to read shader {path.text}"

def FrontEnd.checkFile (frontEnd : FrontEnd) (request : CheckRequest)
    (contents : Except FileFault (List UInt8)) : Except Failure CheckResult := do
  let report := frontEnd.check request.shader (← shaderText request.shader contents)
  return ⟨report.print request.format, !report.hasErrors⟩

def FrontEnd.runCheck {m : Type → Type} [Monad m] (frontEnd : FrontEnd) (read : FileReader m)
    (request : CheckRequest) : m (Except Failure CheckResult) := do
  return frontEnd.checkFile request (← read request.shader)

end ShaderPreview
