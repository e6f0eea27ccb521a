import ShaderPreview.Files.Path

/-!
# Diagnostics

A diagnostic has a severity, a message and a location in the user's source: line counted from 1,
optional column, and byte range (0 and 0 if unknown).
-/

namespace ShaderPreview

inductive Severity where
  | error
  | warning
  | info
  deriving DecidableEq, Repr, Inhabited

def Severity.label : Severity → String
  | .error => "error"
  | .warning => "warning"
  | .info => "info"

/-- Any unknown label is an error. -/
def Severity.ofLabel (label : String) : Severity :=
  ([.warning, .info].find? (·.label == label)).getD .error

def Severity.logWord : Severity → String
  | .error => "ERROR"
  | .warning => "WARN"
  | .info => "INFO"

/-- Structured error (SPEC_FULL.md, section 3). -/
structure Diagnostic where
  message : String
  line : Nat
  column : Option Nat
  severity : Severity
  offset : Nat
  length : Nat
  deriving DecidableEq, Repr, Inhabited

namespace Diagnostic

/-- Error at a line, clamped to at least 1. -/
def onLine (message : String) (line : Nat) : Diagnostic :=
  ⟨message, max line 1, none, .error, 0, 0⟩

/-- Error without a location, reported on line 1. -/
def general (message : String) : Diagnostic := onLine message 1

/-- Only errors reject a shader. -/
def isError (diagnostic : Diagnostic) : Bool := diagnostic.severity == .error

/-- `line:column: severity: message`. -/
def render (diagnostic : Diagnostic) : String :=
  let place := match diagnostic.column with
    | some column => s!"{diagnostic.line}:{column}"
    | none => s!"{diagnostic.line}"
  s!"{place}: {diagnostic.severity.label}: {diagnostic.message}"

/-- `path:line:column: severity: message`. -/
def lineIn (file : Path) (diagnostic : Diagnostic) : String :=
  s!"{file.text}:{diagnostic.render}"

@[simp] theorem onLine_message (message : String) (line : Nat) :
    (onLine message line).message = message := rfl

end Diagnostic

def rejects (diagnostics : List Diagnostic) : Bool := diagnostics.any Diagnostic.isError

end ShaderPreview
