import ShaderPreview.Shader.Header

/-!
# Compilation

Interface to the shading language front end, and compilation results (SPEC_FULL.md, section 4.3). A
compilation has a module only if none of its diagnostics is an error.
-/

namespace ShaderPreview

open Text

inductive ShaderStage where
  | vertex
  | fragment
  | compute
  deriving DecidableEq, Repr, Inhabited

def ShaderStage.label : ShaderStage → String
  | .vertex => "vertex"
  | .fragment => "fragment"
  | .compute => "compute"

structure EntryPoint where
  name : String
  stage : ShaderStage
  deriving DecidableEq, Repr, Inhabited

/-- Error of a front end, with a location in the text it was given. -/
structure Complaint where
  message : String
  place : Option Place
  deriving DecidableEq, Repr

/-- Shading language front end: parser, entry points of a parsed module in declaration order, and
validator. -/
structure FrontEnd where
  Parsed : Type
  parse : String → Except Complaint Parsed
  entryPoints : Parsed → List EntryPoint
  validate : Parsed → Option Complaint

def FrontEnd.diagnose (frontEnd : FrontEnd) (source : ComposedSource) : List Diagnostic :=
  match frontEnd.parse source.text with
  | .error complaint => [source.locate complaint.message complaint.place]
  | .ok parsed => match frontEnd.validate parsed with
    | some complaint => [source.locate complaint.message complaint.place]
    | none => []

structure Compilation (Module : Type) where
  module : Option Module
  diagnostics : List Diagnostic
  hasErrors : Bool

/-- Collects diagnostics; the module is dropped if one of them is an error. -/
def Compilation.of {Module : Type} (module : Option Module) (diagnostics : List Diagnostic) :
    Compilation Module :=
  let hasErrors := rejects diagnostics
  ⟨if hasErrors then none else module, diagnostics, hasErrors⟩

end ShaderPreview
