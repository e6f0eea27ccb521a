import ShaderPreview.Wgsl.Tree.Reader

/-!
# Diagnostic severities

`diagnostic` directives and attributes. The notes must be well formed and must not conflict; they
have no effect on diagnostics here.
-/

namespace ShaderPreview.Wgsl

open Text

inductive Severity where
  | off
  | info
  | warning
  | error
  deriving DecidableEq, Repr

def Severity.ofWord? : String → Option Severity
  | "off" => some .off
  | "info" => some .info
  | "warning" => some .warning
  | "error" => some .error
  | _ => none

structure SeverityNote where
  rule : String
  severity : Severity
  span : Span
  deriving Repr

namespace Reader

def severity : ReaderM (Severity × String) := do
  expect (.paren '(')
  let word ← takeIdentifier
  match Severity.ofWord? word.name with
  | none => throw ⟨.other "invalid `diagnostic(…)` severity", some word.span⟩
  | some found =>
    expect (.separator ',')
    let first ← takeIdentifier
    let rule ←
      if ← skip (.separator '.') then
        let second ← takeIdentifier
        pure (first.name ++ "." ++ second.name)
      else pure first.name
    closeArguments
    return (found, rule)

/-- Adds a note. Notes on the same rule must agree; with `strict` there may be only one. -/
def noteSeverity (strict : Bool) (first : Nat) (notes : List SeverityNote) :
    ReaderM (List SeverityNote) := do
  let (found, rule) ← severity
  match notes.find? (·.rule == rule) with
  | some other =>
    if strict || other.severity ≠ found then
      throw ⟨.other "found conflicting `diagnostic(…)` rule(s)", some other.span⟩
    return notes
  | none => return notes ++ [⟨rule, found, ← spanFrom first⟩]

def refuseSeverities (text : String) (notes : List SeverityNote) : ReaderM Unit :=
  match notes with
  | [] => return ()
  | note :: _ => throw ⟨.other ("`@diagnostic(…)` attribute(s) " ++ text), some note.span⟩

end Reader

end ShaderPreview.Wgsl
