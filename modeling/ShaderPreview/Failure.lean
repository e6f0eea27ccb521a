/-!
# Failures

A failure says what could not be done and, step by step, why. The first text is the outermost one.
-/

namespace ShaderPreview

/-- An error message with its chain of causes (SPEC_FULL.md, section 11.2). -/
structure Failure where
  summary : String
  causes : List String
  deriving DecidableEq, Repr, Inhabited

namespace Failure

def of (summary : String) : Failure := ⟨summary, []⟩

/-- Adds an outer message to the chain. -/
def because (summary : String) (failure : Failure) : Failure :=
  ⟨summary, failure.summary :: failure.causes⟩

def chain (failure : Failure) : List String := failure.summary :: failure.causes

def line (failure : Failure) : String := ": ".intercalate failure.chain

/-- Numbered list of causes; a single cause stands without a number. -/
def listCauses : List String → String
  | [] => ""
  | [cause] => s!"\nCaused by:\n    {cause}\n"
  | causes =>
    "\nCaused by:\n" ++ String.join (causes.mapIdx fun i cause => s!"    {i}: {cause}\n")

def report (failure : Failure) : String :=
  s!"Error: {failure.summary}\n" ++ listCauses failure.causes

end Failure

end ShaderPreview
