import ShaderPreview.Wgsl.Lowering.Construct

/-!
# Arguments

Arguments of predeclared functions are taken one by one; their number may depend on the types of the
first ones.
-/

namespace ShaderPreview.Wgsl

open Text

namespace Lowering

/-- Remaining arguments of a predeclared function. -/
structure Arguments where
  least : Nat
  total : Nat
  taken : Nat
  rest : List ExprTree
  span : Span

def Arguments.fault (arguments : Arguments) : Fault :=
  let bound := arguments.taken + 1
  let expected :=
    if bound - arguments.least < 2 then s!"{arguments.least}" else s!"{arguments.least}..{bound}"
  ⟨.argumentCount expected s!"{arguments.total}", some arguments.span⟩

abbrev ArgumentM := StateT Arguments BuildM

def takeArgument : ArgumentM ExprTree := do
  let arguments ← get
  match arguments.rest with
  | [] => throw arguments.fault
  | tree :: rest =>
    set { arguments with taken := arguments.taken + 1, rest := rest }
    return tree

def takeArgument? : ArgumentM (Option ExprTree) := do
  if (← get).rest.isEmpty then return none else some <$> takeArgument

def needArgument : ArgumentM Unit :=
  modify fun arguments => { arguments with least := arguments.least + 1 }

def withArguments {α : Type} (trees : List ExprTree) (least : Nat) (span : Span)
    (step : ArgumentM α) : BuildM α := do
  let (value, left) ← step.run ⟨least, trees.length, 0, trees, span⟩
  if left.rest.isEmpty then return value else throw left.fault

variable (lowering : Lowering)

def concreteArgument : ArgumentM Nat := do lowering.concreteValue (← takeArgument)

def leafArgument (scalar : Scalar) : ArgumentM Nat := do
  lowering.leafValue (← takeArgument) scalar

/-! ### Steps -/

/-- Adds a step without a result; not available at compile time. -/
def effect (span : Span) (action : Action) : BuildM Unit := do
  if (← get).mode ≠ .runtime then throw (.broken span .constContext)
  Build.finish
  Build.push span action
  Build.collect

def stepResult (op : Op) (span : Span) (action : Nat → Action) : BuildM Nat := do
  Build.finish
  let result ← Build.append op span
  Build.push span (action result)
  Build.collect
  return result

end Lowering

end ShaderPreview.Wgsl
