import ShaderPreview.Wgsl.Fault
import ShaderPreview.Wgsl.Name

/-!
# Validation errors

Errors of validation as chains of causes, from the declaration inwards, with their messages.
-/

namespace ShaderPreview.Wgsl

open Text

def stageName : ShaderStage → String
  | .vertex => "Vertex"
  | .fragment => "Fragment"
  | .compute => "Compute"

inductive VaryingCause where
  | type
  | notShareable
  | interpolation
  | interpolationMissing
  | samplingCombination (way : Interpolation) (place : SamplePlace)
  | builtinStage (builtin : Builtin)
  | builtinType (builtin : Builtin)
  | bindingMissing
  | memberBindingMissing (index : Nat)
  | locationTaken (location : Nat)
  | sourceStage (stage : ShaderStage)
  | sourceIntoStage (stage : ShaderStage)
  | sourceIndex (location source : Nat)
  | sourceTaken (source : Nat)
  | sourceMissing
  | sourceTypes
  | builtinTwice (builtin : Builtin)
  deriving DecidableEq, Repr

def VaryingCause.message : VaryingCause → String
  | .type => "The type does not match the varying"
  | .notShareable => "The type cannot be used for user-defined entry point inputs or outputs"
  | .interpolation => "Interpolation is not valid"
  | .interpolationMissing =>
    "Interpolation must be specified on vertex shader outputs and fragment shader inputs"
  | .samplingCombination way place =>
    s!"Cannot combine {way.label} interpolation with the {place.label} sample type"
  | .builtinStage builtin => s!"Built-in {builtin.label} is not available at this stage"
  | .builtinType builtin => s!"Built-in type for {builtin.label} is invalid"
  | .bindingMissing => "Entry point arguments and return values must all have bindings"
  | .memberBindingMissing index => s!"Struct member {index} is missing a binding"
  | .locationTaken location => s!"Multiple bindings at location {location} are present"
  | .sourceStage stage => s!"The attribute \"blend_src\" is not valid for stage {stageName stage}"
  | .sourceIntoStage stage =>
    s!"The attribute \"blend_src\" is only valid as an output for stage {stageName stage}"
  | .sourceIndex location source =>
    "The `blend_src` attribute can only be used on location 0, only indices 0 and 1 are valid. " ++
      s!"Location was {location}, index was {source}."
  | .sourceTaken source => s!"Multiple bindings use the same `blend_src` {source}"
  | .sourceMissing =>
    "If `blend_src` is used, there must be exactly two outputs both at location 0, one with " ++
      "`blend_src(0)` and the other with `blend_src(1)`."
  | .sourceTypes => "If `blend_src` is used, both outputs must have the same type."
  | .builtinTwice builtin => s!"Built-in {builtin.label} is present more than once"

inductive FunctionCause where
  | localVariable
  | parameter
  | parameterBinding
  | result
  | resultBinding
  | expression
  | condition
  | switchType
  | caseType
  | caseTwice
  | defaultTwice
  | defaultMissing
  | leaveOutside
  | continueOutside
  | returnOutside
  | returnType
  | storePointer
  | storeValue
  | storeTypes
  | call
  | texelStore
  | texelChange
  | atomic
  | workgroupLoad
  | subgroup
  | rayQuery
  deriving DecidableEq, Repr

def FunctionCause.message : FunctionCause → String
  | .localVariable => "Local variable is invalid"
  | .parameter => "Argument type is invalid"
  | .parameterBinding => "Argument of a regular function cannot have a binding"
  | .result => "The function's given return type cannot be returned from functions"
  | .resultBinding => "Result of a regular function cannot have a binding"
  | .expression => "Expression is invalid"
  | .condition => "Condition is not a truth value"
  | .switchType => "The `switch` value is not an integer"
  | .caseType => "Multiple `switch` cases have conflicting types"
  | .caseTwice => "Multiple `switch` cases for the same value are present"
  | .defaultTwice => "Multiple `default` cases are present"
  | .defaultMissing => "The `switch` has no `default` case"
  | .leaveOutside => "The `break` is used outside of a `loop` or `switch` context"
  | .continueOutside => "The `continue` is used outside of a `loop` context"
  | .returnOutside => "The `return` is called within a `continuing` block"
  | .returnType => "The `return` value does not match the function return value"
  | .storePointer => "The pointer of a store is not valid"
  | .storeValue => "The value of a store cannot be stored"
  | .storeTypes => "The value of a store does not match its pointer"
  | .call => "Call is invalid"
  | .texelStore => "Image store parameters are invalid"
  | .texelChange => "Image atomic parameters are invalid"
  | .atomic => "Atomic operation is invalid"
  | .workgroupLoad => "Load of a value that the workgroup agrees on is invalid"
  | .subgroup => "Subgroup operation is invalid"
  | .rayQuery => "Ray query operation is invalid"

inductive EntryCause where
  | conflict
  | earlyDepth
  | workgroupSize
  | workgroupSizeUnexpected
  | function (cause : FunctionCause)
  | forbiddenOperations
  | argument (index : Nat) (cause : VaryingCause)
  | result (cause : VaryingCause)
  | positionMissing
  | globalUsage
  | pushConstants
  | bindingTaken
  deriving DecidableEq, Repr

def EntryCause.message : EntryCause → String
  | .conflict => "Multiple conflicting entry points"
  | .earlyDepth => "Early depth test is not applicable"
  | .workgroupSize => "Workgroup size is out of range"
  | .workgroupSizeUnexpected => "Workgroup size of a stage other than compute must be zero"
  | .function cause => cause.message
  | .forbiddenOperations => "Uses operations forbidden at this stage"
  | .argument index cause => s!"Argument {index} varying error: {cause.message}"
  | .result cause => cause.message
  | .positionMissing => "Vertex shaders must return a `@builtin(position)` output value"
  | .globalUsage => "Global variable is used incorrectly"
  | .pushConstants => "More than 1 push constant variable is used"
  | .bindingTaken => "Bindings for a global variable conflict with other resource"

inductive BreachCause where
  | type (name : String)
  | constant (name : String)
  | overridable (name : String)
  | global (name : String)
  | function (name : String) (cause : FunctionCause)
  | entry (name : String) (stage : ShaderStage) (cause : EntryCause)
  deriving DecidableEq, Repr

def declarationIsInvalid (kind name : String) : String := kind ++ " '" ++ name ++ "' is invalid"

def BreachCause.message : BreachCause → String
  | .type name => declarationIsInvalid "Type" name
  | .constant name => declarationIsInvalid "Constant" name
  | .overridable name => declarationIsInvalid "Override" name
  | .global name => declarationIsInvalid "Global variable" name
  | .function name cause => declarationIsInvalid "Function" name ++ ": " ++ cause.message
  | .entry name stage cause =>
    s!"Entry point {name} at {stageName stage} is invalid: {cause.message}"

/-- A cause with the span it refers to. -/
structure At (Cause : Type) where
  cause : Cause
  span : Span
  deriving Repr

/-- Wraps the cause in an outer one. -/
def At.within {Inner Outer : Type} (wrap : Inner → Outer) (problem : At Inner) : At Outer :=
  ⟨wrap problem.cause, problem.span⟩

/-- Wraps the cause in an outer one, with the span of the outer one if there is one. -/
def At.enclosedBy {Inner Outer : Type} (outer : Span) (wrap : Inner → Outer) (problem : At Inner) :
    At Outer :=
  ⟨wrap problem.cause, if outer.isKnown then outer else problem.span⟩

/-- Validation error of a module. -/
abbrev Breach := At BreachCause

def Breach.complaint (source : String) (breach : Breach) : Complaint :=
  { message := breach.cause.message
    place := if breach.span.isKnown then some (.ofSpan (bytes source) breach.span) else none }

end ShaderPreview.Wgsl
