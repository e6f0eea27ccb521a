import ShaderPreview.Wgsl.Validation.Exchange

/-!
# Validation of functions

Validates the steps of functions and computes the stages in which they may run.
-/

namespace ShaderPreview.Wgsl.Validation

open Text

/-- Allowed jumps: `break`, `continue`, `return`. -/
structure Exits where
  leaves : Bool
  continues : Bool
  returns : Bool

namespace StepContext

variable (context : StepContext)

def checkCondition (node : Nat) : Except (At FunctionCause) Unit :=
  if context.typeAt node = .bool then .ok () else context.atNode .condition node

/-! ### Memory -/

def checkStore (pointer value : Nat) : Except (At FunctionCause) Unit := do
  if (rootOf context.nodes.nodes (context.nodes.nodes.size + 1) pointer).isNone then
    context.atNode .storePointer pointer
  match context.typeAt value with
  | .texture _ | .sampler _ => context.atNode .storeValue value
  | _ => .ok ()
  if !holdsValue (context.typeAt pointer) (context.typeAt value) then
    let span := context.spanOf pointer
    .error ⟨.storeTypes, if span.isKnown then span else context.spanOf value⟩
  if !isWritable (context.typeAt pointer) then context.atNode .storePointer pointer

/-! ### Calls -/

def checkArguments (span : Span) : List Nat → List BoundType → Except (At FunctionCause) Unit
  | argument :: arguments, parameter :: parameters =>
    if (context.typeAt argument).same parameter.typing.type then
      checkArguments span arguments parameters
    else .error ⟨.call, if span.isKnown then span else context.spanOf argument⟩
  | _, _ => .ok ()

def checkCall (span : Span) (function : Nat) (arguments : List Nat) :
    Except (At FunctionCause) StageSet := do
  match context.nodes.shader.functions[function]?, context.callees[function]? with
  | some callee, some facts =>
    if callee.parameters.length ≠ arguments.length then .error ⟨.call, span⟩
    context.checkArguments span arguments callee.parameters
    return facts.stages
  | _, _ => .error ⟨.call, span⟩

/-! ### Switches -/

def checkReturn (span : Span) (value : Option Nat) : Except (At FunctionCause) Unit :=
  match value, context.result with
  | none, none => .ok ()
  | some node, some type =>
    if (context.typeAt node).same type then .ok () else context.atNode .returnType node
  | some node, none => context.atNode .returnType node
  | none, some _ => .error ⟨.returnType, span⟩

def firstSpan (body : List Step) : Span := ((body.head?).map (·.span)).getD .nowhere

def checkValues (isUnsigned : Bool) (before : List CaseValue) :
    List SwitchCase → Except (At FunctionCause) (List CaseValue)
  | [] => .ok before
  | .mk value body _ :: cases => do
    let isRight := match value with
      | .int _ => !isUnsigned
      | .uint _ => isUnsigned
      | .default => true
    if !isRight then .error ⟨.caseType, firstSpan body⟩
    if before.contains value then
      .error ⟨if value = .default then .defaultTwice else .caseTwice, firstSpan body⟩
    checkValues isUnsigned (value :: before) cases

def checkSwitch (span : Span) (selector : Nat) (cases : List SwitchCase) :
    Except (At FunctionCause) Unit := do
  let isUnsigned ← match scalarKind? (context.typeAt selector) with
    | some .uint => .ok true
    | some .sint => .ok false
    | _ => context.atNode .switchType selector
  let values ← checkValues isUnsigned [] cases
  if values.contains .default then .ok () else .error ⟨.defaultMissing, span⟩

end StepContext

mutual

/-- Validates a block; returns the stages in which it may run. -/
def checkSteps (context : StepContext) (exits : Exits) :
    List Step → Except (At FunctionCause) StageSet
  | [] => .ok .all
  | .mk span action :: steps => do
    let first ← checkAction context exits span action
    return first.both (← checkSteps context exits steps)

def checkAction (context : StepContext) (exits : Exits) (span : Span) :
    Action → Except (At FunctionCause) StageSet
  | .emit _ _ => .ok .all
  | .block body => checkSteps context exits body
  | .conditional condition accept reject => do
    context.checkCondition condition
    return (← checkSteps context exits accept).both (← checkSteps context exits reject)
  | .switch selector cases => do
    context.checkSwitch span selector cases
    checkCases context { exits with leaves := true } cases
  | .loop body continuing breakIf => do
    let first ← checkSteps context ⟨true, true, exits.returns⟩ body
    let second ← checkSteps context ⟨false, false, false⟩ continuing
    breakIf.forM context.checkCondition
    return first.both second
  | .leaveLoop => if exits.leaves then .ok .all else .error ⟨.leaveOutside, span⟩
  | .continueLoop => if exits.continues then .ok .all else .error ⟨.continueOutside, span⟩
  | .giveBack value => do
    if !exits.returns then .error ⟨.returnOutside, span⟩
    context.checkReturn span value
    return .all
  | .discard => .ok .onlyFragment
  | .store pointer value => do
    context.checkStore pointer value
    return .all
  | .call function arguments _ => context.checkCall span function arguments
  | .barrier => .ok .onlyCompute
  | .textureStore texture coordinate layer value => do
    context.checkTexelStore texture coordinate layer value
    return .all
  | .textureAtomic texture coordinate layer isExtreme value => do
    context.checkTexelChange texture coordinate layer isExtreme value
    return .all
  | .atomic pointer function value _ => do
    context.checkAtomic pointer function value
    return .all
  | .ballot predicate _ => do
    context.checkBallot predicate
    return .all
  | .subgroup operand argument _ => do
    context.checkSubgroup operand argument
    return .all
  | .shuffle source argument _ => do
    context.checkShuffle source argument
    return .all
  | .rayQuery query request => do
    context.checkRayQuery span query request
    return .all
  | .workgroupLoad pointer _ => do
    context.checkWorkgroupLoad pointer
    return .onlyCompute

def checkCases (context : StepContext) (exits : Exits) :
    List SwitchCase → Except (At FunctionCause) StageSet
  | [] => .ok .all
  | .mk _ body _ :: cases => do
    return (← checkSteps context exits body).both (← checkCases context exits cases)

end

/-! ### Functions -/

def checkLocals (types : TypeContext) (function : Function) : Except (At FunctionCause) Unit :=
  function.locals.forM fun declared => do
    let type := declared.typing.type
    let isRight := match declared.initial.bind (function.nodes[·]?) with
      | some node => node.type.same type
      | none => true
    if !(types.facts type).isConstructible || !isRight then
      let span := types.spanOf type
      .error ⟨.localVariable, if span.isKnown then span else declared.span⟩

def checkSignature (types : TypeContext) (isEntry : Bool) (function : Function) :
    Except (At FunctionCause) Unit := do
  function.parameters.forM fun bound => do
    let type := bound.typing.type
    if !(types.facts type).isArgument then .error ⟨.parameter, types.spanOf type⟩
    if !isEntry && bound.binding.isSome then .error ⟨.parameterBinding, types.spanOf type⟩
  function.result.forM fun bound => do
    let type := bound.typing.type
    if !(types.facts type).isConstructible then .error ⟨.result, types.spanOf type⟩
    if !isEntry && bound.binding.isSome then .error ⟨.resultBinding, types.spanOf type⟩

def checkNodes (context : NodeContext) (used : Array Bool) : Except (At FunctionCause) StageSet :=
  context.nodes.toList.zipIdx.foldlM
    (fun stages entry =>
      if !used.getD entry.2 false then .ok stages
      else if opFits context entry.1.op then .ok (stages.both (opStages entry.1.op))
      else .error ⟨.expression, flawSpan context entry.1⟩)
    .all

def checkFunction (types : TypeContext) (shader : ShaderModule) (callees : Array FunctionFacts)
    (isEntry : Bool) (function : Function) : Except (At FunctionCause) FunctionFacts := do
  checkLocals types function
  checkSignature types isEntry function
  let nodes := NodeContext.of types shader function
  let computed ← checkNodes nodes function.used
  let done ← checkSteps ⟨nodes, function.result.map (·.typing.type), callees⟩ ⟨false, false, true⟩
    function.body
  return ⟨computed.both done, variableUses shader callees function⟩

/-- All functions, in dependency order. -/
def checkFunctions (types : TypeContext) (shader : ShaderModule) :
    Except Breach (Array FunctionFacts) :=
  shader.functions.foldlM
    (fun known function => match checkFunction types shader known false function with
      | .ok facts => .ok (known.push facts)
      | .error problem => .error (problem.enclosedBy function.span (.function function.name)))
    #[]

end ShaderPreview.Wgsl.Validation
