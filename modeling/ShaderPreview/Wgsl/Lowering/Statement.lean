import ShaderPreview.Wgsl.Lowering.Expression

/-!
# Lowering statements

Statements become steps. A `return` is appended to a function that can reach its end; validation
decides whether that is allowed.
-/

namespace ShaderPreview.Wgsl

open Text

namespace Lowering

variable (lowering : Lowering)

/-! ### Declared values -/

def initialized (name : Ident) (tree : ExprTree) (goal : Typing) : BuildM Nat := do
  let node ← lowering.value tree
  let type ← Build.typeOf node
  let node ← if !type.same goal.type && type.isAbstract && (type.conversion? goal.type).isSome then
      Build.convertTo node goal name.span
    else pure node
  if (← Build.typeOf node).same goal.type then return node
  else
    throw ⟨.typeMismatch (goal.label (← Build.structs)) (← Build.label node), some name.span⟩

/-- Type and initialiser of a declaration. Without a type the initialiser decides, made concrete if
`concrete`. -/
def typeAndValue (name : Ident) (type : Option Typing) (value : Option ExprTree)
    (concrete : Bool) : BuildM (Typing × Option Nat) := do
  match type, value with
  | some typing, some tree => return (typing, some (← lowering.initialized name tree typing))
  | none, some tree =>
    let node ← lowering.value tree
    let node ← if concrete then Build.concretize node else pure node
    return (← Build.typingOf node, some node)
  | some typing, none => return (typing, none)
  | none, none => throw (.named name.span .untyped)

def declaredType (type : Option TypeTree) : BuildM (Option Typing) := do
  match type with
  | none => return none
  | some tree => some <$> Build.inMode (← Build.constantMode) (lowering.type tree)

def nameLocal (number : Nat) (meaning : LocalName) : BuildM Unit :=
  modify fun state => { state with localNames := (number, meaning) :: state.localNames }

def nameNode (node : Nat) : BuildM Unit :=
  modify fun state => { state with named := node :: state.named }

def letStatement (name : Ident) (number : Nat) (type : Option TypeTree) (value : ExprTree) :
    BuildM Unit := do
  let (_, node) ← Build.collecting do
    let type ← lowering.declaredType type
    let (typing, node) ← lowering.typeAndValue name type (some value) true
    if typing.type.isDynamic (← Build.structs) then throw (.named name.span .notConstructible)
    if let some node := node then Build.forgetConstant node
    return (typing, node)
  if let some node := node then
    nameLocal number (.runtime (.plain node))
    nameNode node

def constStatement (name : Ident) (number : Nat) (type : Option TypeTree) (value : ExprTree) :
    BuildM Unit := do
  let (_, node) ← Build.collecting <| Build.inMode .localConstant do
    let type ← lowering.declaredType type
    lowering.typeAndValue name type (some value) false
  if let some node := node then
    nameLocal number (.constant node)
    if !(← Build.typeOf node).isAbstract then nameNode node

/-- A local variable. A constant value is its value from the start, unless the variable is
declared in a loop, where it is set anew in every round. -/
def varStatement (inLoop : Bool) (span : Span) (name : Ident) (number : Nat)
    (type : Option TypeTree) (value : Option ExprTree) : BuildM Unit := do
  let (pointer, later) ← Build.collecting do
    let type ← lowering.declaredType type
    let (typing, node) ← lowering.typeAndValue name type value true
    let fixed ← match node with
      | some node => do pure (!inLoop && (← Build.phaseOf node) != .runtime)
      | none => pure false
    let initial := if fixed then node else none
    modify fun state =>
      { state with locals := state.locals.push ⟨typing, initial, span⟩ }
    let pointer ← Build.append (.localVar ((← get).locals.size - 1)) .nowhere
    return (pointer, if fixed then none else node)
  nameLocal number (.runtime (.reference pointer))
  if let some node := later then Build.push span (.store pointer node)

def assertion (condition : ExprTree) : BuildM Unit := do
  let node ← lowering.concreteValue condition
  let span ← Build.spanOf node
  match (← Build.constant? node).bind Value.truth? with
  | some true => return ()
  | some false => throw (.broken span .constAssert)
  | none => throw (.broken span .constBool)

/-! ### Assignments -/

def storedScalar? (pointer : Ty) : Option Scalar := pointer.pointee?.bind Ty.leaf?

/-- Assignment; for a compound one the old value is the left operand. -/
def assign (span : Span) (target : ExprTree) (op : Option BinaryOp) (value : ExprTree) :
    BuildM Unit := do
  let (pointer, value) ← Build.collecting do
    match ← lowering.expression target with
    | .plain _ => throw (.broken target.span .invalidAssignment)
    | .reference pointer =>
      let stored := storedScalar? (← Build.typeOf pointer)
      let goal := match op with
        | some .shiftLeft | some .shiftRight => some Scalar.u32
        | _ => stored
      let value ← lowering.value value
      let value ← match goal with
        | some scalar => Build.convertLeafTo value scalar target.span
        | none => pure value
      match op with
      | none => return (pointer, value)
      | some op =>
        let left ← Build.loaded (.reference pointer)
        let (left, right) ← Build.spread op left value
        return (pointer, ← Build.append (.binary op left right) span)
  Build.push span (.store pointer value)

def stepStatement (span : Span) (target : ExprTree) (op : BinaryOp) : BuildM Unit := do
  let fault := Fault.broken target.span .stepOperand
  let (pointer, value) ← Build.collecting do
    match ← lowering.expression target with
    | .plain _ => throw fault
    | .reference pointer => match (← Build.typeOf pointer).pointee? with
      | some (.scalar scalar) =>
        if scalar.kind = .sint ∨ scalar.kind = .uint then
          let one ← Build.addValue (.literal (.int scalar 1)) .nowhere
          let left ← Build.addTyped (.load pointer) target.span .runtime
          let value ← Build.addTyped (.binary op left one) span .runtime
          return (pointer, value)
        else throw fault
      | _ => throw fault
  Build.push span (.store pointer value)

/-! ### Switches -/

def switchOperand (tree : ExprTree) (fault : Rule) : BuildM Nat := do
  let node ← lowering.value tree
  match ← Build.typeOf node with
  | .scalar scalar =>
    if [Scalar.i32, .u32, .abstractInt].contains scalar then return node
    else throw (.broken tree.span fault)
  | _ => throw (.broken tree.span fault)

def caseValue (tree : ExprTree) (node : Nat) : BuildM CaseValue := do
  match (← Build.written? node).bind Value.literal? with
  | some (.int scalar value) =>
    if scalar = .i32 then return .int value
    else if scalar = .u32 then return .uint value
    else throw (.broken tree.span .switchCase)
  | _ => throw (.broken tree.span .switchCase)

def caseTrees (cases : List CaseTree) : List ExprTree :=
  cases.filterMap fun
    | .mk value _ _ => value

/-- Selector and case values, converted to one type. -/
def switchOperands (selector : ExprTree) (trees : List ExprTree) : BuildM (Nat × List Nat) :=
  Build.collecting do
    let first ← lowering.switchOperand selector .switchSelector
    let others ← trees.mapM fun tree => lowering.switchOperand tree .switchCase
    match ← Build.consensus (first :: others) with
    | .error i =>
      throw (.broken (((selector :: trees)[i]?).map (·.span) |>.getD .nowhere) .switchCase)
    | .ok scalar =>
      let scalar := if scalar = .abstractInt then .i32 else scalar
      let first ← Build.adapt scalar first
      return (first, ← others.mapM (Build.adapt scalar))

/-! ### All statements -/

abbrev BlockLowering := Bool → List StatementTree → BuildM (List Step)

def cases (block : BlockLowering) (inLoop : Bool) : List Nat → List CaseTree →
    BuildM (List SwitchCase)
  | _, [] => return []
  | nodes, .mk none body fallsThrough :: rest => do
    let body ← block inLoop body
    return .mk .default body fallsThrough :: (← cases block inLoop nodes rest)
  | node :: nodes, .mk (some tree) body fallsThrough :: rest => do
    let value ← caseValue tree node
    let body ← block inLoop body
    return .mk value body fallsThrough :: (← cases block inLoop nodes rest)
  | [], .mk (some tree) _ _ :: _ => throw (.broken tree.span .switchCase)

def returnValue (tree : ExprTree) : BuildM Nat :=
  Build.collecting do
    let node ← lowering.value tree
    match (← get).result with
    | some bound => Build.convertTo node bound.typing .nowhere
    | none => return node

def loopStep (block : BlockLowering) (span : Span) (body continuing : List StatementTree)
    (breakIf : Option ExprTree) : BuildM Unit := do
  let body ← block true body
  let continuing ← block true continuing
  let (condition, more) ← Build.innerBlock do
    match breakIf with
    | some tree => some <$> Build.collecting (lowering.concreteValue tree)
    | none => return none
  Build.push span (.loop body (continuing ++ more) condition)

def statement (block : BlockLowering) (inLoop : Bool) (tree : StatementTree) : BuildM Unit := do
  let span := tree.span
  match tree.form with
  | .block body => Build.push span (.block (← block inLoop body))
  | .letLocal name number type value => lowering.letStatement name number type value
  | .constLocal name number type value => lowering.constStatement name number type value
  | .varLocal name number type value =>
    lowering.varStatement inLoop span name number type value
  | .conditional condition accept reject =>
    let condition ← Build.collecting (lowering.concreteValue condition)
    let accept ← block inLoop accept
    let reject ← block inLoop reject
    Build.push span (.conditional condition accept reject)
  | .switch selector trees =>
    let (selector, values) ← lowering.switchOperands selector (caseTrees trees)
    Build.push span (.switch selector (← cases block inLoop values trees))
  | .loop body continuing breakIf => lowering.loopStep block span body continuing breakIf
  | .leaveLoop => Build.push span .leaveLoop
  | .continueLoop => Build.push span .continueLoop
  | .giveBack none => Build.push span (.giveBack none)
  | .giveBack (some value) =>
    let value ← lowering.returnValue value
    Build.push span (.giveBack (some value))
  | .discard => Build.push span .discard
  | .call function arguments =>
    let _ ← Build.collecting (lowering.call function arguments span true)
  | .assign target op value => lowering.assign span target op value
  | .step target op => lowering.stepStatement span target op
  | .phony value =>
    let node ← Build.collecting (lowering.concreteValue value)
    nameNode node
  | .constAssert condition =>
    Build.collecting (Build.inMode .localConstant (lowering.assertion condition))

def blockOfDepth : Nat → BlockLowering
  | 0, _, _ => throw .tooDeep
  | depth + 1, inLoop, body => do
    let ((), steps) ← Build.innerBlock
      (body.forM (lowering.statement (blockOfDepth depth) inLoop))
    return steps

end Lowering

/-! ### The end of a function -/

mutual

/-- Appends a `return` where control can reach the end. -/
def endWithReturn : List Step → List Step
  | [] => [.mk .nowhere (.giveBack none)]
  | [last] => endStep last
  | step :: steps => step :: endWithReturn steps

def endStep : Step → List Step
  | .mk span action => match action with
    | .block body => [.mk span (.block (endWithReturn body))]
    | .conditional condition accept reject =>
      [.mk span (.conditional condition (endWithReturn accept) (endWithReturn reject))]
    | .switch selector cases => [.mk span (.switch selector (endCases cases))]
    | .emit first last => [.mk span (.emit first last)]
    | .leaveLoop => [.mk span .leaveLoop]
    | .continueLoop => [.mk span .continueLoop]
    | .giveBack value => [.mk span (.giveBack value)]
    | .discard => [.mk span .discard]
    | other => [.mk span other, .mk .nowhere (.giveBack none)]

def endCases : List SwitchCase → List SwitchCase
  | [] => []
  | .mk value body fallsThrough :: rest =>
    .mk value (if fallsThrough then body else endWithReturn body) fallsThrough :: endCases rest

end

end ShaderPreview.Wgsl
