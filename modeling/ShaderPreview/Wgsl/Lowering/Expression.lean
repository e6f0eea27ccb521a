import ShaderPreview.Wgsl.Lowering.Call

/-!
# Lowering expressions

An expression is a value or a reference. References are loaded where a value is needed; members and
elements of a reference are references.
-/

namespace ShaderPreview.Wgsl

open Text

namespace Lowering

variable (lowering : Lowering)

def localName (number : Nat) (span : Span) : BuildM Spot := do
  let state ← get
  match state.mode, state.localNames.lookup number with
  | .runtime, some (.runtime spot) => return spot
  | .runtime, some (.constant node) | .localConstant, some (.constant node) => return .plain node
  | _, _ => throw (.broken span .constContext)

/-- Resolves a global name. At module scope a constant keeps the span of its initialiser. -/
def globalName (name : String) (span : Span) : BuildM Spot := do
  let state ← get
  match state.names.lookup name with
  | none => throw (.named span .unknownIdentifier)
  | some (.global number) =>
    let node ← Build.append (.global number) span
    match state.shader.globals[number]? with
    | some declared => return if declared.space = .handle then .plain node else .reference node
    | none => return .plain node
  | some (.constant number) => match state.shader.constants[number]? with
    | some declared =>
      let (typing, span) := if state.mode.isLocal then (declared.typing, span)
        else (declared.value.typing, declared.initial.span)
      return .plain (← Build.addNode ⟨.value declared.value, typing, span, .constant⟩)
    | none => throw (.named span .unknownIdentifier)
  | some (.overridable number) => return .plain (← Build.append (.overridable number) span)
  | some _ => throw (.unexpected span .variable)

/-! ### Operators -/

def agreeing (op : BinaryOp) (left right : Nat) (span : Span) : BuildM Nat := do
  match ← Build.consensus [left, right] with
  | .ok scalar =>
    let left ← Build.adapt scalar left
    let right ← Build.adapt scalar right
    Build.append (.binary op left right) span
  | .error _ => Build.append (.binary op left right) span

def shift (op : BinaryOp) (left right : Nat) (span : Span) : BuildM Nat := do
  let right ← Build.convertLeafTo right .u32 span
  let left ← if (← Build.phaseOf right) = .constant then pure left else Build.concretize left
  Build.append (.binary op left right) span

/-- `&&` and `||`: the right operand is evaluated in a branch, and the result is a local
variable. -/
def shortCircuit (op : BinaryOp) (left : Nat) (right : ExprTree) (span : Span) : BuildM Spot := do
  modify fun state =>
    { state with locals := state.locals.push ⟨⟨.bool, none⟩, none, .nowhere⟩ }
  let result ← Build.append (.localVar ((← get).locals.size - 1)) span
  let condition ← if op = .logicalAnd then pure left else Build.append (.unary .not left) span
  Build.finish
  let (_, accept) ← Build.innerBlock do
    let value ← Build.collecting (lowering.value right)
    Build.push span (.store result value)
  let decided ← Build.addValue (.literal (.bool (op = .logicalOr))) span
  Build.push span (.conditional condition accept [.mk span (.store result decided)])
  Build.collect
  return .reference result

def logical (op : BinaryOp) (left right : ExprTree) (span : Span) : BuildM Spot := do
  let first ← lowering.value left
  if (← get).mode = .runtime && (← Build.typeOf first) = .bool then
    lowering.shortCircuit op first right span
  else
    let second ← lowering.value right
    return .plain (← Build.append (.binary op first second) span)

def binary (op : BinaryOp) (left right : ExprTree) (span : Span) : BuildM Spot := do
  if op = .logicalAnd ∨ op = .logicalOr then lowering.logical op left right span
  else
    let first ← lowering.value left
    let second ← lowering.value right
    let (first, second) ← Build.spread op first second
    if op = .shiftLeft ∨ op = .shiftRight then .plain <$> shift op first second span
    else .plain <$> agreeing op first second span

/-! ### References -/

def addressOf (operand : ExprTree) (span : Span) : BuildM Spot := do
  match ← lowering.expression operand with
  | .plain _ => throw (.broken span .addressOperand)
  | .reference node =>
    let state ← get
    let base := match (state.nodes[node]?).map (·.op) with
      | some (.access base _) | some (.component base _) => some base
      | _ => none
    match base with
    | none => return .plain node
    | some base => match (← Build.typeOf base).pointee? with
      | some (.vector _ _) => throw (.broken (← Build.spanOf node) .componentAddress)
      | _ => return .plain node

def dereference (operand : ExprTree) (span : Span) : BuildM Spot := do
  let pointer ← lowering.concreteValue operand
  if (← Build.typeOf pointer).pointee?.isSome then return .reference pointer
  else throw (.broken span .pointerOperand)

def element (base index : ExprTree) (span : Span) : BuildM Spot := do
  let spot ← lowering.expression base
  let index ← lowering.concreteValue index
  let spot ← Build.asReference spot
  match (← Build.constant? index).bind Value.index? with
  | some (some i) =>
    let node ← Build.append (.component (Build.nodeOf spot) i) span
    return Build.sameKind node spot
  | _ =>
    let base ← Build.concretize (Build.nodeOf spot)
    let node ← Build.append (.access base index) span
    return Build.sameKind node spot

def componentPlaces? (letters : List Char) (name : List Char) : Option (List Nat) :=
  name.mapM letters.idxOf?

def components? (name : String) : Option (List Nat) :=
  let letters := name.toList
  if letters.isEmpty || 4 < letters.length then none
  else (componentPlaces? ['x', 'y', 'z', 'w'] letters).or
    (componentPlaces? ['r', 'g', 'b', 'a'] letters)

/-- Member access or swizzle. -/
def member (base : ExprTree) (field : Ident) (span : Span) : BuildM Spot := do
  let spot ← Build.asReference (← lowering.expression base)
  let type ← Build.typeOf (Build.nodeOf spot)
  let reach (index : Nat) : BuildM Spot := do
    return Build.sameKind (← Build.append (.component (Build.nodeOf spot) index) span) spot
  match (type.pointee?).getD type with
  | .struct number =>
    let members := (((← Build.structs)[number]?).map (·.members)).getD []
    match members.findIdx? (·.name == field.name) with
    | some index => reach index
    | none => throw (.named field.span .accessor)
  | .vector _ _ => match components? field.name with
    | some [index] => reach index
    | some pattern =>
      return .plain (← Build.append (.swizzle (← Build.loaded spot) pattern) span)
    | none => throw (.named field.span .accessor)
  | _ => throw (.named field.span .accessor)

/-! ### All expressions -/

def bitcast (operand : ExprTree) (type : TypeTree) (typeSpan span : Span) : BuildM Spot := do
  let node ← lowering.concreteValue operand
  let goal ← Build.inMode (← Build.constantMode) (lowering.type type)
  match goal.type.component? with
  | some scalar => return .plain (← Build.append (.cast node scalar false) span)
  | none =>
    let label ← Build.label node
    Build.failAt typeSpan s!"cannot cast a {label} to a {goal.label (← Build.structs)}"

def expressionBody (tree : ExprTree) : BuildM Spot :=
  let span := tree.span
  match tree with
  | .mk _ form => match form with
    | .literal literal => do return .plain (← Build.addValue (.literal literal) span)
    | .localName number => localName number span
    | .name name => globalName name span
    | .construct constructor typeSpan parts => do
      let constructor ← Build.inMode (← Build.constantMode) (lowering.constructor constructor)
      return .plain (← lowering.construct constructor typeSpan parts span)
    | .unary op operand => do
      return .plain (← Build.append (.unary op (← lowering.value operand)) span)
    | .addressOf operand => lowering.addressOf operand span
    | .dereference operand => lowering.dereference operand span
    | .binary op left right => lowering.binary op left right span
    | .call function arguments => do
      match ← lowering.call function arguments span false with
      | some node => return .plain node
      | none => throw (.broken function.span .resultMissing)
    | .index base index => lowering.element base index span
    | .member base field => lowering.member base field span
    | .bitcast operand type typeSpan => lowering.bitcast operand type typeSpan span

def ofDepth : Nat → Lowering
  | 0 => exhausted
  | depth + 1 =>
    { expression := fun tree state => (ofDepth depth).expressionBody tree state
      type := fun tree state => (ofDepth depth).typeBody tree state }

end Lowering

end ShaderPreview.Wgsl
