import ShaderPreview.Wgsl.Tree.Reader

/-!
# Expressions and types

Types, constructor calls and expressions are mutually recursive. The parsers take the `Grammar` of
the next depth as a parameter.
-/

namespace ShaderPreview.Wgsl

open Text

namespace Grammar

/-! ### Operators -/

/-- Precedence level: the operator of a token, depending on whether the parser is in a template
list. -/
abbrev Level := Bool → Mark → Option BinaryOp

def plainLevel (operators : List (Mark × BinaryOp)) : Level := fun _ mark => operators.lookup mark

/-- The token may be part of a template list. -/
def isAngle : Mark → Bool
  | .paren _ => true
  | .logical c | .shift c => c = '>'
  | _ => false

/-- Level whose operators are not recognised inside a template list. -/
def angleLevel (operators : List (Mark × BinaryOp)) : Level := fun template mark =>
  if template && isAngle mark then none else operators.lookup mark

/-- Precedence levels, loosest first. -/
def levels : List Level :=
  [plainLevel [(.logical '|', .logicalOr)],
   plainLevel [(.logical '&', .logicalAnd)],
   plainLevel [(.operation '|', .inclusiveOr)],
   plainLevel [(.operation '^', .exclusiveOr)],
   plainLevel [(.operation '&', .and)],
   plainLevel [(.logical '=', .equal), (.logical '!', .notEqual)],
   angleLevel [(.paren '<', .less), (.paren '>', .greater), (.logical '<', .lessEqual),
     (.logical '>', .greaterEqual)],
   angleLevel [(.shift '<', .shiftLeft), (.shift '>', .shiftRight)],
   plainLevel [(.operation '+', .add), (.operation '-', .subtract)],
   plainLevel [(.operation '*', .multiply), (.operation '/', .divide),
     (.operation '%', .modulo)]]

def nextOperator? (level : Level) : ReaderM (Option BinaryOp) := do
  match (← Reader.peek).1 with
  | .mark mark => match level (← get).inTemplate mark with
    | some op =>
      let _ ← Reader.take
      return some op
    | none => return none
  | _ => return none

/-- Left-associative operands of a level. -/
def readOperands (level : Level) (operand : ReaderM ExprTree) (first : Nat) :
    Nat → ExprTree → ReaderM ExprTree
  | 0, _ => throw .tooDeep
  | fuel + 1, left => do
    match ← nextOperator? level with
    | none => return left
    | some op =>
      let right ← operand
      readOperands level operand first fuel (.mk (← Reader.spanFrom first) (.binary op left right))

def binary (grammar : Grammar) : List Level → ReaderM ExprTree
  | [] => grammar.unary
  | level :: tighter => do
    let first ← Reader.startOffset
    let left ← binary grammar tighter
    readOperands level (binary grammar tighter) first (← get).limit left

def expression (grammar : Grammar) : ReaderM ExprTree := binary grammar levels

/-- Expression in parentheses or brackets, which suspends template lists. -/
def enclosed (grammar : Grammar) : ReaderM ExprTree := Reader.within false grammar.expression

def templateArgument (grammar : Grammar) : ReaderM ExprTree :=
  Reader.within true grammar.expression

def arguments (grammar : Grammar) : ReaderM (List ExprTree) := do
  Reader.expect (.paren '(')
  if ← Reader.skip (.paren ')') then return []
  let first ← grammar.enclosed
  let others ← Reader.gather do
    if ← Reader.nextArgument then return some (← grammar.enclosed) else return none
  return first :: others

/-! ### Types -/

def singleTemplateType (grammar : Grammar) : ReaderM (TypeTree × Span) := do
  Reader.expectAngle '<'
  let first ← Reader.startOffset
  let type ← grammar.type
  let span ← Reader.spanFrom first
  let _ ← Reader.skip (.separator ',')
  Reader.expectAngle '>'
  return (type, span)

def elementAndSize (grammar : Grammar) (sizeReading : ReaderM ExprTree) :
    ReaderM (TypeTree × Option ExprTree) := do
  Reader.expectAngle '<'
  let base ← grammar.type
  let size ←
    if ← Reader.anotherArgument then
      let size ← sizeReading
      let _ ← Reader.skip (.separator ',')
      pure (some size)
    else pure none
  Reader.expectAngle '>'
  return (base, size)

def scalarArgument : ReaderM (Scalar × Span) := do
  Reader.expectAngle '<'
  let (token, span) ← Reader.take
  match token with
  | .word word => match ← Reader.scalarOf? word span with
    | some scalar =>
      Reader.expectAngle '>'
      return (scalar, span)
    | none => throw (.named span .unknownScalarType)
  | _ => throw (.named span .unknownScalarType)

def access : ReaderM Access := do
  let ident ← Reader.takeIdentifier
  match Access.ofWord? ident.name with
  | some access => return access
  | none => throw (.named ident.span .unknownAccess)

def pointer (grammar : Grammar) : ReaderM TypeTree := do
  Reader.expectAngle '<'
  let ident ← Reader.takeIdentifier
  match AddressSpace.ofWord? ident.name with
  | none => throw (.named ident.span .unknownAddressSpace)
  | some space =>
    Reader.expect (.separator ',')
    let base ← grammar.type
    let space ← match space with
      | .storage _ =>
        if ← Reader.anotherArgument then
          let mode ← access
          let _ ← Reader.skip (.separator ',')
          pure (.storage mode)
        else pure (.storage .readOnly)
      | other => pure other
    Reader.expectAngle '>'
    return .pointer base space

def sampledTexture (dimension : Dimension) (arrayed multisampled : Bool) : ReaderM TypeTree := do
  let (scalar, span) ← scalarArgument
  unless [Scalar.f32, .i32, .u32, .u64].contains scalar do
    throw ⟨.other s!"texture sample type must be one of f32, i32 or u32, but found {scalar.label}",
      some span⟩
  return .texture ⟨dimension, arrayed, .sampled scalar.kind multisampled⟩

def storageTexture (dimension : Dimension) (arrayed : Bool) : ReaderM TypeTree := do
  Reader.expect (.paren '<')
  let format ← Reader.takeIdentifier
  match storageFormats.lookup format.name with
  | none => throw (.named format.span .unknownFormat)
  | some kind =>
    Reader.expect (.separator ',')
    let mode ← access
    Reader.expect (.paren '>')
    return .texture ⟨dimension, arrayed, .storage kind format.name mode⟩

def vertexReturn : ReaderM Bool := do
  if ← Reader.skip (.paren '<') then
    let ident ← Reader.takeIdentifier
    unless ident.name == "vertex_return" do throw (.named ident.span .unknownAttribute)
    Reader.expect (.paren '>')
    return true
  else return false

/-- Vector or matrix type, with or without a component suffix. -/
def withComponent (grammar : Grammar) (scalar : Option Scalar)
    (make : TypeTree → Span → TypeTree) : ReaderM TypeTree :=
  match scalar with
  | some scalar => return make (.scalar scalar) .nowhere
  | none => do
    let (component, span) ← grammar.singleTemplateType
    return make component span

def predeclaredType? (grammar : Grammar) (word : String) (span : Span) :
    ReaderM (Option TypeTree) := do
  if let some scalar ← Reader.scalarOf? word span then return some (.scalar scalar)
  if let some (size, scalar) := vectorName? word then
    return some (← grammar.withComponent scalar (.vector size))
  if let some (columns, rows, scalar) := matrixName? word then
    return some (← grammar.withComponent scalar (.matrix columns rows))
  if let some (dimension, arrayed, multisampled) := sampledTextures.lookup word then
    return some (← sampledTexture dimension arrayed multisampled)
  if let some texture := depthTextures.lookup word then return some (.texture texture)
  if let some (dimension, arrayed) := storageTextures.lookup word then
    return some (← storageTexture dimension arrayed)
  match word with
  | "atomic" => return some (.atomic (← scalarArgument).1)
  | "ptr" => return some (← grammar.pointer)
  | "array" =>
    let (base, size) ← grammar.elementAndSize grammar.templateArgument
    return some (.array base size)
  | "binding_array" =>
    let (base, size) ← grammar.elementAndSize grammar.unary
    return some (.bindingArray base size)
  | "sampler" => return some (.sampler false)
  | "sampler_comparison" => return some (.sampler true)
  | "acceleration_structure" => return some (.accelerationStructure (← vertexReturn))
  | "ray_query" => return some (.rayQuery (← vertexReturn))
  | "RayDesc" => return some .rayDescription
  | "RayIntersection" => return some .rayIntersection
  | _ => return none

def typeBody (grammar : Grammar) : ReaderM TypeTree := do
  let ident ← Reader.takeIdentifier
  match ← grammar.predeclaredType? ident.name ident.span with
  | some type => return type
  | none =>
    Reader.noteUse ident
    return .named ident

/-! ### Operands -/

def constructor? (grammar : Grammar) (word : String) (span : Span) :
    ReaderM (Option ConstructorTree) := do
  if let some scalar ← Reader.scalarOf? word span then return some (.full (.scalar scalar))
  let template := (← Reader.peek).1.isMark (.paren '<')
  if let some (size, scalar) := vectorName? word then
    if scalar.isNone && !template then return some (.anyVector size)
    return some (.full (← grammar.withComponent scalar (.vector size)))
  if let some (columns, rows, scalar) := matrixName? word then
    if scalar.isNone && !template then return some (.anyMatrix columns rows)
    return some (.full (← grammar.withComponent scalar (.matrix columns rows)))
  if word == "array" then
    if !template then return some .anyArray
    let (base, size) ← grammar.elementAndSize grammar.templateArgument
    return some (.full (.array base size))
  if opaqueTypeWords.contains word then throw (.named span .notConstructible)
  return none

def functionCall (grammar : Grammar) (name : Ident) : ReaderM ExprForm := do
  if name.name == "bitcast" then
    let (type, typeSpan) ← grammar.singleTemplateType
    Reader.expect (.paren '(')
    let operand ← grammar.expression
    Reader.closeArguments
    return .bitcast operand type typeSpan
  else
    let arguments ← grammar.arguments
    Reader.noteUse name
    return .call name arguments

def nameUse (name : Ident) : ReaderM ExprForm := do
  match ← Reader.localNumber? name.name with
  | some number => return .localName number
  | none =>
    Reader.noteUse name
    return .name name.name

def wordExpression (grammar : Grammar) (word : String) (span : Span) : ReaderM ExprForm := do
  match ← grammar.constructor? word span with
  | some constructor =>
    let typeSpan ← Reader.spanFrom span.first
    return .construct constructor typeSpan (← grammar.arguments)
  | none =>
    if (← Reader.peek).1.isMark (.paren '(') || word == "bitcast" then
      grammar.functionCall ⟨word, span⟩
    else nameUse ⟨word, span⟩

def numeralLiteral (value : Numeral.Reading) (span : Span) : ReaderM Literal := do
  match value with
  | .error fault => throw ⟨.numeral fault, some span⟩
  | .ok literal =>
    if literal.scalar = .f16 then Reader.requireEnabled "f16" span
    return literal

def primary (grammar : Grammar) : ReaderM ExprTree := do
  let first ← Reader.startOffset
  let (token, span) ← Reader.take
  let form : ExprForm ← match token with
    | .mark (.paren '(') =>
      let inner ← grammar.enclosed
      Reader.expect (.paren ')')
      return inner
    | .word "true" => pure (.literal (.bool true))
    | .word "false" => pure (.literal (.bool false))
    | .number value => .literal <$> numeralLiteral value span
    | .word word => match rayConstants.lookup word with
      | some value => pure (.literal (.int .u32 value))
      | none => grammar.wordExpression word span
    | _ => throw (.unexpected span .expression)
  return .mk (← Reader.spanFrom first) form

def accesses (grammar : Grammar) (first : Nat) : Nat → ExprTree → ReaderM ExprTree
  | 0, _ => throw .tooDeep
  | fuel + 1, base => do
    if (← Reader.peek).1.isMark (.separator '.') then
      let _ ← Reader.take
      let field ← Reader.takeName
      accesses grammar first fuel (.mk (← Reader.spanFrom first) (.member base field))
    else if (← Reader.peek).1.isMark (.paren '[') then
      let _ ← Reader.take
      let index ← grammar.enclosed
      Reader.expect (.paren ']')
      accesses grammar first fuel (.mk (← Reader.spanFrom first) (.index base index))
    else return base

def prefixForm? : Token → Option (ExprTree → ExprForm)
  | .mark (.operation '-') => some (.unary .negate)
  | .mark (.operation '!') => some (.unary .not)
  | .mark (.operation '~') => some (.unary .complement)
  | .mark (.operation '*') => some .dereference
  | .mark (.operation '&') => some .addressOf
  | _ => none

/-- Unary operators and postfix accesses. -/
def unaryBody (grammar : Grammar) : ReaderM ExprTree := do
  let first ← Reader.startOffset
  match prefixForm? (← Reader.peek).1 with
  | some form =>
    let _ ← Reader.take
    let operand ← grammar.unary
    return .mk (← Reader.spanFrom first) (form operand)
  | none =>
    let operand ← grammar.primary
    grammar.accesses first (← get).limit operand

end Grammar

end ShaderPreview.Wgsl
