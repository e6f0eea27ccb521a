import ShaderPreview.Wgsl.Tree.Expression
import ShaderPreview.Wgsl.Tree.Severity

/-!
# Statements

Parsers for statements and function bodies. Braces may be nested only up to a fixed depth.
-/

namespace ShaderPreview.Wgsl

open Text

def maxBraceDepth : Nat := 127

namespace Grammar

def deeper (depth : Nat) (brace : Span) : ReaderM Nat :=
  if maxBraceDepth < depth + 1 then throw (.broken brace .braceNesting) else return depth + 1

def beginsBlock (token : Token) : Bool := token.isMark .attribute || token.isMark (.paren '{')

def statementsToBrace (grammar : Grammar) (depth : Nat) : ReaderM (List StatementTree) := do
  let runs ← Reader.gather do
    if ← Reader.skip (.paren '}') then return none else return some (← grammar.statement depth)
  return runs.flatten

def blockSeverities (first : Nat) : Nat → List SeverityNote → ReaderM (List SeverityNote)
  | 0, _ => throw .tooDeep
  | fuel + 1, notes => do
    if ← Reader.skip .attribute then
      let ident ← Reader.takeIdentifier
      unless ident.name == "diagnostic" do throw (.unexpected ident.span .diagnosticAttribute)
      blockSeverities first fuel (← Reader.noteSeverity true first notes)
    else return notes

def block (grammar : Grammar) (depth : Nat) : ReaderM (List StatementTree × Span) := do
  let first ← Reader.startOffset
  Reader.openScope
  let notes ← blockSeverities first (← get).limit []
  Reader.refuseSeverities "not yet implemented" notes
  let brace ← Reader.expectSpan (.paren '{')
  let inner ← deeper depth brace
  let body ← grammar.statementsToBrace inner
  Reader.closeScope
  return (body, ← Reader.spanFrom first)

/-! ### Assignments and calls -/

def assignmentOperator : Char → BinaryOp
  | '<' => .shiftLeft
  | '>' => .shiftRight
  | '+' => .add
  | '-' => .subtract
  | '*' => .multiply
  | '/' => .divide
  | '%' => .modulo
  | '&' => .and
  | '|' => .inclusiveOr
  | _ => .exclusiveOr

/-- Left-hand side of an assignment. Any word counts as a name. -/
def target (grammar : Grammar) : Nat → ReaderM ExprTree
  | 0 => throw .tooDeep
  | fuel + 1 => do
    let first ← Reader.startOffset
    let (token, span) ← Reader.take
    match token with
    | .mark (.operation '*') =>
      let operand ← target grammar fuel
      return .mk (← Reader.spanFrom first) (.dereference operand)
    | .mark (.operation '&') =>
      let operand ← target grammar fuel
      return .mk (← Reader.spanFrom first) (.addressOf operand)
    | .mark (.paren '(') =>
      let inner ← target grammar fuel
      Reader.expect (.paren ')')
      grammar.accesses first (← get).limit inner
    | .word word =>
      grammar.accesses first (← get).limit (.mk span (← nameUse ⟨word, span⟩))
    | _ => throw (.unexpected span .expression)

def assignment (grammar : Grammar) : ReaderM StatementTree := do
  let first ← Reader.startOffset
  let target ← grammar.target (← get).limit
  let (token, span) ← Reader.take
  let form : StatementForm ← match token with
    | .mark (.operation '=') => .assign target none <$> grammar.expression
    | .mark (.assignment c) => .assign target (some (assignmentOperator c)) <$> grammar.expression
    | .mark .increment => pure (.step target .add)
    | .mark .decrement => pure (.step target .subtract)
    | _ => throw (.unexpected span .assignment)
  return .mk (← Reader.spanFrom first) form

def callOrAssignment (grammar : Grammar) : ReaderM StatementTree := do
  let first ← Reader.startOffset
  let before ← get
  let (token, span) ← Reader.peek
  match token with
  | .word word =>
    let _ ← Reader.take
    if (← Reader.peek).1.isMark (.paren '(') then
      Reader.noteUse ⟨word, span⟩
      let arguments ← grammar.arguments
      return .mk (← Reader.spanFrom first) (.call ⟨word, span⟩ arguments)
    else
      set before
      grammar.assignment
  | _ => grammar.assignment

/-! ### Declarations -/

def typeNote (grammar : Grammar) : ReaderM (Option TypeTree) := do
  if ← Reader.skip (.separator ':') then some <$> grammar.type else return none

def valueNote (grammar : Grammar) : ReaderM (Option ExprTree) := do
  if ← Reader.skip (.operation '=') then some <$> grammar.expression else return none

def localValue (grammar : Grammar)
    (make : Ident → Nat → Option TypeTree → ExprTree → StatementForm) : ReaderM StatementForm := do
  let name ← Reader.takeName
  let type ← grammar.typeNote
  Reader.expect (.operation '=')
  let value ← grammar.expression
  Reader.expect (.separator ';')
  return make name (← Reader.declareLocal name) type value

def localVariable (grammar : Grammar) : ReaderM StatementForm := do
  let name ← Reader.takeName
  let type ← grammar.typeNote
  let value ← grammar.valueNote
  Reader.expect (.separator ';')
  return .varLocal name (← Reader.declareLocal name) type value

/-- `const_assert`; the parentheses are optional. -/
def assertion (grammar : Grammar) : ReaderM ExprTree := do
  let paren ← Reader.skip (.paren '(')
  let condition ← grammar.expression
  if paren then Reader.expect (.paren ')')
  Reader.expect (.separator ';')
  return condition

/-! ### Branches -/

/-- `else if` and `else` branches. -/
def otherwise (grammar : Grammar) (depth : Nat) : Nat → ReaderM (List StatementTree)
  | 0 => throw .tooDeep
  | fuel + 1 => do
    let first ← Reader.startOffset
    if ← Reader.skipWord "else" then
      if ← Reader.skipWord "if" then
        let condition ← grammar.expression
        let (accept, _) ← grammar.block depth
        let reject ← otherwise grammar depth fuel
        return [.mk (← Reader.spanFrom first) (.conditional condition accept reject)]
      else return (← grammar.block depth).1
    else return []

def conditional (grammar : Grammar) (depth : Nat) : ReaderM StatementForm := do
  let condition ← grammar.expression
  let (accept, _) ← grammar.block depth
  let reject ← grammar.otherwise depth (← get).limit
  return .conditional condition accept reject

def caseValue (grammar : Grammar) : ReaderM (Option ExprTree) := do
  if ← Reader.skipWord "default" then return none else some <$> grammar.expression

/-- Selectors of a case, the last one separately: the others fall through to it. A colon may
follow. -/
def caseValues (grammar : Grammar) : Nat → ReaderM (List CaseTree × Option ExprTree)
  | 0 => throw .tooDeep
  | fuel + 1 => do
    let value ← grammar.caseValue
    if ← Reader.skip (.separator ',') then
      if ← Reader.skip (.separator ':') then return ([], value)
      let (others, last) ← caseValues grammar fuel
      return (.mk value [] true :: others, last)
    else
      let _ ← Reader.skip (.separator ':')
      return ([], value)

def switch (grammar : Grammar) (depth : Nat) : ReaderM StatementForm := do
  let selector ← grammar.expression
  let brace ← Reader.expectSpan (.paren '{')
  let inner ← deeper depth brace
  let cases ← Reader.gather do
    let (token, span) ← Reader.take
    if token.isWord "case" then
      let (others, last) ← grammar.caseValues (← get).limit
      let (body, _) ← grammar.block inner
      return some (others ++ [CaseTree.mk last body false])
    else if token.isWord "default" then
      let _ ← Reader.skip (.separator ':')
      let (body, _) ← grammar.block inner
      return some [CaseTree.mk none body false]
    else if token.isMark (.paren '}') then return none
    else throw (.unexpected span .switchItem)
  return .switch selector cases.flatten

/-! ### Loops -/

/-- End of a continuing block, an optional `break if`, with the statements before it. -/
def continuingBody (grammar : Grammar) (depth : Nat) :
    Nat → ReaderM (List StatementTree × Option ExprTree)
  | 0 => throw .tooDeep
  | fuel + 1 => do
    if ← Reader.skipWord "break" then
      Reader.expectWord "if"
      let condition ← grammar.expression
      Reader.expect (.separator ';')
      Reader.expect (.paren '}')
      return ([], some condition)
    else if ← Reader.skip (.paren '}') then return ([], none)
    else
      let statements ← grammar.statement depth
      let (others, breakIf) ← continuingBody grammar depth fuel
      return (statements ++ others, breakIf)

/-- Statements, continuing block and `break if` condition of a loop. -/
def loopBody (grammar : Grammar) (depth : Nat) :
    Nat → ReaderM (List StatementTree × List StatementTree × Option ExprTree)
  | 0 => throw .tooDeep
  | fuel + 1 => do
    if ← Reader.skipWord "continuing" then
      let brace ← Reader.expectSpan (.paren '{')
      let inner ← deeper depth brace
      let (continuing, breakIf) ← grammar.continuingBody inner (← get).limit
      Reader.expect (.paren '}')
      return ([], continuing, breakIf)
    else if ← Reader.skip (.paren '}') then return ([], [], none)
    else
      let statements ← grammar.statement depth
      let (others, continuing, breakIf) ← loopBody grammar depth fuel
      return (statements ++ others, continuing, breakIf)

def loop (grammar : Grammar) (depth : Nat) : ReaderM StatementForm := do
  let brace ← Reader.expectSpan (.paren '{')
  let inner ← deeper depth brace
  Reader.openScope
  let (body, continuing, breakIf) ← grammar.loopBody inner (← get).limit
  Reader.closeScope
  return .loop body continuing breakIf

def leaveUnless (condition : ExprTree) (span : Span) : StatementTree :=
  .mk span (.conditional condition [] [.mk span .leaveLoop])

def whileLoop (grammar : Grammar) (depth : Nat) : ReaderM StatementForm := do
  let (condition, span) ← Reader.spanned grammar.expression
  let (body, bodySpan) ← grammar.block depth
  return .loop [leaveUnless condition span, .mk bodySpan (.block body)] [] none

def startsFor : StatementForm → Bool
  | .call .. | .assign .. => true
  | .letLocal .. | .constLocal .. | .varLocal .. => true
  | _ => false

def forInitializer (grammar : Grammar) (depth : Nat) : ReaderM (List StatementTree) := do
  if ← Reader.skip (.separator ';') then return []
  let (statements, span) ← Reader.spanned (grammar.statement depth)
  match statements.getLast? with
  | some last =>
    if startsFor last.form then return statements else throw (.named span .forInitializer)
  | none => return []

def forCondition (grammar : Grammar) : ReaderM (List StatementTree) := do
  if ← Reader.skip (.separator ';') then return []
  let (condition, span) ← Reader.spanned do
    let condition ← grammar.expression
    Reader.expect (.separator ';')
    return condition
  return [leaveUnless condition span]

def forLoop (grammar : Grammar) (depth : Nat) :
    ReaderM (List StatementTree × StatementForm) := do
  Reader.expect (.paren '(')
  Reader.openScope
  let before ← grammar.forInitializer depth
  let condition ← grammar.forCondition
  let continuing ←
    if ← Reader.skip (.paren ')') then pure []
    else
      let step ← grammar.callOrAssignment
      Reader.expect (.paren ')')
      pure [step]
  let (body, bodySpan) ← grammar.block depth
  Reader.closeScope
  return (before, .loop (condition ++ [.mk bodySpan (.block body)]) continuing none)

/-! ### All statements -/

def bareStatement (form : StatementForm) : ReaderM StatementForm := do
  Reader.expect (.separator ';')
  return form

def breakStatement (keyword : Span) : ReaderM StatementForm := do
  let (token, span) ← Reader.peek
  if token.isWord "if" then throw (.broken ⟨keyword.first, span.last⟩ .breakIf)
  bareStatement .leaveLoop

def returnStatement (grammar : Grammar) : ReaderM StatementForm := do
  let (token, _) ← Reader.peek
  let value ←
    if token.isMark (.separator ';') then pure none else some <$> grammar.expression
  bareStatement (.giveBack value)

def phony (grammar : Grammar) : ReaderM StatementForm := do
  Reader.expect (.operation '=')
  let value ← grammar.expression
  bareStatement (.phony value)

/-- Parser for the rest of a statement after its keyword. -/
def keyword? (grammar : Grammar) (depth : Nat) (span : Span) (word : String) :
    Option (ReaderM (List StatementTree × StatementForm)) :=
  let alone (form : ReaderM StatementForm) := some (([], ·) <$> form)
  match word with
  | "_" => alone grammar.phony
  | "let" => alone (grammar.localValue .letLocal)
  | "const" => alone (grammar.localValue .constLocal)
  | "var" => alone grammar.localVariable
  | "return" => alone grammar.returnStatement
  | "if" => alone (grammar.conditional depth)
  | "switch" => alone (grammar.switch depth)
  | "loop" => alone (grammar.loop depth)
  | "while" => alone (grammar.whileLoop depth)
  | "for" => some (grammar.forLoop depth)
  | "break" => alone (breakStatement span)
  | "continue" => alone (bareStatement .continueLoop)
  | "discard" => alone (bareStatement .discard)
  | "const_assert" => alone (.constAssert <$> grammar.assertion)
  | _ => none

def plainStatement (grammar : Grammar) : ReaderM (List StatementTree) := do
  let statement ← grammar.callOrAssignment
  Reader.expect (.separator ';')
  return [statement]

def statementBody (grammar : Grammar) (depth : Nat) : ReaderM (List StatementTree) := do
  let first ← Reader.startOffset
  let (token, span) ← Reader.peek
  if beginsBlock token then
    let (body, span) ← grammar.block depth
    return [.mk span (.block body)]
  else match token with
    | .mark (.separator ';') =>
      let _ ← Reader.take
      return []
    | .word word => match grammar.keyword? depth span word with
      | some reading =>
        let _ ← Reader.take
        let (before, form) ← reading
        return before ++ [.mk (← Reader.spanFrom first) form]
      | none => grammar.plainStatement
    | _ => grammar.plainStatement

def ofDepth : Nat → Grammar
  | 0 => exhausted
  | depth + 1 =>
    { unary := fun state => (ofDepth depth).unaryBody state
      type := fun state => (ofDepth depth).typeBody state
      statement := fun braces state => (ofDepth depth).statementBody braces state }

end Grammar

def maxNesting : Nat := 255

def Grammar.full : Grammar := .ofDepth maxNesting

end ShaderPreview.Wgsl
