import ShaderPreview.Shader.Compilation
import ShaderPreview.Wgsl.Name
import ShaderPreview.Wgsl.Numeral

/-!
# Syntax trees

The syntax of a shader before names and types are resolved, except that local names are resolved by
the parser.
-/

namespace ShaderPreview.Wgsl

open Text

structure Ident where
  name : String
  span : Span
  deriving DecidableEq, Repr, Inhabited

inductive UnaryOp where
  | negate
  | not
  | complement
  deriving DecidableEq, Repr

inductive BinaryOp where
  | add
  | subtract
  | multiply
  | divide
  | modulo
  | equal
  | notEqual
  | less
  | lessEqual
  | greater
  | greaterEqual
  | and
  | exclusiveOr
  | inclusiveOr
  | logicalAnd
  | logicalOr
  | shiftLeft
  | shiftRight
  deriving DecidableEq, Repr, Inhabited

def BinaryOp.label : BinaryOp → String
  | .add => "Add"
  | .subtract => "Subtract"
  | .multiply => "Multiply"
  | .divide => "Divide"
  | .modulo => "Modulo"
  | .equal => "Equal"
  | .notEqual => "NotEqual"
  | .less => "Less"
  | .lessEqual => "LessEqual"
  | .greater => "Greater"
  | .greaterEqual => "GreaterEqual"
  | .and => "And"
  | .exclusiveOr => "ExclusiveOr"
  | .inclusiveOr => "InclusiveOr"
  | .logicalAnd => "LogicalAnd"
  | .logicalOr => "LogicalOr"
  | .shiftLeft => "ShiftLeft"
  | .shiftRight => "ShiftRight"

mutual

inductive TypeTree where
  | scalar (scalar : Scalar)
  | vector (size : Nat) (component : TypeTree) (span : Span)
  | matrix (columns rows : Nat) (component : TypeTree) (span : Span)
  | atomic (scalar : Scalar)
  | pointer (base : TypeTree) (space : AddressSpace)
  /-- Runtime-sized without a length. -/
  | array (base : TypeTree) (size : Option ExprTree)
  | bindingArray (base : TypeTree) (size : Option ExprTree)
  | texture (texture : Texture)
  | sampler (comparison : Bool)
  | accelerationStructure (vertexReturn : Bool)
  | rayQuery (vertexReturn : Bool)
  | rayDescription
  | rayIntersection
  | named (name : Ident)

/-- Constructor call; component types may be inferred from the arguments. -/
inductive ConstructorTree where
  | anyVector (size : Nat)
  | anyMatrix (columns rows : Nat)
  | anyArray
  | full (type : TypeTree)

inductive ExprTree where
  | mk (span : Span) (form : ExprForm)

inductive ExprForm where
  | literal (value : Literal)
  /-- Local variable or parameter, by index. -/
  | localName (number : Nat)
  | name (name : String)
  | construct (constructor : ConstructorTree) (typeSpan : Span) (parts : List ExprTree)
  | unary (op : UnaryOp) (operand : ExprTree)
  | addressOf (operand : ExprTree)
  | dereference (operand : ExprTree)
  | binary (op : BinaryOp) (left right : ExprTree)
  | call (function : Ident) (arguments : List ExprTree)
  | index (base index : ExprTree)
  | member (base : ExprTree) (field : Ident)
  | bitcast (operand : ExprTree) (type : TypeTree) (typeSpan : Span)

end

def ExprTree.span : ExprTree → Span
  | .mk span _ => span

mutual

inductive StatementTree where
  | mk (span : Span) (form : StatementForm)

inductive StatementForm where
  | block (body : List StatementTree)
  | letLocal (name : Ident) (number : Nat) (type : Option TypeTree) (value : ExprTree)
  | constLocal (name : Ident) (number : Nat) (type : Option TypeTree) (value : ExprTree)
  | varLocal (name : Ident) (number : Nat) (type : Option TypeTree) (value : Option ExprTree)
  | conditional (condition : ExprTree) (accept reject : List StatementTree)
  | switch (selector : ExprTree) (cases : List CaseTree)
  | loop (body continuing : List StatementTree) (breakIf : Option ExprTree)
  | leaveLoop
  | continueLoop
  | giveBack (value : Option ExprTree)
  | discard
  | call (function : Ident) (arguments : List ExprTree)
  | assign (target : ExprTree) (op : Option BinaryOp) (value : ExprTree)
  /-- Increment or decrement. -/
  | step (target : ExprTree) (op : BinaryOp)
  | phony (value : ExprTree)
  | constAssert (condition : ExprTree)

/-- Case of a switch; `none` is `default`. With fall-through the body is that of the next case. -/
inductive CaseTree where
  | mk (value : Option ExprTree) (body : List StatementTree) (fallsThrough : Bool)

end

def StatementTree.form : StatementTree → StatementForm
  | .mk _ form => form

def StatementTree.span : StatementTree → Span
  | .mk span _ => span

inductive BindingTree where
  | builtin (builtin : Builtin)
  /-- Location with an optional blend source. -/
  | location (location : ExprTree) (interpolation : Option Interpolation)
      (sampling : Option SamplePlace) (source : Option ExprTree)

structure MemberTree where
  name : Ident
  type : TypeTree
  binding : Option BindingTree
  size : Option ExprTree
  alignment : Option ExprTree

structure ParameterTree where
  name : Ident
  number : Nat
  type : TypeTree
  binding : Option BindingTree

structure EntryTree where
  stage : ShaderStage
  workgroupSize : Option (List ExprTree)
  earlyDepth : Bool

structure FunctionTree where
  name : Ident
  parameters : List ParameterTree
  result : Option (TypeTree × Option BindingTree)
  mustUse : Bool
  body : List StatementTree
  entry : Option EntryTree

structure VariableTree where
  name : Ident
  space : Option AddressSpace
  type : Option TypeTree
  value : Option ExprTree
  group : Option ExprTree
  binding : Option ExprTree

inductive DeclarationForm where
  | function (declared : FunctionTree)
  | global (declared : VariableTree)
  | constant (name : Ident) (type : Option TypeTree) (value : ExprTree)
  | overridable (name : Ident) (id : Option ExprTree) (type : Option TypeTree)
      (value : Option ExprTree)
  | struct (name : Ident) (members : List MemberTree)
  | typeAlias (name : Ident) (type : TypeTree)
  | constAssert (condition : ExprTree)

/-- A declaration with the global names it uses, in order of first use. -/
structure Declaration where
  span : Span
  form : DeclarationForm
  dependencies : List Ident

def DeclarationForm.name? : DeclarationForm → Option Ident
  | .function declared => some declared.name
  | .global declared => some declared.name
  | .constant name _ _ | .overridable name _ _ _ | .struct name _ | .typeAlias name _ => some name
  | .constAssert _ => none

end ShaderPreview.Wgsl
