import ShaderPreview.Wgsl.Fault
import ShaderPreview.Wgsl.Reserved
import ShaderPreview.Wgsl.Tree

/-!
# Parser infrastructure

The parser monad over the tokens of a text, with the local scopes and the global names used so far.

The end of the last token is kept separately from the current position: an optional token that is
skipped does not extend the span of the current tree.
-/

namespace ShaderPreview.Wgsl

open Text

/-- Local names with their indices in the function. -/
abbrev Scope := List (String × Nat)

/-- Parser state. -/
structure ReaderState where
  rest : List Char
  /-- Bound on the number of iterations; exceeds the length of the text. -/
  limit : Nat
  /-- Byte offset of `rest`. -/
  offset : Nat
  /-- End of the last token taken. -/
  lastEnd : Nat
  /-- Scopes, innermost first. -/
  scopes : List Scope
  /-- Whether local names resolve; false in a parameter list. -/
  localsVisible : Bool
  localCount : Nat
  /-- Global names used by the declaration, the latest first. -/
  used : List Ident
  /-- Inside a template list `<` and `>` are not operators. -/
  inTemplate : Bool
  enabled : List String

abbrev ReaderM := StateT ReaderState (Except Fault)

namespace Reader

def start (text : String) : ReaderState :=
  let characters := text.toList
  ⟨characters, characters.length + 1, 0, 0, [], true, 0, [], false, []⟩

/-- Skips blanks and comments; returns the state and the next token. -/
def settle (template : Bool) : Nat → ReaderState → ReaderState × Token × ReaderState
  | 0, state => (state, .finish, state)
  | fuel + 1, state =>
    let lexeme := Lexeme.scan template state.rest
    let after := { state with rest := lexeme.rest, offset := state.offset + lexeme.size }
    match lexeme.token with
    | none => settle template fuel after
    | some token => (state, token, after)

def ahead (template : Bool) (state : ReaderState) : ReaderState × Token × Span × ReaderState :=
  let (before, token, after) := settle template state.limit state
  (before, token, ⟨before.offset, after.offset⟩, after)

def peek : ReaderM (Token × Span) := do
  let (_, token, span, _) := ahead false (← get)
  return (token, span)

def next (template : Bool) : ReaderM (Token × Span) := do
  let (_, token, span, after) := ahead template (← get)
  set { after with lastEnd := after.offset }
  return (token, span)

def take : ReaderM (Token × Span) := next false

def skipIf (wanted : Token → Bool) : ReaderM Bool := do
  let state ← get
  let (_, token, _, after) := ahead false state
  if wanted token then
    set { after with lastEnd := state.lastEnd }
    return true
  else return false

def skip (mark : Mark) : ReaderM Bool := skipIf (·.isMark mark)

def skipWord (word : String) : ReaderM Bool := skipIf (·.isWord word)

def expectSpan (mark : Mark) : ReaderM Span := do
  let (token, span) ← take
  if token.isMark mark then return span
  else throw (.unexpected span (.mark mark))

def expect (mark : Mark) : ReaderM Unit := do
  let _ ← expectSpan mark

def expectWord (word : String) : ReaderM Unit := do
  let (token, span) ← take
  unless token.isWord word do throw (.unexpected span (.word word))

def expectAngle (c : Char) : ReaderM Unit := do
  let (token, span) ← next true
  unless token.isMark (.paren c) do throw (.unexpected span (.mark (.paren c)))

def startOffset : ReaderM Nat := do
  let (before, _, _, _) := ahead false (← get)
  set before
  return before.offset

def spanFrom (first : Nat) : ReaderM Span := do return ⟨first, (← get).lastEnd⟩

/-- Span of what a step reads, including leading blanks. -/
def spanned {α : Type} (step : ReaderM α) : ReaderM (α × Span) := do
  let first := (← get).offset
  let value ← step
  return (value, ⟨first, (← get).offset⟩)

def identifier (word : String) (span : Span) : ReaderM Ident :=
  if word == "_" then throw (.broken span .underscore)
  else if word.startsWith "__" then throw (.named span .reservedPrefix)
  else return ⟨word, span⟩

def takeIdentifier : ReaderM Ident := do
  let (token, span) ← take
  match token with
  | .word word => identifier word span
  | _ => throw (.unexpected span .identifier)

def takeName : ReaderM Ident := do
  let ident ← takeIdentifier
  if isReserved ident.name then throw (.named ident.span .reservedKeyword)
  return ident

def anotherArgument : ReaderM Bool := do
  if ← skip (.separator ',') then
    let (token, _) ← peek
    return !token.isMark (.paren '>')
  else return false

def nextArgument : ReaderM Bool := do
  if ← skip (.separator ',') then return !(← skip (.paren ')'))
  else
    expect (.paren ')')
    return false

def closeArguments : ReaderM Unit := do
  let _ ← skip (.separator ',')
  expect (.paren ')')

def within {α : Type} (template : Bool) (step : ReaderM α) : ReaderM α := do
  let outer := (← get).inTemplate
  modify ({ · with inTemplate := template })
  let value ← step
  modify ({ · with inTemplate := outer })
  return value

/-- Repeats a step until it gives nothing. Every other step takes a token, so the length of the text
bounds the number of steps. -/
def gatherFrom {α : Type} (step : ReaderM (Option α)) : Nat → ReaderM (List α)
  | 0 => throw .tooDeep
  | fuel + 1 => do
    match ← step with
    | none => return []
    | some value => return value :: (← gatherFrom step fuel)

def gather {α : Type} (step : ReaderM (Option α)) : ReaderM (List α) := do
  gatherFrom step (← get).limit

/-! ### Names -/

def noteUse (ident : Ident) : ReaderM Unit :=
  modify fun state =>
    if state.used.any (·.name == ident.name) then state
    else { state with used := ident :: state.used }

def localNumber? (name : String) : ReaderM (Option Nat) := do
  let state ← get
  return if state.localsVisible then state.scopes.findSome? (·.lookup name) else none

def declareLocal (ident : Ident) : ReaderM Nat := do
  let state ← get
  match state.scopes with
  | [] => return 0
  | scope :: outer =>
    if (scope.lookup ident.name).isSome then throw (.named ident.span .redefinition)
    set { state with
      scopes := ((ident.name, state.localCount) :: scope) :: outer
      localCount := state.localCount + 1 }
    return state.localCount

def openScope : ReaderM Unit := modify fun state => { state with scopes := [] :: state.scopes }

def closeScope : ReaderM Unit :=
  modify fun state => { state with scopes := state.scopes.drop 1 }

/-! ### Attributes -/

/-- Sets an attribute; a duplicate is an error. -/
def once {α : Type} (current : Option α) (value : α) (span : Span) : ReaderM (Option α) :=
  match current with
  | some _ => throw (.named span .repeatedAttribute)
  | none => return some value

def requireEnabled (extension : String) (span : Span) : ReaderM Unit := do
  unless (← get).enabled.contains extension do
    throw ⟨.extensionNotEnabled extension, some span⟩

def scalarOf? (word : String) (span : Span) : ReaderM (Option Scalar) := do
  match Scalar.ofWord? word with
  | some scalar =>
    if scalar = .f16 then requireEnabled "f16" span
    return some scalar
  | none => return none

end Reader

/-- The mutually recursive parsers at a given depth. -/
structure Grammar where
  unary : ReaderM ExprTree
  type : ReaderM TypeTree
  statement : Nat → ReaderM (List StatementTree)

def Grammar.exhausted : Grammar := ⟨throw .tooDeep, throw .tooDeep, fun _ => throw .tooDeep⟩

end ShaderPreview.Wgsl
