import ShaderPreview.Wgsl.Lowering.Statement
import ShaderPreview.Wgsl.Order
import ShaderPreview.Wgsl.Tree.Module

/-!
# Lowering modules

Lowers the declarations of a text in dependency order.
-/

namespace ShaderPreview.Wgsl

open Text

namespace Lowering

variable (lowering : Lowering)

def nameGlobal (name : Ident) (meaning : Named) : BuildM Unit :=
  modify fun state => { state with names := (name.name, meaning) :: state.names }

def modifyShader (change : ShaderModule → ShaderModule) : BuildM Unit :=
  modify fun state => { state with shader := change state.shader }

def withFreshNodes {α : Type} (mode : Mode) (step : BuildM α) : BuildM α := do
  modify fun state => { state with nodes := #[], pending := none, steps := [], mode := mode }
  step

/-- Interface binding. By default floating point values are interpolated and integers are flat. -/
def binding (type : Ty) : Option BindingTree → BuildM (Option Binding)
  | none => return none
  | some (.builtin builtin) => return some (.builtin builtin)
  | some (.location location interpolation sampling source) => do
    let source ← match source with
      | some tree => some <$> Build.inMode .constant (lowering.constantNat tree .nonNegative)
      | none => pure none
    let number ← Build.inMode .constant (lowering.constantNat location .nonNegative)
    let assumed := match type.leaf?.map (·.kind) with
      | some .float => some Interpolation.perspective
      | some .sint | some .uint => some .flat
      | _ => none
    return some (.location number (interpolation.or assumed) sampling source)

def initializer (node : Option Nat) : BuildM (Option Initializer) := do
  let nodes := (← get).nodes
  return node.map fun root => ⟨nodes, root⟩

/-! ### Structures -/

def memberSize (least : Nat) : Option ExprTree → BuildM Nat
  | none => return least
  | some tree => do
    let size ← lowering.constantNat tree .nonNegative
    if size < least then
      Build.failAt tree.span s!"struct member size must be at least {least}"
    else return size

def isPowerOfTwo (n : Nat) : Bool := n ≠ 0 && twoTo n.log2 = n

def memberAlignment (least : Nat) : Option ExprTree → BuildM Nat
  | none => return least
  | some tree => do
    let alignment ← lowering.constantNat tree .nonNegative
    if !isPowerOfTwo alignment then throw (.broken tree.span .alignmentPower)
    else if alignment < least then
      Build.failAt tree.span s!"struct member alignment must be at least {least}"
    else return alignment

/-- Members of a structure (the latest first), size and alignment so far. -/
structure Layout where
  members : List StructMember
  last : Nat
  alignment : Nat

def addMember (layout : Layout) (tree : MemberTree) : BuildM Layout := do
  let typing ← lowering.type tree.type
  let structs ← Build.structs
  let size ← lowering.memberSize (typing.type.size structs) tree.size
  let alignment ← lowering.memberAlignment (typing.type.alignment structs) tree.alignment
  let binding ← lowering.binding typing.type tree.binding
  let offset := Ty.roundUp alignment layout.last
  return ⟨⟨tree.name.name, typing, binding, offset⟩ :: layout.members, offset + size,
    max layout.alignment alignment⟩

def structType (span : Span) (name : Ident) (members : List MemberTree) : BuildM Unit := do
  let layout ← members.foldlM lowering.addMember ⟨[], 0, 1⟩
  let declared : StructType :=
    ⟨name.name, layout.members.reverse, Ty.roundUp layout.alignment layout.last,
      layout.alignment, span⟩
  let typing : Typing := ⟨.struct (← Build.structs).size, none⟩
  modifyShader fun shader => { shader with
    structs := shader.structs.push declared, types := shader.types.push typing }
  nameGlobal name (.type typing)

def typeAlias (name : Ident) (tree : TypeTree) : BuildM Unit := do
  let typing ← lowering.type tree
  let hasName := match tree, typing.type with
    | .named _, _ | _, .struct _ => true
    | _, _ => false
  let typing := if hasName then typing else ⟨typing.type, some name.name⟩
  if !hasName then modifyShader fun shader => { shader with types := shader.types.push typing }
  nameGlobal name (.type typing)

/-! ### Values -/

def constant (span : Span) (name : Ident) (type : Option TypeTree) (value : ExprTree) :
    BuildM Unit := do
  let type ← lowering.declaredType type
  let (typing, node) ← lowering.typeAndValue name type (some value) false
  if let some node := node then
    if let some value := ← Build.constant? node then
      let initial : Initializer := ⟨(← get).nodes, node⟩
      let number := (← get).shader.constants.size
      modifyShader fun shader => { shader with
        constants := shader.constants.push ⟨name.name, value, typing, initial, span⟩ }
      nameGlobal name (.constant number)

def overridable (span : Span) (name : Ident) (id : Option ExprTree) (type : Option TypeTree)
    (value : Option ExprTree) : BuildM Unit := do
  let type ← Build.inMode .constant (lowering.declaredType type)
  let (typing, node) ← lowering.typeAndValue name type value true
  let initial ← initializer node
  let id ← match id with
    | none => pure none
    | some tree => do
      let number ← Build.inMode .constant (lowering.constantNat tree .nonNegative)
      if number < 65536 then pure (some number) else throw (.broken tree.span .pipelineId)
  let number := (← get).shader.overridables.size
  modifyShader fun shader => { shader with
    overridables := shader.overridables.push ⟨some name.name, id, typing, initial, span⟩ }
  nameGlobal name (.overridable number)

def moduleVariable (span : Span) (tree : VariableTree) : BuildM Unit := do
  let type ← Build.inMode .constant (lowering.declaredType tree.type)
  let (typing, node) ← lowering.typeAndValue tree.name type tree.value true
  let initial ← initializer node
  let binding ← match tree.group, tree.binding with
    | some group, some binding => Build.inMode .constant do
      let group ← lowering.constantNat group .nonNegative
      pure (some (group, ← lowering.constantNat binding .nonNegative))
    | _, _ => pure none
  let number := (← get).shader.globals.size
  modifyShader fun shader => { shader with
    globals := shader.globals.push
      ⟨tree.name.name, typing, tree.space.getD .handle, binding, initial, span⟩ }
  nameGlobal tree.name (.global number)

/-! ### Functions -/

def boundType (type : TypeTree) (binding : Option BindingTree) : BuildM BoundType := do
  let typing ← Build.inMode .constant (lowering.type type)
  return ⟨typing, ← lowering.binding typing.type binding⟩

def parameter (tree : ParameterTree) : BuildM Unit := do
  let bound ← lowering.boundType tree.type tree.binding
  let number := (← get).parameters.length
  modify fun state => { state with parameters := state.parameters ++ [bound] }
  let node ← Build.addNode ⟨.parameter number, bound.typing, tree.name.span, .runtime⟩
  nameLocal tree.number (.runtime (.plain node))

/-- Workgroup size; missing sides and sides given by overrides count as 1. -/
def workgroupSize (sides : List ExprTree) : BuildM (List Nat) := do
  let given ← sides.mapM fun side => constantOr
    (Build.inMode .constant (lowering.constantNat side .nonNegative))
    (do
      let _ ← lowering.pendingInteger side
      return 1)
  return given ++ List.replicate (3 - given.length) 1

def function (depth : Nat) (span : Span) (tree : FunctionTree) : BuildM Unit := do
  modify fun state => { state with
    parameters := [], result := none, locals := #[], localNames := [], named := [] }
  tree.parameters.forM lowering.parameter
  let result ← match tree.result with
    | none => pure none
    | some (type, binding) => some <$> lowering.boundType type binding
  modify fun state => { state with result := result, mode := .runtime }
  let body ← lowering.blockOfDepth depth false tree.body
  let state ← get
  let built : Function :=
    { name := tree.name.name, parameters := state.parameters, result := result,
      nodes := state.nodes, locals := state.locals, named := state.named,
      body := endWithReturn body, mustUse := tree.mustUse, span := span }
  match tree.entry with
  | some entry =>
    let sides ← match entry.workgroupSize with
      | some sides => lowering.workgroupSize sides
      | none => pure [0, 0, 0]
    modifyShader fun shader => { shader with
      entries := shader.entries.push ⟨entry.stage, entry.earlyDepth, sides, built⟩ }
    nameGlobal tree.name .entryPoint
  | none =>
    let number := (← get).shader.functions.size
    modifyShader fun shader => { shader with functions := shader.functions.push built }
    nameGlobal tree.name (.function number)

/-! ### All declarations -/

def declaration (depth : Nat) (declared : Declaration) : BuildM Unit :=
  let span := declared.span
  match declared.form with
  | .function tree => withFreshNodes .constant (lowering.function depth span tree)
  | .global tree => withFreshNodes .overridable (lowering.moduleVariable span tree)
  | .constant name type value =>
    withFreshNodes .constant (lowering.constant span name type value)
  | .overridable name id type value =>
    withFreshNodes .overridable (lowering.overridable span name id type value)
  | .struct name members => withFreshNodes .constant (lowering.structType span name members)
  | .typeAlias name type => withFreshNodes .constant (lowering.typeAlias name type)
  | .constAssert condition => withFreshNodes .constant (lowering.assertion condition)

def module (depth : Nat) (declarations : List Declaration) : Except Fault ShaderModule := do
  let declarations ← inOrder declarations
  let ((), built) ← (declarations.forM ((ofDepth depth).declaration depth)).run Build.start
  return built.shader

end Lowering

/-- Lowers a text; the recursion depth is bounded by its length. -/
def lowerModule (text : String) : Except Fault ShaderModule := do
  let declarations ← readModule text
  Lowering.module (text.length + 2) declarations

end ShaderPreview.Wgsl
