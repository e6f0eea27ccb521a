import ShaderPreview.Wgsl.Validation.Nodes
import ShaderPreview.Wgsl.Validation.Usage

/-!
# Validation of constants and global variables

Constants must have values of their types; a variable must fit its address space.
-/

namespace ShaderPreview.Wgsl.Validation

variable (context : TypeContext)

def initialType? (initial : Initializer) : Option Ty :=
  (initial.nodes[initial.root]?).map (·.type)

def initialFlaw? (shader : ShaderModule) (initial : Initializer) : Option Text.Span :=
  let nodes : NodeContext := ⟨context, initial.nodes, shader⟩
  let used := usedFrom initial.nodes [initial.root]
  (initial.nodes.toList.zipIdx.find? fun entry => used.getD entry.2 false &&
    match entry.1.op with
      | .value value => !value.isWellFormed context.structs
      | _ => false).map fun entry => flawSpan nodes entry.1

/-- First ill-formed constant or initialiser. Constants of abstract types are skipped. -/
def valueFlaw? (shader : ShaderModule) : Option Breach :=
  let constants := (shader.constants.toList.filter (!·.typing.type.isAbstract)).map fun declared =>
    (BreachCause.constant declared.name, declared.initial)
  let overridables := shader.overridables.toList.filterMap fun declared =>
    declared.initial.map (BreachCause.overridable (declared.name.getD ""), ·)
  let globals := shader.globals.toList.filterMap fun declared =>
    declared.initial.map (BreachCause.global declared.name, ·)
  (constants ++ overridables ++ globals).findSome? fun (cause, initial) =>
    (initialFlaw? context shader initial).map (⟨cause, ·⟩)

def constantIsValid (declared : ConstantValue) : Bool :=
  let type := declared.typing.type
  type.isAbstract || (declared.value.type.same type && (context.facts type).isConstructible)

def overridableIsValid (declared : OverridableValue) : Bool :=
  let type := declared.typing.type
  let isScalar := match type with
    | .scalar _ => true
    | _ => false
  isScalar && (match declared.initial with
    | some initial => initialType? initial = some type
    | none => true)

def idIsTaken (before : List OverridableValue) (declared : OverridableValue) : Bool :=
  declared.id.isSome && before.any (·.id = declared.id)

def firstOverridable? (before : List OverridableValue) :
    List OverridableValue → Option OverridableValue
  | [] => none
  | declared :: rest =>
    if idIsTaken before declared || !overridableIsValid declared then some declared
    else firstOverridable? (declared :: before) rest

def isResourceSpace : AddressSpace → Bool
  | .uniform | .storage _ | .handle => true
  | _ => false

def isHandle : Ty → Bool
  | .texture _ | .sampler _ | .accelerationStructure _ | .rayQuery _ => true
  | _ => false

def fitsSpace (space : AddressSpace) (type : Ty) : Bool :=
  let facts := context.facts type
  match space with
  | .function => false
  | .storage access =>
    facts.storageAlignment.isSome && access.read && facts.isData && facts.hostShared &&
      facts.isSettled
  | .uniform =>
    facts.uniformAlignment.isSome && facts.isData && facts.isCopied && facts.isSized &&
      facts.hostShared && facts.isSettled
  | .handle => isHandle type
  | .priv => facts.isConstructible
  | .workgroup => facts.isData && facts.isSized
  | .pushConstant => facts.isData && facts.isCopied && facts.hostShared && facts.isSized

def globalIsValid (declared : GlobalVariable) : Bool :=
  let type := match declared.typing.type with
    | .bindingArray base _ => base.bare
    | other => other
  fitsSpace context declared.space type &&
    isResourceSpace declared.space == declared.binding.isSome &&
    (match declared.initial with
      | some initial =>
        declared.space = .priv && initialType? initial = some declared.typing.type
      | none => true)

def globalBreach? (shader : ShaderModule) : Option Breach :=
  valueFlaw? context shader <|>
    (shader.constants.toList.find? (!constantIsValid context ·)).map
      (fun declared => ⟨.constant declared.name, declared.span⟩) <|>
    (firstOverridable? [] shader.overridables.toList).map
      (fun declared => ⟨.overridable (declared.name.getD ""), declared.span⟩) <|>
    (shader.globals.toList.find? (!globalIsValid context ·)).map
      fun declared => ⟨.global declared.name, declared.span⟩

end ShaderPreview.Wgsl.Validation
