import ShaderPreview.Wgsl.Breach
import ShaderPreview.Wgsl.Validation.Usage

/-!
# Validation of types

Properties of types: storable, constructible, host-shareable, and their alignments. The properties
of a structure follow from those of its members.
-/

namespace ShaderPreview.Wgsl

open Text

/-- Properties of a type. An alignment is `none` if the type has no layout in that address space. -/
structure TypeFacts where
  isData : Bool
  isSized : Bool
  isCopied : Bool
  hostShared : Bool
  stageShared : Bool
  isArgument : Bool
  isConstructible : Bool
  /-- The size does not depend on overrides. -/
  isSettled : Bool
  uniformAlignment : Option Nat
  storageAlignment : Option Nat
  deriving Repr, Inhabited

namespace TypeFacts

def named : TypeFacts :=
  ⟨false, false, false, false, false, true, false, true, some 1, some 1⟩

def plain (alignment : Nat) (shared : Bool) : TypeFacts :=
  ⟨true, true, true, shared, shared, true, true, true, some alignment, some alignment⟩

/-- Minimal alignment of arrays and structures in the uniform address space. -/
def uniformUnit : Nat := 16

def place (offset : Nat) (whole part : Option Nat) : Option Nat :=
  match whole, part with
  | some whole, some part => if offset % part = 0 then some (max whole part) else none
  | _, _ => none

def array (stride : Nat) (length : ArrayLength) (base : TypeFacts) : TypeFacts :=
  let isFixed := match length with
    | .fixed _ => true
    | _ => false
  let isKnown := match length with
    | .dynamic => false
    | _ => true
  let isSettled := match length with
    | .pending _ _ => false
    | _ => true
  { isData := base.isData
    isSized := base.isSized && isKnown
    isCopied := base.isCopied
    hostShared := base.hostShared
    stageShared := false
    isArgument := base.isArgument && isKnown
    isConstructible := base.isConstructible && isFixed
    isSettled := base.isSettled && isSettled
    uniformAlignment := base.uniformAlignment.bind fun alignment =>
      let alignment := max alignment uniformUnit
      if stride % alignment = 0 then some alignment else none
    storageAlignment := base.storageAlignment.bind fun alignment =>
      if stride % alignment = 0 then some alignment else none }

def ofType (structs : StructTable) (known : Array TypeFacts) : Ty → TypeFacts
  | .scalar s => plain s.width (s.kind != .bool)
  | .vector n s => plain (Ty.vectorAlignment n * s.width) (s.kind != .bool)
  | .matrix _ rows s => { plain (Ty.vectorAlignment rows * s.width) true with stageShared := false }
  | .atomic s =>
    { plain s.width true with
      isCopied := false, stageShared := false, isArgument := false, isConstructible := false }
  | .pointer _ space =>
    { named with
      isSized := true, isCopied := true
      isArgument := space = .function || space = .priv }
  | .array base length => array (base.stride structs) length (ofType structs known base)
  | .bindingArray base length =>
    let base := ofType structs known base
    let isKnown := match length with
      | .dynamic => false
      | _ => true
    { named with
      isArgument := false, isSized := base.isSized && isKnown, hostShared := base.hostShared }
  | .struct number => known[number]?.getD named
  | .named _ type => ofType structs known type
  | .rayQuery _ =>
    { named with isData := true, isSized := true, isArgument := false, isConstructible := true }
  | _ => named

structure Gathering where
  facts : TypeFacts
  /-- Size and offset of the preceding member if it is a structure. -/
  before : Option (Nat × Nat)

def addMember (structs : StructTable) (known : Array TypeFacts) (so : Gathering)
    (member : StructMember) : Gathering :=
  let type := member.typing.type
  let part := ofType structs known type
  let whole := so.facts
  let apart := match so.before with
    | some (size, offset) => Ty.roundUp uniformUnit size ≤ member.offset - offset
    | none => true
  let uniform := if part.hostShared && apart then
      place member.offset whole.uniformAlignment part.uniformAlignment
    else none
  let storage := if part.hostShared then
      place member.offset whole.storageAlignment part.storageAlignment
    else none
  { facts :=
      ⟨whole.isData && part.isData, whole.isSized && part.isSized, whole.isCopied && part.isCopied,
        whole.hostShared && part.hostShared, whole.stageShared && part.stageShared,
        whole.isArgument && part.isArgument, whole.isConstructible && part.isConstructible,
        whole.isSettled && part.isSettled,
        uniform, storage⟩
    before := match type with
      | .struct _ => some (type.size structs, member.offset)
      | _ => none }

def ofStruct (structs : StructTable) (known : Array TypeFacts) (declared : StructType) :
    TypeFacts :=
  (declared.members.foldl (addMember structs known)
    ⟨{ plain 1 true with uniformAlignment := some uniformUnit }, none⟩).facts

def table (structs : StructTable) : Array TypeFacts :=
  structs.foldl (fun known declared => known.push (ofStruct structs known declared)) #[]

end TypeFacts

namespace Validation

structure TypeContext where
  structs : StructTable
  known : Array TypeFacts

def TypeContext.of (structs : StructTable) : TypeContext := ⟨structs, TypeFacts.table structs⟩

def TypeContext.facts (context : TypeContext) (type : Ty) : TypeFacts :=
  TypeFacts.ofType context.structs context.known type

def TypeContext.spanOf (context : TypeContext) : Ty → Span
  | .struct number => ((context.structs[number]?).map (·.span)).getD .nowhere
  | _ => .nowhere

variable (context : TypeContext)

def typeIsValid : Ty → Bool
  | .matrix _ _ s => s.kind == .float
  | .scalar s | .vector _ s => !s.isAbstract
  | .atomic s => s.kind == .sint || s.kind == .uint || s == .f32
  | .pointer base space =>
    let facts := context.facts base
    typeIsValid base && facts.isData &&
      (facts.isSized || match space with
        | .storage _ => true
        | _ => false)
  | .array base _ =>
    let facts := context.facts base
    typeIsValid base && facts.isData && facts.isSized
  | .bindingArray base _ =>
    let isStruct := match base.bare with
      | .struct _ => true
      | _ => false
    typeIsValid base && (isStruct || !(context.facts base).isData)
  | .texture t => !(t.arrayed && t.dimension == .d3)
  | .named _ type => typeIsValid type
  | _ => true

def memberIsValid (isLast : Bool) (type : Ty) : Bool :=
  let facts := context.facts type
  let isArray := match type with
    | .array .. => true
    | _ => false
  typeIsValid context type && facts.isData && (facts.isSized || (isArray && isLast))

def membersAreValid : List StructMember → Bool
  | [] => true
  | [member] => memberIsValid context true member.typing.type
  | member :: members => memberIsValid context false member.typing.type && membersAreValid members

def structBreach? (declared : StructType) : Option Breach :=
  match declared.members.find? fun member => !typeIsValid context member.typing.type with
  | some member => some ⟨.type (member.typing.label context.structs), .nowhere⟩
  | none =>
    if declared.members.isEmpty || !membersAreValid context declared.members then
      some ⟨.type declared.name, declared.span⟩
    else none

def declaredBreach? (typing : Typing) : Option Breach :=
  match typing.type with
  | .struct number => (context.structs[number]?).bind (structBreach? context)
  | type =>
    if typeIsValid context type then none
    else some ⟨.type (typing.label context.structs), .nowhere⟩

def namedType? : Op → Option Typing
  | .value (.zero typing) | .value (.compose typing _) | .compose typing _
  | .atomicResult typing | .workgroupLoad typing | .subgroupResult typing => some typing
  | _ => none

def functionTypes (function : Function) : List Typing :=
  let used := function.used
  function.parameters.map (·.typing) ++ function.result.toList.map (·.typing) ++
    function.locals.toList.map (·.typing) ++
    function.nodes.toList.zipIdx.filterMap fun entry =>
      if used.getD entry.2 false then namedType? entry.1.op else none

/-- Types that occur outside structures; abstract constants are skipped. -/
def mentionedTypes (shader : ShaderModule) : List Typing :=
  (shader.constants.toList.map (·.typing)).filter (!·.type.isAbstract) ++
    shader.overridables.toList.map (·.typing) ++ shader.globals.toList.map (·.typing) ++
    shader.functions.toList.flatMap functionTypes ++
    shader.entries.toList.flatMap (functionTypes ·.function)

def typeBreach? (shader : ShaderModule) : Option Breach :=
  (shader.types.toList ++ mentionedTypes shader).findSome? (declaredBreach? context)

end Validation

end ShaderPreview.Wgsl
