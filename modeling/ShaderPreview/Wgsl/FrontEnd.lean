import ShaderPreview.Wgsl.Lowering.Module
import ShaderPreview.Wgsl.Validation.Globals
import ShaderPreview.Wgsl.Validation.Steps

/-!
# The front end

The front end of the shading language: parser, lowering and validation. This module also validates
entry points, whose interface values need bindings that fit their type, stage and direction and are
not used twice.
-/

namespace ShaderPreview.Wgsl.Validation

open Text

/-- Stage input or stage output. -/
inductive Direction where
  | into
  | out
  deriving DecidableEq, Repr

/-- Bindings in use. -/
structure Taken where
  locations : List Nat
  builtins : List Builtin
  /-- Blend sources. -/
  sources : List Nat

def Taken.none : Taken := ⟨[], [], []⟩

/-- Drops the parts of a built-in value that do not identify it. -/
def canonical : Builtin → Builtin
  | .position _ => .position false
  | other => other

def maxClipDistances : Nat := 8

def isClipDistances : Ty → Bool
  | .array base (.fixed count) => base.bare = .f32 && count ≤ maxClipDistances
  | _ => false

def builtinRules (builtin : Builtin) (stage : ShaderStage) (direction : Direction)
    (type : Ty) : Bool × Bool :=
  let enters := direction = .into
  match builtin with
  | .instanceIndex | .vertexIndex => (stage = .vertex && enters, type = .u32)
  | .clipDistance => (stage = .vertex && !enters, isClipDistances type)
  | .position _ =>
    ((stage = .vertex && !enters) || (stage = .fragment && enters), type = .vector 4 .f32)
  | .viewIndex => (stage ≠ .compute && enters, type = .i32)
  | .fragDepth => (stage = .fragment && !enters, type = .f32)
  | .frontFacing => (stage = .fragment && enters, type = .bool)
  | .primitiveIndex | .sampleIndex => (stage = .fragment && enters, type = .u32)
  | .sampleMask => (stage = .fragment, type = .u32)
  | .localInvocationIndex | .numSubgroups | .subgroupId =>
    (stage = .compute && enters, type = .u32)
  | .globalInvocationId | .localInvocationId | .workGroupId | .numWorkGroups =>
    (stage = .compute && enters, type = .vector 3 .u32)
  | .subgroupSize | .subgroupInvocationId => (stage ≠ .vertex && enters, type = .u32)

def interpolates (stage : ShaderStage) (direction : Direction) : Bool :=
  (stage = .vertex && direction = .out) || (stage = .fragment && direction = .into)

def checkInterpolation (type : Ty) (needed : Bool) (given : Option Interpolation) :
    Except VaryingCause Unit :=
  match scalarKind? type with
  | some .float => if needed && given.isNone then .error .interpolationMissing else .ok ()
  | some _ => if needed && given != some .flat then .error .interpolation else .ok ()
  | none => .error .type

/-- Reserves a location, or a blend source of location 0. -/
def takeLocation (stage : ShaderStage) (direction : Direction) (taken : Taken) (location : Nat)
    (source : Option Nat) : Except VaryingCause Taken :=
  match source with
  | some source =>
    if stage ≠ .fragment then .error (.sourceStage stage)
    else if direction = .into then .error (.sourceIntoStage stage)
    else if 1 < source ∨ location ≠ 0 then .error (.sourceIndex location source)
    else if taken.sources.contains source then .error (.sourceTaken source)
    else .ok { taken with sources := source :: taken.sources }
  | none =>
    if taken.locations.contains location then .error (.locationTaken location)
    else .ok { taken with locations := location :: taken.locations }

def checkSampling : Option Interpolation → Option SamplePlace → Except VaryingCause Unit
  | some interpolation, some place =>
    if interpolation.admits place then .ok ()
    else .error (.samplingCombination interpolation place)
  | _, _ => .ok ()

def checkBinding (types : TypeContext) (stage : ShaderStage) (direction : Direction)
    (taken : Taken) (type : Ty) : Binding → Except VaryingCause Taken
  | .builtin builtin => do
    if taken.builtins.contains (canonical builtin) then .error (.builtinTwice builtin)
    let (isThere, isRight) := builtinRules builtin stage direction type
    if !isThere then .error (.builtinStage builtin)
    if !isRight then .error (.builtinType builtin)
    return { taken with builtins := canonical builtin :: taken.builtins }
  | .location location interpolation sampling source => do
    if !(types.facts type).stageShared then .error .notShareable
    let taken ← takeLocation stage direction taken location source
    checkSampling interpolation sampling
    checkInterpolation type (interpolates stage direction) interpolation
    return taken

def checkMembers (types : TypeContext) (stage : ShaderStage) (direction : Direction) (index : Nat)
    (taken : Taken) : List StructMember → Except VaryingCause Taken
  | [] => .ok taken
  | member :: members => do
    match member.binding with
    | none => .error (.memberBindingMissing index)
    | some binding =>
      let taken ← checkBinding types stage direction taken member.typing.type binding
      checkMembers types stage direction (index + 1) taken members

/-- Dual source blending: if one member has a blend source, there are exactly two members, with the
two sources and the same type. -/
def checkSources (taken : Taken) (members : List StructMember) : Except VaryingCause Unit :=
  if taken.sources.isEmpty then .ok ()
  else match members with
    | [first, second] =>
      if taken.sources.length ≠ 2 then .error .sourceMissing
      else if first.typing = second.typing then .ok ()
      else .error .sourceTypes
    | _ => .error .sourceMissing

/-- A parameter or result: a bound value, or a structure of bound values. -/
def checkVarying (types : TypeContext) (stage : ShaderStage) (direction : Direction)
    (taken : Taken) (bound : BoundType) : Except (At VaryingCause) Taken :=
  let type := bound.typing.type
  let located (result : Except VaryingCause Taken) : Except (At VaryingCause) Taken :=
    result.mapError (⟨·, types.spanOf type⟩)
  match bound.binding, type with
  | some binding, _ => located (checkBinding types stage direction taken type binding)
  | none, .struct number => located do
    let members := ((types.structs[number]?).map (·.members)).getD []
    let taken ← checkMembers types stage direction 0 taken members
    checkSources taken members
    return taken
  | none, _ => .error ⟨.bindingMissing, .nowhere⟩

def checkParameters (types : TypeContext) (stage : ShaderStage) (index : Nat) (taken : Taken) :
    List BoundType → Except (At EntryCause) Unit
  | [] => .ok ()
  | bound :: rest => do
    let taken ← (checkVarying types stage .into taken bound).mapError
      (·.within (EntryCause.argument index))
    checkParameters types stage (index + 1) taken rest

/-- The result of an entry point; a vertex stage must return a position. -/
def checkResult (types : TypeContext) (stage : ShaderStage) (result : Option BoundType) :
    Except (At EntryCause) Unit := do
  let taken ← match result with
    | some bound =>
      (checkVarying types stage .out .none bound).mapError (·.within EntryCause.result)
    | none => .ok .none
  if stage = .vertex && !taken.builtins.contains (.position false) then
    .error ⟨.positionMissing, .nowhere⟩

def maxWorkgroupSide : Nat := 16384

def checkWorkgroup (entry : Entry) : Except (At EntryCause) Unit :=
  if entry.stage = .compute then
    if entry.workgroupSize.all fun side => side ≠ 0 && side ≤ maxWorkgroupSide then .ok ()
    else .error ⟨.workgroupSize, .nowhere⟩
  else if entry.workgroupSize.all (· = 0) then .ok ()
  else .error ⟨.workgroupSizeUnexpected, .nowhere⟩

def allowedUse (declared : GlobalVariable) : Use :=
  let ofAccess (access : Access) : Use := ⟨access.read, access.write, true, access.atomic⟩
  let type := match declared.typing.type with
    | .bindingArray base _ => base.bare
    | type => type
  match declared.space, type with
  | .storage access, _ => ofAccess access
  | .handle, .texture ⟨_, _, .storage _ _ access⟩ => ofAccess access
  | .priv, _ | .workgroup, _ | .function, _ => ⟨true, true, true, false⟩
  | .uniform, _ | .handle, _ => ⟨true, false, true, false⟩
  | .pushConstant, _ => .read

def Use.isWithin (use allowed : Use) : Bool :=
  (!use.reads || allowed.reads) && (!use.writes || allowed.writes) &&
    (!use.asks || allowed.asks) && (!use.changes || allowed.changes)

def checkUses (taken : List (Nat × Nat)) :
    List (GlobalVariable × Use) → Except (At EntryCause) Unit
  | [] => .ok ()
  | (declared, use) :: rest =>
    if !use.isAny then checkUses taken rest
    else if !Use.isWithin use (allowedUse declared) then .error ⟨.globalUsage, declared.span⟩
    else match declared.binding with
      | some binding =>
        if taken.contains binding then .error ⟨.bindingTaken, declared.span⟩
        else checkUses (binding :: taken) rest
      | none => checkUses taken rest

def checkPushConstants (uses : List (GlobalVariable × Use)) : Except (At EntryCause) Unit :=
  match uses.filter fun entry => entry.1.space = .pushConstant && entry.2.isAny with
  | _ :: second :: _ => .error ⟨.pushConstants, second.1.span⟩
  | _ => .ok ()

def checkEntry (types : TypeContext) (shader : ShaderModule) (callees : Array FunctionFacts)
    (entry : Entry) : Except (At EntryCause) Unit := do
  if entry.earlyDepth && entry.stage ≠ .fragment then .error ⟨.earlyDepth, .nowhere⟩
  checkWorkgroup entry
  let facts ← (checkFunction types shader callees true entry.function).mapError
    (·.within EntryCause.function)
  if !facts.stages.contains entry.stage then .error ⟨.forbiddenOperations, .nowhere⟩
  checkParameters types entry.stage 0 .none entry.function.parameters
  checkResult types entry.stage entry.function.result
  let uses := shader.globals.toList.zip facts.uses.toList
  checkPushConstants uses
  checkUses [] uses

def checkEntries (types : TypeContext) (shader : ShaderModule) (callees : Array FunctionFacts)
    (before : List (ShaderStage × String)) : List Entry → Except Breach Unit
  | [] => .ok ()
  | entry :: entries => do
    let name := entry.function.name
    let wrap := BreachCause.entry name entry.stage
    if before.contains (entry.stage, name) then .error ⟨wrap .conflict, .nowhere⟩
    (checkEntry types shader callees entry).mapError (·.within wrap)
    checkEntries types shader callees ((entry.stage, name) :: before) entries

/-- First validation error: types, then values, then functions, then entry points. -/
def breach? (shader : ShaderModule) : Option Breach :=
  let types := TypeContext.of shader.structs
  typeBreach? types shader <|> globalBreach? types shader <|>
    match checkFunctions types shader with
    | .error breach => some breach
    | .ok callees => match checkEntries types shader callees [] shader.entries.toList with
      | .error breach => some breach
      | .ok () => none

end ShaderPreview.Wgsl.Validation

namespace ShaderPreview.Wgsl

/-- A module with its source text. -/
structure Parsed where
  text : String
  shader : ShaderModule

def frontEnd : FrontEnd where
  Parsed := Parsed
  parse text := ((lowerModule text).map (Parsed.mk text)).mapError (Fault.complaint text)
  entryPoints parsed :=
    parsed.shader.entries.toList.map fun entry => ⟨entry.function.name, entry.stage⟩
  validate parsed := (Validation.breach? parsed.shader).map (Breach.complaint parsed.text)

end ShaderPreview.Wgsl
