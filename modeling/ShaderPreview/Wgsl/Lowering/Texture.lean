import ShaderPreview.Wgsl.Lowering.Arguments

/-!
# Texture operations

Calls that sample, load, store or query a texture. The arguments after the coordinates depend on the
texture: array index, level of detail, sample index.
-/

namespace ShaderPreview.Wgsl

open Text

namespace Lowering

variable (lowering : Lowering)

abbrev TextureArgument := Nat × Span

def textureArgument : ArgumentM TextureArgument := do
  let tree ← takeArgument
  return (← lowering.concreteValue tree, tree.span)

def textureOf (argument : TextureArgument) : BuildM Texture := do
  match ← Build.typeOf argument.1 with
  | .texture texture => return texture
  | _ => throw (.named argument.2 .notImage)

def layerArgument (texture : Texture) : ArgumentM (Option Nat) := do
  if texture.arrayed then
    needArgument
    some <$> lowering.concreteArgument
  else return none

/-! ### Reading through a sampler -/

/-- Sampling functions with the minimal number of arguments. -/
def samplingFunctions : List (String × Nat) :=
  [("textureGather", 3), ("textureGatherCompare", 4), ("textureSample", 3),
   ("textureSampleBias", 5), ("textureSampleCompare", 5), ("textureSampleCompareLevel", 5),
   ("textureSampleGrad", 6), ("textureSampleLevel", 5), ("textureSampleBaseClampToEdge", 3)]

def gatherComponent (node : Nat) (span callSpan : Span) : BuildM Nat := do
  if (← get).mode ≠ .runtime then throw (.broken callSpan .constContext)
  match (← Build.constant? node).bind Value.index? with
  | some (some component) =>
    if component < 4 then return component else throw (.named span .gatherComponent)
  | some none => throw (.broken span .nonNegative)
  | none => throw (.broken span .constInteger)

/-- Takes the texture of a sampling call, and the component that is gathered. A component comes
first, unless the texture holds depths. -/
def sampledTexture (name : String) (span : Span) : ArgumentM (TextureArgument × Option Nat) := do
  let first ← lowering.textureArgument
  match name with
  | "textureGather" => match ← Build.typeOf first.1 with
    | .texture ⟨_, _, .depth _⟩ => return (first, some 0)
    | _ =>
      let texture ← lowering.textureArgument
      return (texture, some (← gatherComponent first.1 first.2 span))
  | "textureGatherCompare" => return (first, some 0)
  | _ => return (first, none)

/-- Level of detail and depth reference. -/
def levelArguments (name : String) (texture : Texture) :
    ArgumentM (DetailLevel × Option Nat) := do
  match name with
  | "textureSample" => return (.automatic, none)
  | "textureSampleBias" => return (.bias (← lowering.leafArgument .f32), none)
  | "textureSampleCompare" => return (.automatic, some (← lowering.leafArgument .f32))
  | "textureSampleCompareLevel" | "textureGatherCompare" =>
    return (.zero, some (← lowering.leafArgument .f32))
  | "textureSampleGrad" =>
    let x ← lowering.leafArgument .f32
    return (.gradient x (← lowering.leafArgument .f32), none)
  | "textureSampleLevel" => match texture.content with
    | .sampled .. => return (.exact (← lowering.leafArgument .f32), none)
    | _ => return (.exact (← lowering.concreteArgument), none)
  | _ => return (.zero, none)

def offsetArgument : ArgumentM (Option Nat) := do
  match ← takeArgument? with
  | some tree =>
    some <$> do Build.inMode (← Build.constantMode) (lowering.leafValue tree .i32)
  | none => return none

def samplingCall (name : String) (span : Span) : ArgumentM Op := do
  let (argument, gather) ← lowering.sampledTexture name span
  let sampler ← lowering.concreteArgument
  let coordinate ← lowering.leafArgument .f32
  let texture ← textureOf argument
  let layer ← lowering.layerArgument texture
  let (level, reference) ← lowering.levelArguments name texture
  let offset ← lowering.offsetArgument
  return .sample
    { texture := argument.1, sampler := sampler, coordinate := coordinate, layer := layer,
      offset := offset, level := level, reference := reference, gather := gather,
      clamps := name == "textureSampleBaseClampToEdge" }

/-! ### Texels -/

/-- Texture, texel coordinate and array index. -/
def texelArguments : ArgumentM (TextureArgument × Texture × Nat × Option Nat) := do
  let argument ← lowering.textureArgument
  let coordinate ← lowering.concreteArgument
  let texture ← textureOf argument
  return (argument, texture, coordinate, ← lowering.layerArgument texture)

def textureLoadCall : ArgumentM Op := do
  let (argument, texture, coordinate, layer) ← lowering.texelArguments
  match texture.content with
  | .sampled _ true | .depth true =>
    return .textureLoad argument.1 coordinate layer (some (← lowering.concreteArgument)) none
  | .storage .. => return .textureLoad argument.1 coordinate layer none none
  | _ =>
    needArgument
    return .textureLoad argument.1 coordinate layer none (some (← lowering.concreteArgument))

def textureStoreCall : ArgumentM Action := do
  let (argument, texture, coordinate, layer) ← lowering.texelArguments
  match texture.content with
  | .storage kind format _ =>
    let value ← lowering.leafArgument (Ty.storageScalar kind format)
    return .textureStore argument.1 coordinate layer value
  | _ => throw (.broken argument.2 .storageTexture)

/-- Texture atomics; the flag marks minimum and maximum. -/
def textureAtomicFunctions : List (String × Bool) :=
  [("textureAtomicMin", true), ("textureAtomicMax", true), ("textureAtomicAdd", false),
   ("textureAtomicAnd", false), ("textureAtomicOr", false), ("textureAtomicXor", false)]

def textureAtomicCall (isExtreme : Bool) : ArgumentM Action := do
  let (argument, _, coordinate, layer) ← lowering.texelArguments
  let value ← lowering.concreteArgument
  return .textureAtomic argument.1 coordinate layer isExtreme value

/-! ### Questions -/

def queryCall? (name : String) : Option (ArgumentM Op) :=
  let plain (query : TextureQuery) : Option (ArgumentM Op) := some do
    return .textureQuery (← lowering.concreteArgument) query
  match name with
  | "textureDimensions" => some do
    let texture ← lowering.concreteArgument
    let level ← match ← takeArgument? with
      | some tree => some <$> lowering.concreteValue tree
      | none => pure none
    return .textureQuery texture (.size level)
  | "textureNumLevels" => plain .levels
  | "textureNumLayers" => plain .layers
  | "textureNumSamples" => plain .samples
  | _ => none

end Lowering

end ShaderPreview.Wgsl
