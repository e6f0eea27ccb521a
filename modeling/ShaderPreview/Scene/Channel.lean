import ShaderPreview.Failure

/-!
# Texture channels

The four texture channels (SPEC_FULL.md, section 3), each with an optional image in row-major RGBA,
eight bits per component.
-/

namespace ShaderPreview

def channelCount : Nat := 4

abbrev PerChannel (α : Type) := Fin channelCount → α

namespace PerChannel

variable {α β : Type}

def toList (values : PerChannel α) : List α := (List.finRange channelCount).map values

def set (values : PerChannel α) (channel : Fin channelCount) (value : α) : PerChannel α :=
  fun other => if other = channel then value else values other

def occupancy (values : PerChannel (Option α)) : PerChannel Bool := fun i => (values i).isSome

def populated (values : PerChannel (Option α)) : List (Fin channelCount × α) :=
  (List.finRange channelCount).filterMap fun i => (values i).map fun value => (i, value)

def empty : PerChannel (Option α) := fun _ => none

@[simp] theorem set_same (values : PerChannel α) (i : Fin channelCount) (value : α) :
    set values i value i = value := by simp [set]

theorem set_other (values : PerChannel α) {i j : Fin channelCount} (value : α) (h : j ≠ i) :
    set values i value j = values j := by simp [set, h]

end PerChannel

inductive ChannelFault where
  | emptyImage (width height : Nat)
  | pixelCount (width height found expected : Nat)
  | noSuchChannel (channel : Nat)
  deriving DecidableEq, Repr

def ChannelFault.message : ChannelFault → String
  | .emptyImage width height => s!"channel image must not be empty ({width}x{height})"
  | .pixelCount width height found expected =>
    s!"channel image is {width}x{height} but carries {found} bytes (expected {expected})"
  | .noSuchChannel channel =>
    s!"channel {channel} exceeds supported channel count ({channelCount})"

def ChannelFault.failure (fault : ChannelFault) : Failure := .of fault.message

/-- Decoded RGBA image of one channel. -/
structure ChannelImage where
  width : Nat
  height : Nat
  pixels : List UInt8
  deriving DecidableEq, Repr

/-- Checks that both sides are positive and the data has four bytes per pixel. -/
def ChannelImage.of (width height : Nat) (pixels : List UInt8) :
    Except ChannelFault ChannelImage :=
  let expected := width * height * 4
  if width = 0 ∨ height = 0 then .error (.emptyImage width height)
  else if pixels.length ≠ expected then
    .error (.pixelCount width height pixels.length expected)
  else .ok ⟨width, height, pixels⟩

/-- Debug rendering; the pixel data is replaced by its length. -/
def ChannelImage.debug (image : ChannelImage) : String :=
  s!"ChannelImage \x7b width: {image.width}, height: {image.height}, " ++
    s!"bytes: {image.pixels.length} \x7d"

abbrev ChannelMap := PerChannel (Option ChannelImage)

namespace ChannelMap

def assign (map : ChannelMap) (channel : Nat) (image : ChannelImage) :
    Except ChannelFault ChannelMap :=
  if h : channel < channelCount then .ok (PerChannel.set map ⟨channel, h⟩ (some image))
  else .error (.noSuchChannel channel)

def get? (map : ChannelMap) (channel : Nat) : Option ChannelImage :=
  if h : channel < channelCount then map ⟨channel, h⟩ else none

def isPopulated (map : ChannelMap) (channel : Nat) : Bool := (map.get? channel).isSome

theorem get?_assign {map result : ChannelMap} {channel : Nat} {image : ChannelImage}
    (h : map.assign channel image = .ok result) : result.get? channel = some image := by
  simp only [assign] at h
  split at h
  · next hc =>
    simp only [Except.ok.injEq] at h
    subst h
    simp [get?, hc]
  · simp at h

end ChannelMap

end ShaderPreview
