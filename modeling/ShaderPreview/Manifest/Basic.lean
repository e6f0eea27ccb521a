import ShaderPreview.Files.Path
import ShaderPreview.Scene.Channel

/-!
# Manifests

The preview manifest (SPEC_FULL.md, section 11.3): shader, channel images, mesh, window settings and
watch flag. Relative paths refer to the directory of the manifest.
-/

namespace ShaderPreview

/-- The `[window]` table. -/
structure WindowSettings where
  title : Option String
  width : Option Nat
  height : Option Nat
  deriving DecidableEq, Repr

def WindowSettings.unset : WindowSettings := ⟨none, none, none⟩

structure Manifest where
  shader : Path
  channels : PerChannel (Option Path)
  mesh : Option Path
  window : WindowSettings
  watch : Bool

namespace Manifest

def channelPath? (manifest : Manifest) (channel : Nat) : Option Path :=
  if h : channel < channelCount then manifest.channels ⟨channel, h⟩ else none

/-- Channels with a path, in channel order. -/
def assigned (manifest : Manifest) : List (Nat × Path) :=
  (List.range channelCount).filterMap fun channel =>
    (manifest.channelPath? channel).map fun path => (channel, path)

def resolve (base : Path) (manifest : Manifest) : Manifest :=
  { manifest with
    shader := base.join manifest.shader
    channels := fun i => (manifest.channels i).map base.join
    mesh := manifest.mesh.map base.join }

@[simp] theorem resolve_window (base : Path) (manifest : Manifest) :
    (manifest.resolve base).window = manifest.window := rfl

@[simp] theorem resolve_watch (base : Path) (manifest : Manifest) :
    (manifest.resolve base).watch = manifest.watch := rfl

end Manifest

end ShaderPreview
