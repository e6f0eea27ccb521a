import ShaderPreview.Manifest.Basic
import ShaderPreview.Text.Blank

/-!
# Manifest validation

Checks on a well-formed manifest: no empty path, no blank title, no empty window. The first
violation is reported, in the order of the settings.
-/

namespace ShaderPreview

inductive ManifestFlaw where
  | emptyShader
  | emptyChannel (channel : Fin channelCount)
  | emptyMesh
  | blankTitle
  | noWidth
  | noHeight
  deriving DecidableEq, Repr

def ManifestFlaw.message : ManifestFlaw → String
  | .emptyShader => "shader path may not be empty"
  | .emptyChannel channel => s!"channels.channel{channel.val} path may not be empty"
  | .emptyMesh => "mesh path may not be empty"
  | .blankTitle => "window.title may not be blank"
  | .noWidth => "window.width must be greater than zero"
  | .noHeight => "window.height must be greater than zero"

def firstEmptyPath? (channels : PerChannel (Option Path)) : Option (Fin channelCount) :=
  (List.finRange channelCount).find? fun i => (channels i).any Path.isEmpty

namespace WindowSettings

/-- The title is present but blank. -/
def hasBlankTitle (window : WindowSettings) : Bool :=
  window.title.any fun title => (Text.trim title.toList).isEmpty

def flaw? (window : WindowSettings) : Option ManifestFlaw :=
  if window.hasBlankTitle then some .blankTitle
  else if window.width = some 0 then some .noWidth
  else if window.height = some 0 then some .noHeight
  else none

end WindowSettings

namespace Manifest

def flaw? (manifest : Manifest) : Option ManifestFlaw :=
  if manifest.shader.isEmpty then some .emptyShader
  else match firstEmptyPath? manifest.channels with
    | some channel => some (.emptyChannel channel)
    | none =>
      if manifest.mesh.any Path.isEmpty then some .emptyMesh else manifest.window.flaw?

def validate (manifest : Manifest) : Except ManifestFlaw Manifest :=
  match manifest.flaw? with
  | some flaw => .error flaw
  | none => .ok manifest

theorem validate_eq_ok {manifest result : Manifest} (h : manifest.validate = .ok result) :
    result = manifest ∧ manifest.flaw? = none := by
  simp only [validate] at h
  split at h
  · simp at h
  · next hf =>
    simp only [Except.ok.injEq] at h
    exact ⟨h.symm, hf⟩

end Manifest

end ShaderPreview
