import ShaderPreview.Manifest.Basic
import ShaderPreview.Manifest.Schema
import ShaderPreview.Toml.Document

/-!
# Manifest schema

The keys of a manifest document. `shader` is required, which is checked after all other keys.
-/

namespace ShaderPreview

namespace Manifest

def asPath (item : Toml.Item) : Fitted Path := Path.mk <$> asText "path string" item

def channelKey (channel : Fin channelCount) : String := s!"channel{channel.val}"

def channelSchema : Schema (PerChannel (Option Path)) where
  name := "struct ChannelPaths"
  fields := (List.finRange channelCount).map fun i =>
    ⟨channelKey i, fun item paths => (fun path => paths.set i (some path)) <$> asPath item⟩

def windowSchema : Schema WindowSettings where
  name := "struct WindowSettings"
  fields :=
    [⟨"title", fun item window =>
      (fun title => { window with title := some title }) <$> asText "a string" item⟩,
     ⟨"width", fun item window =>
      (fun width => { window with width := some width }) <$> asWord32 item⟩,
     ⟨"height", fun item window =>
      (fun height => { window with height := some height }) <$> asWord32 item⟩]

/-- A manifest whose `shader` key may still be missing. -/
structure Draft where
  shader : Option Path
  channels : PerChannel (Option Path)
  mesh : Option Path
  window : WindowSettings
  watch : Bool

def Draft.empty : Draft := ⟨none, .empty, none, .unset, false⟩

/-- Keys of the top-level table. -/
def schema : Schema Draft where
  name := "struct PreviewManifest"
  fields :=
    [⟨"shader", fun item draft =>
      (fun path => { draft with shader := some path }) <$> asPath item⟩,
     ⟨"channels", fun item draft =>
      (fun paths => { draft with channels := paths }) <$> channelSchema.fit .empty item⟩,
     ⟨"mesh", fun item draft =>
      (fun path => { draft with mesh := some path }) <$> asPath item⟩,
     ⟨"window", fun item draft =>
      (fun window => { draft with window := window }) <$> windowSchema.fit .unset item⟩,
     ⟨"watch", fun item draft =>
      (fun watch => { draft with watch := watch }) <$> asTruth item⟩]

def Draft.finish (draft : Draft) : Fitted Manifest :=
  match draft.shader with
  | some shader => .ok ⟨shader, draft.channels, draft.mesh, draft.window, draft.watch⟩
  | none => .error (.missingKey "shader")

def ofEntries (entries : Toml.Entries) : Fitted Manifest := do
  (← schema.fit Draft.empty (.table .header entries)).finish

end Manifest

end ShaderPreview
