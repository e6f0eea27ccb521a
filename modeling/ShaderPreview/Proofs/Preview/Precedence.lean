import ShaderPreview.Preview.Settings

/-!
# Precedence of settings

Most settings are taken as a whole from the arguments, the manifest or the defaults. The sides of
the window come one by one from the manifest unless the arguments give a size; channels are merged
one by one.
-/

namespace ShaderPreview

def lastAssigned? (channel : Nat) (assignments : List ChannelAssignment) : Option Path :=
  (assignments.filter (·.1 = channel)).getLast?.map (·.2)

theorem lastAssigned?_cons_same (channel : Nat) (path : Path)
    (assignments : List ChannelAssignment) :
    lastAssigned? channel ((channel, path) :: assignments) =
      (lastAssigned? channel assignments).or (some path) := by
  unfold lastAssigned?
  rw [List.filter_cons_of_pos (by simp), List.getLast?_cons]
  cases (assignments.filter (·.1 = channel)).getLast? <;> rfl

theorem lastAssigned?_cons_other {channel other : Nat} (path : Path)
    (assignments : List ChannelAssignment) (h : other ≠ channel) :
    lastAssigned? channel ((other, path) :: assignments) = lastAssigned? channel assignments := by
  unfold lastAssigned?
  rw [List.filter_cons_of_neg (by simpa using h)]

theorem mem_of_lastAssigned? {channel : Nat} {path : Path} {assignments : List ChannelAssignment}
    (h : lastAssigned? channel assignments = some path) : (channel, path) ∈ assignments := by
  obtain ⟨entry, hlast, rfl⟩ := Option.map_eq_some_iff.1 h
  obtain ⟨hmem, hchannel⟩ := List.mem_filter.1 (List.mem_of_getLast? hlast)
  obtain rfl := of_decide_eq_true hchannel
  exact hmem

namespace ChannelPaths

theorem getElem?_insertMany (paths : ChannelPaths) (assignments : List ChannelAssignment)
    (channel : Nat) :
    (paths.insertMany assignments)[channel]? =
      (lastAssigned? channel assignments).or paths[channel]? := by
  induction assignments generalizing paths with
  | nil => rfl
  | cons entry assignments ih =>
    obtain ⟨other, path⟩ := entry
    rw [Std.ExtTreeMap.insertMany_cons, ih, Std.ExtTreeMap.getElem?_insert]
    by_cases heq : other = channel
    · subst heq
      rw [if_pos Std.ReflCmp.compare_self, lastAssigned?_cons_same, Option.or_assoc,
        Option.some_or]
    · rw [if_neg (by simpa using heq), lastAssigned?_cons_other path assignments heq]

theorem insertMany_reordered (paths : ChannelPaths) {assignments reordered : List ChannelAssignment}
    (h : ∀ channel, reordered.filter (·.1 = channel) = assignments.filter (·.1 = channel)) :
    paths.insertMany reordered = paths.insertMany assignments := by
  refine Std.ExtTreeMap.ext_getElem? fun channel => ?_
  rw [getElem?_insertMany, getElem?_insertMany, lastAssigned?, h channel]
  rfl

end ChannelPaths

namespace Manifest

variable {manifest : Manifest} {channel : Nat} {path : Path}

theorem channelPath?_fin (channel : Fin channelCount) :
    manifest.channelPath? channel = manifest.channels channel := by
  simp only [channelPath?, channel.isLt, dif_pos]

theorem channelPath?_of_le (h : channelCount ≤ channel) : manifest.channelPath? channel = none := by
  rw [channelPath?, dif_neg (Nat.not_lt.2 h)]

theorem lt_of_channelPath? (h : manifest.channelPath? channel = some path) :
    channel < channelCount := by
  unfold channelPath? at h
  split at h
  · assumption
  · cases h

theorem mem_assigned :
    (channel, path) ∈ manifest.assigned ↔ manifest.channelPath? channel = some path := by
  unfold assigned
  simp only [List.mem_filterMap, List.mem_range, Option.map_eq_some_iff, Prod.mk.injEq]
  constructor
  · rintro ⟨_, _, _, hpath, rfl, rfl⟩
    exact hpath
  · intro hpath
    exact ⟨channel, lt_of_channelPath? hpath, path, hpath, rfl, rfl⟩

theorem assigned_ascending (manifest : Manifest) : manifest.assigned.Pairwise (·.1 < ·.1) := by
  refine List.pairwise_lt_range.filterMap _ fun channel other hlt entry hentry later hlater => ?_
  obtain ⟨_, _, rfl⟩ := Option.map_eq_some_iff.1 hentry
  obtain ⟨_, _, rfl⟩ := Option.map_eq_some_iff.1 hlater
  exact hlt

theorem getElem?_channelPaths (manifest : Manifest) (channel : Nat) :
    manifest.channelPaths[channel]? = manifest.channelPath? channel := by
  cases hpath : manifest.channelPath? channel with
  | some path =>
    refine Std.ExtTreeMap.getElem?_ofList_of_mem Std.ReflCmp.compare_self ?_
      (mem_assigned.2 hpath)
    exact manifest.assigned_ascending.imp fun hlt heq => Nat.ne_of_lt hlt (Nat.compare_eq_eq.1 heq)
  | none =>
    refine Std.ExtTreeMap.getElem?_ofList_of_contains_eq_false ?_
    rw [List.contains_eq_mem, decide_eq_false_iff_not]
    intro hmem
    obtain ⟨⟨_, path⟩, hentry, rfl⟩ := List.mem_map.1 hmem
    cases hpath.symm.trans (mem_assigned.1 hentry)

end Manifest

namespace PreviewSettings

variable {arguments : PreviewArguments} {manifest : Option Manifest} {settings : PreviewSettings}

theorem merge_error_iff {fault : SettingsFault} :
    merge arguments manifest = .error fault ↔
      fault = .noShader ∧ arguments.shader = none ∧ manifest = none := by
  unfold merge
  cases hshader : arguments.shader.or (manifest.map (·.shader)) with
  | some shader =>
    refine ⟨nofun, ?_⟩
    rintro ⟨_, hnone, rfl⟩
    rw [hnone] at hshader
    cases hshader
  | none =>
    obtain ⟨hnone, hmanifest⟩ := Option.or_eq_none_iff.1 hshader
    simp only [Except.error.injEq, hnone, Option.map_eq_none_iff.1 hmanifest, and_true]
    exact eq_comm

/-- The settings for the arguments and a manifest, field by field. -/
structure Merged (arguments : PreviewArguments) (manifest : Option Manifest)
    (settings : PreviewSettings) : Prop where
  shader : some settings.shader = arguments.shader.or (manifest.map (·.shader))
  mesh : settings.mesh = arguments.mesh.or (manifest.bind (·.mesh))
  title : settings.title =
    (arguments.title.or (manifest.bind (·.window.title))).getD PreviewConfig.standard.title
  size : settings.size = arguments.size.getD ((manifest.map Manifest.window).getD .unset).size
  watch : settings.watch = (arguments.watch || manifest.any (·.watch))
  channels : settings.channels =
    ((manifest.map Manifest.channelPaths).getD ∅).insertMany arguments.channels

theorem merged (h : merge arguments manifest = .ok settings) :
    Merged arguments manifest settings := by
  unfold merge at h
  split at h
  · cases h
  · next shader hshader =>
    obtain rfl := Except.ok.inj h
    refine ⟨hshader.symm, rfl, ?_, rfl, rfl, rfl⟩
    cases manifest <;> rfl

theorem channels_getElem? (h : merge arguments manifest = .ok settings) (channel : Nat) :
    settings.channels[channel]? = (lastAssigned? channel arguments.channels).or
      (manifest.bind (·.channelPath? channel)) := by
  rw [(merged h).channels, ChannelPaths.getElem?_insertMany]
  congr 1
  cases manifest with
  | none => exact Std.ExtTreeMap.getElem?_empty
  | some manifest => exact manifest.getElem?_channelPaths channel

theorem merge_reordered {reordered : List ChannelAssignment}
    (h : ∀ channel, reordered.filter (·.1 = channel) =
      arguments.channels.filter (·.1 = channel)) :
    merge { arguments with channels := reordered } manifest = merge arguments manifest := by
  unfold merge
  rw [ChannelPaths.insertMany_reordered _ h]

end PreviewSettings

/-- Arguments and manifest give settings unless neither names a shader. Shader, mesh and title come
from the arguments, or else from the manifest; the default is no mesh and the default title. The
size comes from the arguments as a whole, or else each side from the manifest or the default. The
file is watched if either asks for it. A channel has its last path in the arguments, or else its
path in the manifest; channels are listed in ascending order. The order of assignments to different
channels does not matter. -/
theorem settings_merged (arguments : PreviewArguments) (manifest : Option Manifest) :
    ((∃ fault, PreviewSettings.merge arguments manifest = .error fault) ↔
      arguments.shader = none ∧ manifest = none) ∧
    (∀ settings, PreviewSettings.merge arguments manifest = .ok settings →
      some settings.shader = arguments.shader.or (manifest.map (·.shader)) ∧
      settings.mesh = arguments.mesh.or (manifest.bind (·.mesh)) ∧
      settings.title =
        (arguments.title.or (manifest.bind (·.window.title))).getD "shadebox" ∧
      settings.size = arguments.size.getD
        ⟨(manifest.bind (·.window.width)).getD 1280,
          (manifest.bind (·.window.height)).getD 720⟩ ∧
      settings.watch = (arguments.watch || manifest.any (·.watch)) ∧
      (∀ channel : Fin channelCount, settings.channels[channel.val]? =
        (lastAssigned? channel arguments.channels).or (manifest.bind (·.channels channel))) ∧
      (∀ channel, channelCount ≤ channel →
        settings.channels[channel]? = lastAssigned? channel arguments.channels) ∧
      settings.channels.toList.Pairwise (·.1 < ·.1)) ∧
    ∀ reordered,
      (∀ channel, reordered.filter (·.1 = channel) =
        arguments.channels.filter (·.1 = channel)) →
      PreviewSettings.merge { arguments with channels := reordered } manifest =
        PreviewSettings.merge arguments manifest := by
  refine ⟨?_, fun settings hsettings => ?_, fun reordered => PreviewSettings.merge_reordered⟩
  · simp only [PreviewSettings.merge_error_iff, exists_eq_left]
  · have hmerged := PreviewSettings.merged hsettings
    have hascending : settings.channels.toList.Pairwise (·.1 < ·.1) :=
      Std.ExtTreeMap.ordered_keys_toList.imp Nat.compare_eq_lt.1
    refine ⟨hmerged.shader, hmerged.mesh, hmerged.title, hmerged.size.trans ?_, hmerged.watch,
      fun channel => ?_, fun channel hout => ?_, hascending⟩
    · cases manifest <;> rfl
    · rw [PreviewSettings.channels_getElem? hsettings]
      simp only [Manifest.channelPath?_fin]
    · rw [PreviewSettings.channels_getElem? hsettings]
      simp only [Manifest.channelPath?_of_le hout, Option.bind_fun_none, Option.or_none]

/-- Shader and mesh from the manifest; one window side from each; channel 0 assigned twice, channel
1 only by the manifest, channel 2 only by the arguments. -/
theorem settings_merged_mixed :
    let arguments : PreviewArguments :=
      { shader := none, manifest := some ⟨"m.toml"⟩, mesh := none, size := none, title := none,
        watch := true, channels := [(0, ⟨"a.png"⟩), (2, ⟨"c.png"⟩), (0, ⟨"b.png"⟩)] }
    let manifest : Manifest :=
      { shader := ⟨"s.wgsl"⟩, mesh := some ⟨"cube.obj"⟩, window := ⟨some "Cube", some 800, none⟩,
        channels := fun channel => if channel.val < 2 then some ⟨"m.png"⟩ else none,
        watch := false }
    ∃ settings, PreviewSettings.merge arguments (some manifest) = .ok settings ∧
      settings.shader = ⟨"s.wgsl"⟩ ∧ settings.mesh = some ⟨"cube.obj"⟩ ∧ settings.title = "Cube" ∧
      settings.size = ⟨800, 720⟩ ∧ settings.watch = true ∧
      [0, 1, 2, 3, 4].map (settings.channels[·]?) =
        [some ⟨"b.png"⟩, some ⟨"m.png"⟩, some ⟨"c.png"⟩, none, none] := by
  intro arguments manifest
  obtain ⟨herror, hok, _⟩ := settings_merged arguments (some manifest)
  cases hmerge : PreviewSettings.merge arguments (some manifest) with
  | error fault =>
    obtain ⟨_, hnone⟩ := herror.1 ⟨fault, hmerge⟩
    cases hnone
  | ok settings =>
    obtain ⟨hshader, hmesh, htitle, hsize, hwatch, hchannels, hothers, _⟩ := hok settings hmerge
    refine ⟨settings, rfl, Option.some.inj hshader, hmesh, htitle, hsize, hwatch, ?_⟩
    have hall : ∀ channel : Fin channelCount, settings.channels[channel.val]? =
        [some ⟨"b.png"⟩, some ⟨"m.png"⟩, some ⟨"c.png"⟩, none][channel] := by
      intro channel
      rw [hchannels channel]
      revert channel
      decide
    simp only [List.map_cons, List.map_nil, hall ⟨0, by decide⟩, hall ⟨1, by decide⟩,
      hall ⟨2, by decide⟩, hall ⟨3, by decide⟩, hothers 4 (by decide)]
    decide

end ShaderPreview
