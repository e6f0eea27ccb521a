import ShaderPreview.Preview.Request
import ShaderPreview.Proofs.CommandLine.Written
import ShaderPreview.Proofs.Preview.Precedence

/-!
# Admissible settings

Sizes and channels are checked by the argument parsers, manifests before their paths are resolved.
Merging and resolving preserve these properties, so a request never fails for a channel index.
-/

namespace ShaderPreview

/-- The size and the channel assignments were parsed from texts. -/
structure PreviewArguments.Parsed (arguments : PreviewArguments) : Prop where
  size {size : CanvasSize} : arguments.size = some size → ∃ text, parseSize text = .ok size
  channels {entry : ChannelAssignment} : entry ∈ arguments.channels →
    ∃ text, parseAssignment text = .ok entry

/-- The manifest was loaded from a file with this document parser. -/
def Manifest.Loaded (toml : Toml.Parser) (manifest : Manifest) : Prop :=
  ∃ path contents, Manifest.ofFile toml path contents = .ok manifest

/-! ### What the readers check -/

theorem exists_ok_of_bind {ε α β : Type} {first : Except ε α} {next : α → Except ε β} {b : β}
    (h : first >>= next = .ok b) : ∃ a, first = .ok a ∧ next a = .ok b := by
  cases first with
  | error => cases h
  | ok a => exact ⟨a, rfl, h⟩

theorem ok_of_mapError {ε ε' α : Type} {result : Except ε α} {wording : ε → ε'} {a : α}
    (h : result.mapError wording = .ok a) : result = .ok a := by
  cases result with
  | error => cases h
  | ok => exact congrArg Except.ok (Except.ok.inj h)

theorem ok_of_toOption {ε α : Type} {result : Except ε α} {a : α}
    (h : result.toOption = some a) : result = .ok a := by
  cases result with
  | error => cases h
  | ok => exact congrArg Except.ok (Option.some.inj h)

theorem parseSize_area {text : String} {size : CanvasSize} (h : parseSize text = .ok size) :
    size.isEmpty = false := by
  obtain ⟨_, hproper⟩ := parseSize_eq_ok.1 h
  exact CanvasSize.isEmpty_eq_false.2 ⟨hproper.width.1, hproper.height.1⟩

theorem Path.text_ne_empty {path : Path} (h : path.isEmpty = false) : path.text ≠ "" :=
  fun htext => List.isEmpty_eq_false_iff.1 h (String.toList_eq_nil_iff.2 htext)

theorem parseAssignment_admissible {text : String} {entry : ChannelAssignment}
    (h : parseAssignment text = .ok entry) :
    entry.1 < channelCount ∧ entry.2.isEmpty = false := by
  obtain ⟨⟨_, _, _, _, _, _, _, hpath⟩, hlt⟩ := parseAssignment_eq_ok.1 h
  exact ⟨hlt, List.isEmpty_eq_false_iff.2 hpath⟩

/-! ### Manifests seen from their folder -/

theorem Path.isEmpty_join {path : Path} (base : Path) (h : path.isEmpty = false) :
    (base.join path).isEmpty = false := by
  have hnil : path.text.toList ≠ [] := List.isEmpty_eq_false_iff.1 h
  refine List.isEmpty_eq_false_iff.2 ?_
  unfold join
  split
  · exact hnil
  · split <;> simp [hnil]

namespace Manifest

variable {manifest : Manifest}

/-- All paths of the manifest are non-empty. -/
structure NamesFiles (manifest : Manifest) : Prop where
  shader : manifest.shader.isEmpty = false
  channels {channel : Fin channelCount} {path : Path} :
    manifest.channels channel = some path → path.isEmpty = false
  mesh {path : Path} : manifest.mesh = some path → path.isEmpty = false

theorem firstEmptyPath?_eq_none {channels : PerChannel (Option Path)} :
    firstEmptyPath? channels = none ↔
      ∀ channel path, channels channel = some path → path.isEmpty = false := by
  simp [firstEmptyPath?, Option.any_eq_true]

theorem flaw?_eq_none :
    manifest.flaw? = none ↔ manifest.NamesFiles ∧ manifest.window.flaw? = none := by
  have hmesh : manifest.mesh.any Path.isEmpty = false ↔
      ∀ path, manifest.mesh = some path → path.isEmpty = false := by
    cases manifest.mesh <;> simp
  constructor
  · intro h
    unfold flaw? at h
    split at h
    · cases h
    · next hshader =>
      split at h
      · cases h
      · next hchannels =>
        split at h
        · cases h
        · next hnamed =>
          exact ⟨⟨Bool.eq_false_iff.2 hshader, firstEmptyPath?_eq_none.1 hchannels _ _,
            hmesh.1 (Bool.eq_false_iff.2 hnamed) _⟩, h⟩
  · rintro ⟨hnames, hwindow⟩
    have hchannels : firstEmptyPath? manifest.channels = none :=
      firstEmptyPath?_eq_none.2 fun _ _ => hnames.channels
    have hnamed : manifest.mesh.any Path.isEmpty = false := hmesh.2 fun _ => hnames.mesh
    simp only [flaw?, hnames.shader, hchannels, hnamed, Bool.false_eq_true, if_false, hwindow]

theorem flaw?_resolve (base : Path) (h : manifest.flaw? = none) :
    (manifest.resolve base).flaw? = none := by
  obtain ⟨hnames, hwindow⟩ := flaw?_eq_none.1 h
  refine flaw?_eq_none.2 ⟨⟨Path.isEmpty_join base hnames.shader, ?_, ?_⟩, hwindow⟩
  · intro channel path hpath
    obtain ⟨path, hgiven, rfl⟩ := Option.map_eq_some_iff.1 hpath
    exact Path.isEmpty_join base (hnames.channels hgiven)
  · intro path hpath
    obtain ⟨path, hgiven, rfl⟩ := Option.map_eq_some_iff.1 hpath
    exact Path.isEmpty_join base (hnames.mesh hgiven)

theorem flaw?_ofText {toml : Toml.Parser} {text : String} (h : ofText toml text = .ok manifest) :
    manifest.flaw? = none := by
  obtain ⟨entries, _, h⟩ := exists_ok_of_bind h
  obtain ⟨found, _, hvalid⟩ := exists_ok_of_bind h
  obtain ⟨rfl, hsound⟩ := validate_eq_ok (ok_of_mapError hvalid)
  exact hsound

theorem Loaded.sound {toml : Toml.Parser} (h : manifest.Loaded toml) : manifest.flaw? = none := by
  obtain ⟨path, contents, h⟩ := h
  obtain ⟨text, _, h⟩ := exists_ok_of_bind h
  obtain ⟨written, hwritten, h⟩ := exists_ok_of_bind h
  obtain rfl := Except.ok.inj h
  unfold resolveFrom
  split
  · exact flaw?_resolve _ (flaw?_ofText hwritten)
  · exact flaw?_ofText hwritten

end Manifest

/-! ### Settings -/

theorem WindowSettings.size_area {window : WindowSettings} (h : window.flaw? = none) :
    window.size.isEmpty = false := by
  have hsides : window.width ≠ some 0 ∧ window.height ≠ some 0 := by
    unfold flaw? at h
    split at h
    · cases h
    · split at h
      · cases h
      · next hwidth =>
        split at h
        · cases h
        · next hheight => exact ⟨hwidth, hheight⟩
  have hside {side : Option Nat} {standard : Nat} (hgiven : side ≠ some 0)
      (hstandard : standard ≠ 0) : (side.getD standard == 0) = false := by
    cases side with
    | none => exact beq_false_of_ne hstandard
    | some side => exact beq_false_of_ne fun hzero => hgiven (congrArg some hzero)
  rw [size, CanvasSize.isEmpty, hside hsides.1 (by decide), hside hsides.2 (by decide)]
  rfl

namespace PreviewSettings

variable {arguments : PreviewArguments} {manifest : Option Manifest} {settings : PreviewSettings}

theorem area_of_merge (harguments : arguments.Parsed)
    (hmanifest : ∀ found ∈ manifest, found.flaw? = none)
    (h : merge arguments manifest = .ok settings) : settings.size.isEmpty = false := by
  rw [(merged h).size]
  cases hsize : arguments.size with
  | some size =>
    obtain ⟨text, hread⟩ := harguments.size hsize
    exact parseSize_area hread
  | none =>
    cases manifest with
    | none => rfl
    | some manifest =>
      exact WindowSettings.size_area (Manifest.flaw?_eq_none.1 (hmanifest manifest rfl)).2

theorem channel_of_merge (harguments : arguments.Parsed)
    (hmanifest : ∀ found ∈ manifest, found.flaw? = none)
    (h : merge arguments manifest = .ok settings) {channel : Nat} {path : Path}
    (hpath : settings.channels[channel]? = some path) :
    channel < channelCount ∧ path.isEmpty = false := by
  rw [channels_getElem? h] at hpath
  obtain hassigned | ⟨_, hmanifested⟩ := Option.or_eq_some_iff.1 hpath
  · obtain ⟨text, hread⟩ := harguments.channels (mem_of_lastAssigned? hassigned)
    exact parseAssignment_admissible hread
  · obtain ⟨manifest, rfl, hgiven⟩ := Option.bind_eq_some_iff.1 hmanifested
    have hlt := Manifest.lt_of_channelPath? hgiven
    refine ⟨hlt, ?_⟩
    rw [Manifest.channelPath?, dif_pos hlt] at hgiven
    exact (Manifest.flaw?_eq_none.1 (hmanifest manifest rfl)).1.channels hgiven

end PreviewSettings

/-! ### Loading what the settings name -/

namespace ChannelMap

theorem isPopulated_fin (map : ChannelMap) (channel : Fin channelCount) :
    map.isPopulated channel = (map channel).isSome := by
  rw [isPopulated, get?, dif_pos channel.isLt]

theorem isPopulated_empty (channel : Nat) :
    isPopulated (PerChannel.empty : ChannelMap) channel = false := by
  unfold isPopulated get?
  split <;> rfl

theorem assign_lt (map : ChannelMap) {channel : Nat} (image : ChannelImage)
    (h : channel < channelCount) : ∃ result, map.assign channel image = .ok result :=
  ⟨_, dif_pos h⟩

theorem isPopulated_assign {map result : ChannelMap} {channel : Nat} {image : ChannelImage}
    (h : map.assign channel image = .ok result) (other : Nat) :
    result.isPopulated other = (map.isPopulated other || other == channel) := by
  by_cases heq : other = channel
  · subst heq
    rw [isPopulated, get?_assign h, beq_self_eq_true, Bool.or_true]
    rfl
  · rw [beq_false_of_ne heq, Bool.or_false]
    unfold assign at h
    split at h
    · obtain rfl := Except.ok.inj h
      unfold isPopulated get?
      split
      · rw [PerChannel.set_other map _ fun hsame => heq (congrArg Fin.val hsame)]
      · rfl
    · cases h

end ChannelMap

/-- The error concerns a file and not a channel index. -/
def RequestFault.OfFile : RequestFault → Prop
  | .slot _ => False
  | _ => True

namespace PreviewSettings

section

variable {σ α β : Type} {Ends : α → Prop} {Goal : β → Prop}

def Ended (Ends : α → Prop) : Except RequestFault α → Prop
  | .ok a => Ends a
  | .error fault => fault.OfFile

/-- Postcondition of a loading step, for every log and every file system. -/
def Loads (step : Loading (StateM σ) α) (Ends : α → Prop) : Prop :=
  ∀ lines world, Ended Ends ((step.run.run lines).run world).1.1

theorem run_bind (step : Loading (StateM σ) α) (next : α → Loading (StateM σ) β)
    (lines : List LogLine) (world : σ) :
    ((step >>= next).run.run lines).run world =
      let ended := (step.run.run lines).run world
      match ended.1.1 with
      | .ok a => ((next a).run.run ended.1.2).run ended.2
      | .error fault => ((.error fault, ended.1.2), ended.2) := by
  rw [ExceptT.run_bind, StateT.run_bind, StateT.run_bind]
  generalize (step.run.run lines).run world = ended
  obtain ⟨⟨result, lines⟩, world⟩ := ended
  cases result <;> rfl

theorem loads_pure {a : α} (h : Ends a) : Loads (pure a : Loading (StateM σ) α) Ends :=
  fun _ _ => h

theorem Loads.bind {step : Loading (StateM σ) α} {next : α → Loading (StateM σ) β}
    (h : Loads step Ends) (hnext : ∀ a, Ends a → Loads (next a) Goal) :
    Loads (step >>= next) Goal := by
  intro lines world
  have hstep := h lines world
  rw [run_bind]
  generalize (step.run.run lines).run world = ended at hstep
  obtain ⟨⟨result, lines⟩, world⟩ := ended
  cases result with
  | ok a => exact hnext a hstep lines world
  | error fault => exact hstep

theorem loads_log (text : String) : Loads (log text : Loading (StateM σ) Unit) fun _ => True :=
  fun _ _ => trivial

theorem loads_loaded {ε : Type} {fault : ε → RequestFault} (step : StateM σ (Except ε α))
    (h : ∀ e, RequestFault.OfFile (fault e)) : Loads (loaded fault step) fun _ => True := by
  intro lines world
  change Ended _ ((step.run world).1.mapError fault)
  cases (step.run world).1 with
  | ok a => trivial
  | error e => exact h e

theorem loads_channel (formats : FormatReaders) (read : FileReader (StateM σ)) (images : ChannelMap)
    {entry : ChannelAssignment} (h : entry.1 < channelCount) :
    Loads (loadChannel formats read images entry) fun later =>
      ∀ channel,
        later.isPopulated channel = (images.isPopulated channel || channel == entry.1) := by
  have hfault (fault : TextureFault) : RequestFault.OfFile (.channel entry.1 fault) := trivial
  refine (loads_loaded _ hfault).bind fun image _ => ?_
  refine (loads_log _).bind fun _ _ => ?_
  obtain ⟨later, hlater⟩ := images.assign_lt image h
  rw [hlater]
  exact loads_pure (ChannelMap.isPopulated_assign hlater)

theorem loads_channels (formats : FormatReaders) (read : FileReader (StateM σ))
    (images : ChannelMap) {entries : List ChannelAssignment}
    (h : ∀ entry ∈ entries, entry.1 < channelCount) :
    Loads (entries.foldlM (loadChannel formats read) images) fun later =>
      ∀ channel, later.isPopulated channel =
        (images.isPopulated channel || (entries.map (·.1)).contains channel) := by
  induction entries generalizing images with
  | nil =>
    refine loads_pure fun channel => ?_
    rw [List.map_nil, List.contains_nil, Bool.or_false]
  | cons entry entries ih =>
    obtain ⟨hentry, hentries⟩ := List.forall_mem_cons.1 h
    rw [List.foldlM_cons]
    refine (loads_channel formats read images hentry).bind fun between hbetween => ?_
    intro lines world
    have hrest := ih between hentries lines world
    simp only [hbetween, Bool.or_assoc] at hrest
    simpa only [List.map_cons, List.contains_cons] using hrest

theorem loads_mesh (formats : FormatReaders) (read : FileReader (StateM σ)) (mesh : Option Path) :
    Loads (mesh.mapM (loadVertices formats read)) fun _ => True := by
  cases mesh with
  | none => exact loads_pure trivial
  | some path =>
    have hfault (fault : MeshFault) : RequestFault.OfFile (.mesh fault) := trivial
    have hvertices : Loads (loadVertices formats read path) fun _ => True :=
      (loads_loaded _ hfault).bind fun _ _ => (loads_log _).bind fun _ _ => loads_pure trivial
    exact hvertices.bind fun _ _ => loads_pure trivial

theorem loads_request (formats : FormatReaders) (read : FileReader (StateM σ))
    {settings : PreviewSettings}
    (h : ∀ entry ∈ settings.channels.toList, entry.1 < channelCount) :
    Loads (settings.load formats read) fun request =>
      (∀ channel, request.channels.isPopulated channel = settings.channels.contains channel) ∧
        request.canvas = settings.size := by
  have hfault (reason : String) : RequestFault.OfFile (.shader settings.shader reason) := trivial
  refine (loads_loaded _ hfault).bind fun source _ => ?_
  refine (loads_channels formats read .empty h).bind fun images himages => ?_
  refine (loads_mesh formats read settings.mesh).bind fun vertices _ => ?_
  refine loads_pure ⟨fun channel => ?_, rfl⟩
  rw [himages, ChannelMap.isPopulated_empty, Bool.false_or, ← Std.ExtTreeMap.contains_keys,
    ← Std.ExtTreeMap.map_fst_toList_eq_keys]

theorem request_loaded (formats : FormatReaders) (read : FileReader (StateM σ))
    {settings : PreviewSettings}
    (h : ∀ entry ∈ settings.channels.toList, entry.1 < channelCount) (world : σ) :
    Ended (fun request =>
      (∀ channel, request.channels.isPopulated channel = settings.channels.contains channel) ∧
        request.canvas = settings.size) ((settings.request formats read).run world).1.1 :=
  loads_request formats read h [] world

end

end PreviewSettings

/-- A manifest loaded from a file has no flaw after its paths are resolved. If size and channels of
the arguments were parsed from texts, no side of the merged size is zero, and the merged channels
exist and have non-empty paths. When they are loaded, for all files and format readers, no error
concerns a channel index, and the resulting request has images on exactly the merged channels, and a
canvas without a zero side. -/
theorem settings_admissible (formats : FormatReaders) {arguments : PreviewArguments}
    (harguments : arguments.Parsed) {manifest : Option Manifest}
    (hmanifest : ∀ found ∈ manifest, found.Loaded formats.toml) :
    (∀ found ∈ manifest, found.validate = .ok found) ∧
    ∀ settings, PreviewSettings.merge arguments manifest = .ok settings →
      (1 ≤ settings.size.width ∧ 1 ≤ settings.size.height) ∧
      (∀ channel path, settings.channels[channel]? = some path →
        channel < channelCount ∧ path.text ≠ "") ∧
      ∀ (σ : Type) (read : FileReader (StateM σ)) (world : σ),
        (∀ fault, ((settings.request formats read).run world).1.1 ≠ .error (.slot fault)) ∧
        ∀ request, ((settings.request formats read).run world).1.1 = .ok request →
          (∀ channel : Fin channelCount,
            (request.channels channel).isSome = settings.channels.contains channel.val) ∧
          1 ≤ request.canvas.width ∧ 1 ≤ request.canvas.height := by
  have hsound (found : Manifest) (hfound : found ∈ manifest) : found.flaw? = none :=
    (hmanifest found hfound).sound
  refine ⟨fun found hfound => ?_, fun settings hsettings => ?_⟩
  · rw [Manifest.validate, hsound found hfound]
  · have harea := CanvasSize.isEmpty_eq_false.1
      (PreviewSettings.area_of_merge harguments hsound hsettings)
    have hchannel (channel : Nat) (path : Path) (hpath : settings.channels[channel]? = some path) :
        channel < channelCount ∧ path.isEmpty = false :=
      PreviewSettings.channel_of_merge harguments hsound hsettings hpath
    refine ⟨harea, fun channel path hpath => (hchannel channel path hpath).imp_right
      Path.text_ne_empty, fun σ read world => ?_⟩
    have hexist (entry : ChannelAssignment) (hentry : entry ∈ settings.channels.toList) :
        entry.1 < channelCount :=
      (hchannel _ _ (Std.ExtTreeMap.mem_toList_iff_getElem?_eq_some.1 hentry)).1
    have hloaded := PreviewSettings.request_loaded formats read hexist world
    refine ⟨fun fault hfault => ?_, fun request hrequest => ?_⟩
    · rw [hfault] at hloaded
      exact hloaded
    · rw [hrequest] at hloaded
      obtain ⟨hpopulated, hcanvas⟩ := hloaded
      refine ⟨fun channel => ?_, hcanvas ▸ harea⟩
      rw [← ChannelMap.isPopulated_fin, hpopulated]

/-- GIF file of one red pixel. -/
def redGif : List UInt8 :=
  "GIF87a".toUTF8.toList ++ [1, 0, 1, 0, 0x80, 0, 0, 0xff, 0, 0, 0, 0, 0, 0x2c, 0, 0, 0, 0, 1, 0, 1,
    0, 0, 2, 2, 0x44, 1, 0, 0x3b]

/-- Standard readers extended by this picture. -/
def redReaders : FormatReaders :=
  { FormatReaders.standard with
    picture := fun path contents => match contents with
      | .ok bytes => if bytes = redGif then .ok (1, 1, [0xff, 0, 0, 0xff])
        else decodePicture path contents
      | .error _ => decodePicture path contents }

/-- Channels from the manifest and from the arguments, one with an equals sign in its path; one
window side from the manifest; both images are GIF files. -/
theorem settings_admissible_merged :
    let arguments : PreviewArguments := { PreviewArguments.none with
      channels := [(2, ⟨"b=c.gif"⟩)] }
    let contents :=
      "shader = 'a'\n[channels]\nchannel0 = 'n.gif'\n[window]\nwidth = 8".toUTF8.toList
    let read : FileReader (StateM Unit) := fun path =>
      pure (.ok (if path.extension? = some "gif".toList then redGif else []))
    arguments.Parsed ∧ ∃ manifest settings request,
      Manifest.ofFile redReaders.toml ⟨"demo/p.toml"⟩ (.ok contents) = .ok manifest ∧
      PreviewSettings.merge arguments (some manifest) = .ok settings ∧
      ((settings.request redReaders read).run ()).1.1 = .ok request ∧
      manifest.validate = .ok manifest ∧ 1 ≤ settings.size.width ∧ 1 ≤ settings.size.height ∧
      (∀ channel : Fin channelCount,
        (request.channels channel).isSome = settings.channels.contains channel.val) ∧
      1 ≤ request.canvas.width ∧ 1 ≤ request.canvas.height := by
  intro arguments contents read
  have harguments : arguments.Parsed := by
    refine ⟨nofun, fun hentry => ?_⟩
    obtain rfl := List.mem_singleton.1 hentry
    exact ⟨" 2 = b=c.gif", by rfl⟩
  have hdone : (do
      let manifest ← (Manifest.ofFile redReaders.toml ⟨"demo/p.toml"⟩ (.ok contents)).toOption
      let settings ← (PreviewSettings.merge arguments (some manifest)).toOption
      ((settings.request redReaders read).run ()).1.1.toOption).isSome = true := by
    decide +kernel
  obtain ⟨request, hdone⟩ := Option.isSome_iff_exists.1 hdone
  obtain ⟨manifest, hmanifest, hdone⟩ := Option.bind_eq_some_iff.1 hdone
  obtain ⟨settings, hsettings, hrequest⟩ := Option.bind_eq_some_iff.1 hdone
  have hmanifest := ok_of_toOption hmanifest
  have hsettings := ok_of_toOption hsettings
  have hrequest := ok_of_toOption hrequest
  have hloaded (found : Manifest) (hfound : found ∈ some manifest) :
      found.Loaded redReaders.toml := by
    obtain rfl := Option.some.inj hfound
    exact ⟨_, _, hmanifest⟩
  obtain ⟨hvalid, hadmissible⟩ := settings_admissible redReaders harguments hloaded
  obtain ⟨harea, _, hrequests⟩ := hadmissible settings hsettings
  obtain ⟨_, hrequested⟩ := hrequests Unit read ()
  obtain ⟨hpopulated, hcanvas⟩ := hrequested request hrequest
  exact ⟨harguments, manifest, settings, request, hmanifest, hsettings, hrequest,
    hvalid manifest rfl, harea.1, harea.2, hpopulated, hcanvas⟩

end ShaderPreview
