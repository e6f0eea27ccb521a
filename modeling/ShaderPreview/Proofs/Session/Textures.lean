import ShaderPreview.Proofs.Session.Calls

/-!
# Bound textures

A bound texture was loaded for its channel in the same attempt.
-/

namespace ShaderPreview

variable {B : Backend} {α β : Type}

/-! ### Uploads -/

theorem RenderRequest.uploads_ascending (request : RenderRequest) :
    request.uploads.Pairwise fun first second => first.1 < second.1 := by
  unfold RenderRequest.uploads
  cases needsTextures request.source with
  | false => exact List.Pairwise.nil
  | true =>
    refine List.pairwise_filterMap.2 ((List.pairwise_lt_finRange channelCount).imp ?_)
    intro i j hlt first hfirst second hsecond
    obtain ⟨image, _, rfl⟩ := Option.map_eq_some_iff.1 hfirst
    obtain ⟨other, _, rfl⟩ := Option.map_eq_some_iff.1 hsecond
    exact hlt

theorem loaded_texture {images : List (Fin channelCount × ChannelImage)}
    {textures out : PerChannel (Option B.Texture)} {before after : B.State}
    {events : List (Event B)} (h : Loaded images textures before events (.ok out) after)
    (hascending : images.Pairwise fun first second => first.1 < second.1)
    (hfree : ∀ upload ∈ images, textures upload.1 = none)
    (channel : Fin channelCount) (texture : B.Texture) : out channel = some texture ↔
      textures channel = some texture ∨
        ∃ image, Event.loadTexture channel image (.ok texture) ∈ events := by
  generalize houtcome : Except.ok out = outcome at h
  induction h with
  | done =>
    cases houtcome
    simp
  | failed => cases houtcome
  | @next other image rest textures _ _ answer loadedTexture events _ _ value _ ih =>
    obtain ⟨hnew, hrest⟩ := List.pairwise_cons.1 hascending
    have hother : ∀ upload ∈ rest,
        PerChannel.set textures other (some loadedTexture) upload.1 = none := by
      intro upload hu
      have hne : upload.1 ≠ other := (Fin.ne_of_lt (hnew upload hu)).symm
      rw [PerChannel.set_other _ _ hne]
      exact hfree upload (List.mem_cons_of_mem _ hu)
    have hnotes : ∀ image, Event.loadTexture channel image (.ok texture) ∉
        answer.notes.map (Event.note (B := B)) := by
      intro image hm
      obtain ⟨note, _, heq⟩ := List.mem_map.1 hm
      cases heq
    rw [ih hrest hother houtcome]
    simp only [Answer.events, value, List.cons_append, List.mem_cons, List.mem_append, hnotes,
      false_or, Event.loadTexture.injEq, Except.ok.injEq, exists_or]
    by_cases heq : channel = other
    · subst heq
      have hnone := hfree (channel, image) List.mem_cons_self
      rw [PerChannel.set_same]
      simp [hnone, eq_comm]
    · rw [PerChannel.set_other _ _ heq]
      simp [heq]

/-! ### What is bound -/

def Event.isTexture : Event B → Bool
  | .loadTexture .. | .bind .. => true
  | _ => false

/-- Every bound texture was loaded before for its channel. -/
def BindsLoaded (events : List (Event B)) : Prop :=
  ∀ canvas textures result, Event.bind canvas textures result ∈ events →
    ∀ channel texture, textures channel = some texture ↔
      ∃ image, Event.loadTexture channel image (.ok texture) ∈ events

def Untextured (course : Course B α) : Prop :=
  ∀ ⦃before events outcome state after⦄, course before events outcome state after →
    ∀ event ∈ events, event.isTexture = false

def Binds (course : Course B α) : Prop :=
  ∀ ⦃before events outcome state after⦄, course before events outcome state after →
    BindsLoaded events

theorem isTexture_silent {events : List (Event B)} (h : Silent events) :
    ∀ event ∈ events, event.isTexture = false := by
  intro event he
  have hsilent := h event he
  cases event <;> first | rfl | cases hsilent

theorem BindsLoaded.around {events : List (Event B)} (pre post : List (Event B))
    (h : BindsLoaded events)
    (hpre : ∀ event ∈ pre, event.isTexture = false)
    (hpost : ∀ event ∈ post, event.isTexture = false) : BindsLoaded (pre ++ events ++ post) := by
  have hinner {event : Event B} (ht : event.isTexture = true) :
      event ∈ pre ++ events ++ post ↔ event ∈ events := by
    have hout {list : List (Event B)} (hl : ∀ event ∈ list, event.isTexture = false) :
        event ∉ list := by
      intro he
      rw [hl event he] at ht
      cases ht
    simp only [List.mem_append, hout hpre, hout hpost, false_or, or_false]
  intro canvas textures result hbind channel texture
  rw [h canvas textures result ((hinner rfl).1 hbind)]
  exact exists_congr fun image => (hinner rfl).symm

theorem bindsLoaded_none {events : List (Event B)}
    (h : ∀ event ∈ events, event.isTexture = false) : BindsLoaded events := by
  intro canvas textures result hbind
  cases h _ hbind

theorem untextured_then {first : Course B α} {second : α → Course B β} (h₁ : Untextured first)
    (h₂ : ∀ a, Untextured (second a)) : Untextured (Then first second) := by
  intro before events outcome state after h
  cases h with
  | stopped stops => exact h₁ stops
  | continued goes on => exact List.forall_mem_append.2 ⟨h₁ goes, h₂ _ on⟩

theorem binds_first {first : Course B α} {second : α → Course B β} (h₁ : Binds first)
    (h₂ : ∀ a, Untextured (second a)) : Binds (Then first second) := by
  intro before events outcome state after h
  cases h with
  | stopped stops => exact h₁ stops
  | continued goes on => exact (h₁ goes).around [] _ nofun (h₂ _ on)

theorem binds_second {first : Course B α} {second : α → Course B β} (h₁ : Untextured first)
    (h₂ : ∀ a, Binds (second a)) : Binds (Then first second) := by
  intro before events outcome state after h
  cases h with
  | stopped stops => exact bindsLoaded_none (h₁ stops)
  | continued goes on =>
    have haround := (h₂ _ on).around _ [] (h₁ goes) nofun
    rwa [List.append_nil] at haround

theorem isTexture_answer {answer : Answer B.State B.Note α} {call : α → Event B}
    (h : (call answer.value).isTexture = false) :
    ∀ event ∈ answer.events call, event.isTexture = false :=
  List.forall_mem_cons.2 ⟨h, isTexture_silent (silent_notes answer.notes)⟩

theorem untextured_compiled (kind : ShaderKind) (source : String) :
    Untextured (Compiled (B := B) kind source) := by
  intro before events outcome state after h
  cases h with
  | own _ _ judged =>
    exact List.forall_mem_append.2
      ⟨isTexture_answer rfl, isTexture_silent (silent_judged judged)⟩
  | supplied _ _ _ judged =>
    exact List.forall_mem_append.2 ⟨List.forall_mem_append.2
      ⟨isTexture_answer rfl, isTexture_answer rfl⟩, isTexture_silent (silent_judged judged)⟩

theorem untextured_uploaded (vertices : Option VertexData) :
    Untextured (Uploaded (B := B) vertices) := by
  intro before events outcome state after h
  cases h with
  | absent => exact nofun
  | present => exact isTexture_answer rfl

theorem untextured_built (stages : PipelineStages B.Module) (resources : B.Resources) :
    Untextured (Built stages resources) := by
  intro before events outcome state after h
  cases h with
  | failed => exact List.forall_mem_cons.2 ⟨rfl, isTexture_answer rfl⟩
  | invalid =>
    exact List.forall_mem_append.2
      ⟨List.forall_mem_cons.2 ⟨rfl, isTexture_answer rfl⟩, isTexture_answer rfl⟩
  | built =>
    exact List.forall_mem_append.2
      ⟨List.forall_mem_cons.2 ⟨rfl, isTexture_answer rfl⟩, isTexture_answer rfl⟩

theorem untextured_mapped {f : α → β} {course : Course B α} (h : Untextured course) :
    Untextured (Mapped f course) := by
  intro before events outcome state after hm
  obtain ⟨result, hcourse, _⟩ := hm
  exact h hcourse

theorem loaded_bind {images : List (Fin channelCount × ChannelImage)}
    {textures : PerChannel (Option B.Texture)} {before after : B.State} {events : List (Event B)}
    {outcome : Except Stop (PerChannel (Option B.Texture))}
    (h : Loaded images textures before events outcome after) (canvas : CanvasSize)
    (bound : PerChannel (Option B.Texture)) (result : Except Failure B.Resources) :
    Event.bind canvas bound result ∉ events := by
  intro hbind
  have hinitial := (makes_uploads images textures).initial (h.part .binding)
  obtain ⟨upload, _, heq⟩ := List.mem_map.1 (hinitial.subset (mem_calls hbind rfl))
  cases heq

theorem binds_bound (request : RenderRequest) (diagnostics : List Diagnostic) :
    Binds (Bound (B := B) request diagnostics) := by
  intro before events outcome state after h
  cases h with
  | unpopulated => exact bindsLoaded_none (isTexture_silent (List.forall_mem_cons.2
      ⟨rfl, silent_lines [missingFirstChannel]⟩))
  | unloaded _ loaded =>
    intro canvas textures result hbind
    obtain heq | hbind := List.mem_cons.1 hbind
    · cases heq
    · exact absurd hbind (loaded_bind loaded canvas textures result)
  | @bound between loads out answer _ loaded called =>
    intro canvas textures result hbind channel texture
    have hload {image : ChannelImage} :
        Event.loadTexture channel image (.ok texture) ∈ .transition .compiling .binding :: loads ++
            answer.events (.bind request.canvas out) ↔
          Event.loadTexture channel image (.ok texture) ∈ loads := by
      simp only [Answer.events, List.mem_append, List.mem_cons, List.mem_map, reduceCtorEq,
        and_false, exists_false, false_or, or_false]
    obtain rfl : textures = out := by
      simp only [Answer.events, List.mem_append, List.mem_cons, List.mem_map, reduceCtorEq,
        and_false, exists_false, false_or, or_false, Event.bind.injEq,
        loaded_bind loaded canvas textures result] at hbind
      exact hbind.2.1
    simp only [hload]
    have htexture := loaded_texture loaded request.uploads_ascending (fun _ _ => rfl) channel
      texture
    rw [htexture]
    simp only [PerChannel.empty, reduceCtorEq, false_or]

theorem binds_prepared (frontEnd : FrontEnd) (request : RenderRequest) :
    Binds (Prepared (B := B) frontEnd request) := by
  refine binds_second (fun _ _ _ _ _ h => isTexture_silent (silent_examined h)) fun examined => ?_
  refine binds_second (untextured_compiled _ _) fun compiled => ?_
  refine binds_first (binds_bound _ _) fun resources => ?_
  exact untextured_then (untextured_uploaded _) fun vertices =>
    untextured_mapped (untextured_built _ _)

end ShaderPreview
