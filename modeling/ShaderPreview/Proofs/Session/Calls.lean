import ShaderPreview.Proofs.Session.Run

/-!
# Plan of an attempt

The calls of an attempt, in order, as a function of the request and the shader kind. An attempt that
stops has made a prefix of them, with no call after a failed stage. Both compilations belong to one
stage.
-/

namespace ShaderPreview

variable {B : Backend} {H : FrameHost} {α β : Type}

/-! ### Calls -/

/-- Backend and host calls without their results; of the bound textures only the channels are
kept. -/
inductive RenderCall where
  | acquire (canvas : CanvasSize)
  | compile (source : ComposedSource) (label : String)
  | loadTexture (channel : Fin channelCount) (image : ChannelImage)
  | bind (canvas : CanvasSize) (textured : PerChannel Bool)
  | uploadVertices (vertices : VertexData)
  | buildPipeline
  | takeValidationError
  | draw
  | requestFrame
  | cancelFrame
  | observeResize
  | disconnectResize

def Event.call? : Event B → Option RenderCall
  | .acquire canvas _ => some (.acquire canvas)
  | .compile source label _ => some (.compile source label)
  | .loadTexture channel image _ => some (.loadTexture channel image)
  | .bind canvas textures _ => some (.bind canvas (PerChannel.occupancy textures))
  | .uploadVertices vertices _ => some (.uploadVertices vertices)
  | .buildPipeline .. => some .buildPipeline
  | .takeValidationError _ => some .takeValidationError
  | .draw .. => some .draw
  | .requestFrame .. => some .requestFrame
  | .cancelFrame _ => some .cancelFrame
  | .observeResize _ => some .observeResize
  | .disconnectResize _ => some .disconnectResize
  | .transition .. | .console _ | .errors _ | .note _ => none

def calls (trace : List (Event B)) : List RenderCall := trace.filterMap Event.call?

theorem calls_append (trace events : List (Event B)) :
    calls (trace ++ events) = calls trace ++ calls events := List.filterMap_append

theorem mem_calls {trace : List (Event B)} {event : Event B} {call : RenderCall}
    (h : event ∈ trace) (hc : event.call? = some call) : call ∈ calls trace :=
  List.mem_filterMap.2 ⟨event, h, hc⟩

theorem calls_transition (before after : LoopState) (events : List (Event B)) :
    calls (.transition before after :: events) = calls events := rfl

theorem not_mem_of_false {p : α → Bool} {list : List α} {a : α} (ha : p a = true)
    (h : ∀ other ∈ list, p other = false) : a ∉ list :=
  fun hin => Bool.false_ne_true ((h a hin).symm.trans ha)

def Silent (events : List (Event B)) : Prop := ∀ event ∈ events, event.call? = none

theorem calls_silent {events : List (Event B)} (h : Silent events) : calls events = [] :=
  List.filterMap_eq_nil_iff.2 h

theorem silent_notes (notes : List B.Note) : Silent (notes.map (Event.note (B := B))) :=
  List.forall_mem_map.2 fun _ _ => rfl

theorem silent_lines (lines : List String) : Silent (lines.map (Event.console (B := B))) :=
  List.forall_mem_map.2 fun _ _ => rfl

theorem silent_reports (reports : List (List Diagnostic)) :
    Silent (reports.map (Event.errors (B := B))) := List.forall_mem_map.2 fun _ _ => rfl

theorem silent_judged {user : Compilation B.Module} {fullscreen : Option (Compilation B.Module)}
    {events : List (Event B)} {outcome : Except Stop (B.Module × B.Module × List Diagnostic)}
    (h : Judged user fullscreen events outcome) : Silent events := by
  cases h with
  | refused => exact silent_lines ["Shader compilation failed."]
  | missing => exact silent_lines []
  | passed => exact silent_lines []

theorem calls_answer (answer : Answer B.State B.Note α) (call : α → Event B) :
    calls (answer.events call) = (call answer.value).call?.toList := by
  rw [Answer.events, calls, List.filterMap_cons]
  have hnotes : List.filterMap Event.call? (answer.notes.map (Event.note (B := B))) = [] :=
    calls_silent (silent_notes answer.notes)
  cases (call answer.value).call? with
  | none => exact hnotes
  | some asked => exact congrArg (List.cons asked) hnotes

/-! ### Calls that fail -/

/-- Failed calls. Compiling the user's shader also fails without a module; compiling the fullscreen
stage fails only by an error diagnostic. -/
def Event.failed : Event B → Bool
  | .acquire _ available => !available
  | .compile _ label result => result.hasErrors || (label == "user shader" && result.module.isNone)
  | .loadTexture _ _ (.error _) | .bind _ _ (.error _) | .uploadVertices _ (.error _)
  | .buildPipeline _ _ (.error _) | .draw _ _ _ _ (.error _) => true
  | .takeValidationError error => error.isSome
  | _ => false

/-- No call failed. -/
def Sound (events : List (Event B)) : Prop := ∀ event ∈ events, event.failed = false

theorem Event.sound_of_silent {event : Event B} (h : event.call? = none) :
    event.failed = false := by
  cases event <;> first | rfl | cases h

theorem Silent.sound {events : List (Event B)} (h : Silent events) : Sound events :=
  fun event he => event.sound_of_silent (h event he)

theorem sound_append {e₁ e₂ : List (Event B)} (h₁ : Sound e₁) (h₂ : Sound e₂) :
    Sound (e₁ ++ e₂) := List.forall_mem_append.2 ⟨h₁, h₂⟩

theorem sound_answer {answer : Answer B.State B.Note α} {call : α → Event B}
    (h : (call answer.value).failed = false) : Sound (answer.events call) :=
  List.forall_mem_cons.2 ⟨h, (silent_notes answer.notes).sound⟩

def Event.isCompile : Event B → Bool
  | .compile .. => true
  | _ => false

/-- No call follows a failed one, except that the second compilation follows the first. -/
def Halts (earlier later : Event B) : Prop :=
  earlier.failed = true → later.call? = none ∨
    (earlier.isCompile = true ∧ later.isCompile = true)

theorem halts_sound {e₁ e₂ : List (Event B)} (h₁ : Sound e₁) (h₂ : e₂.Pairwise Halts) :
    (e₁ ++ e₂).Pairwise Halts := by
  have hnever {event other : Event B} (he : event ∈ e₁) : Halts event other := by
    intro hfailed
    rw [h₁ event he] at hfailed
    cases hfailed
  refine List.pairwise_append.2 ⟨?_, h₂, fun event he other _ => hnever he⟩
  exact List.Pairwise.imp_of_mem (fun he _ _ => hnever he)
    (List.pairwise_of_forall fun _ _ => trivial)

theorem halts_silent {e₁ e₂ : List (Event B)} (h₁ : e₁.Pairwise Halts) (h₂ : Silent e₂) :
    (e₁ ++ e₂).Pairwise Halts := by
  refine List.pairwise_append.2 ⟨h₁, ?_, fun _ _ later hl _ => .inl (h₂ later hl)⟩
  have halone := halts_sound h₂.sound (List.Pairwise.nil (R := Halts (B := B)))
  rwa [List.append_nil] at halone

theorem halts_answer (answer : Answer B.State B.Note α) (call : α → Event B) :
    (answer.events call).Pairwise Halts :=
  halts_silent (List.pairwise_singleton Halts (call answer.value)) (silent_notes answer.notes)

theorem halts_compilations {e₁ e₂ : List (Event B)}
    (h₁ : ∀ event ∈ e₁, event.call? = none ∨ event.isCompile = true)
    (h₂ : ∀ event ∈ e₂, event.call? = none ∨ event.isCompile = true)
    (hp₁ : e₁.Pairwise Halts) (hp₂ : e₂.Pairwise Halts) : (e₁ ++ e₂).Pairwise Halts := by
  refine List.pairwise_append.2 ⟨hp₁, hp₂, fun earlier he later hl hfailed => ?_⟩
  obtain hnone | hcompile := h₂ later hl
  · exact .inl hnone
  · obtain hnone | hearlier := h₁ earlier he
    · rw [earlier.sound_of_silent hnone] at hfailed
      cases hfailed
    · exact .inr ⟨hearlier, hcompile⟩

/-! ### The plan of an attempt -/

/-- Compilations for a shader kind: the composed source, and the fullscreen stage if there is no
vertex stage. -/
def compileCalls (kind : ShaderKind) (source : String) : List RenderCall :=
  .compile (compose source (needsTextures source)) "user shader" ::
    if kind = .fragmentOnly then [.compile (.plain fullscreenVertex) "fullscreen vertex"] else []

/-- Bound channels: the populated ones, for a shader that samples textures. -/
def RenderRequest.textured (request : RenderRequest) : PerChannel Bool :=
  fun channel => needsTextures request.source && (request.channels channel).isSome

/-- Texture uploads in channel order, then the binding. -/
def RenderRequest.bindCalls (request : RenderRequest) : List RenderCall :=
  request.uploads.map (fun upload => .loadTexture upload.1 upload.2) ++
    [.bind request.canvas request.textured]

/-- Calls after the device has been acquired, up to the pipeline. -/
def RenderRequest.stageCalls (request : RenderRequest) (kind : ShaderKind) : List RenderCall :=
  compileCalls kind request.source ++ (request.bindCalls ++
    (request.vertices.toList.map .uploadVertices ++ [.buildPipeline, .takeValidationError]))

/-- All calls of a successful attempt, in order. -/
def RenderRequest.plan (request : RenderRequest) (kind : ShaderKind) : List RenderCall :=
  .acquire request.canvas :: request.stageCalls kind ++ [.requestFrame, .observeResize]

/-- The shader samples textures and channel 0 is empty. -/
def RenderRequest.Unpopulated (request : RenderRequest) : Prop :=
  needsTextures request.source = true ∧ request.channels.isPopulated 0 = false

theorem RenderRequest.not_unpopulated {request : RenderRequest}
    (h : (needsTextures request.source && !request.channels.isPopulated 0) = false) :
    ¬ request.Unpopulated := by
  rintro ⟨htextured, hempty⟩
  rw [htextured, hempty] at h
  cases h

/-! ### Parts of the plan -/

/-- The calls of a part of an attempt are a prefix of the plan, and the whole plan if it does not
stop. If it stops, no call follows a failed one, the reason is a failed call or an unmet
requirement, and there is a report. -/
structure Makes (course : Course B α) (plan : List RenderCall) (unmet : Prop) : Prop where
  done ⦃before after : B.State⦄ ⦃events : List (Event B)⦄ ⦃a : α⦄ ⦃state : LoopState⦄ :
    course before events (.ok a) state after →
      calls events = plan ∧ Sound events ∧ ¬ unmet
  stopped ⦃before after : B.State⦄ ⦃events : List (Event B)⦄ ⦃stop : Stop⦄ ⦃state : LoopState⦄ :
    course before events (.error stop) state after →
      calls events <+: plan ∧ events.Pairwise Halts ∧
        ((∃ event ∈ events, event.failed = true) ∨ unmet) ∧ ∃ report, stop.report = some report

theorem Makes.initial {course : Course B α} {plan : List RenderCall} {unmet : Prop}
    (h : Makes course plan unmet) {before after : B.State} {events : List (Event B)}
    {outcome : Except Stop α} {state : LoopState}
    (hcourse : course before events outcome state after) : calls events <+: plan := by
  cases outcome with
  | error stop => exact (h.stopped hcourse).1
  | ok value => exact (h.done hcourse).1 ▸ List.prefix_refl _

theorem makes_then {first : Course B α} {second : α → Course B β} {p₁ p₂ : List RenderCall}
    {u₁ u₂ : Prop} (h₁ : Makes first p₁ u₁) (h₂ : ∀ a, Makes (second a) p₂ u₂) :
    Makes (Then first second) (p₁ ++ p₂) (u₁ ∨ u₂) where
  done before after events a state h := by
    cases h with
    | continued goes on =>
      obtain ⟨hc₁, hs₁, hu₁⟩ := h₁.done goes
      obtain ⟨hc₂, hs₂, hu₂⟩ := (h₂ _).done on
      exact ⟨by rw [calls_append, hc₁, hc₂], sound_append hs₁ hs₂, not_or_intro hu₁ hu₂⟩
  stopped before after events stop state h := by
    cases h with
    | stopped stops =>
      obtain ⟨hinitial, hhalts, hwhy, hreport⟩ := h₁.stopped stops
      exact ⟨hinitial.trans (List.prefix_append _ _), hhalts, hwhy.imp_right .inl, hreport⟩
    | continued goes on =>
      obtain ⟨hc₁, hs₁, _⟩ := h₁.done goes
      obtain ⟨hinitial, hhalts, hwhy, hreport⟩ := (h₂ _).stopped on
      refine ⟨?_, halts_sound hs₁ hhalts, ?_, hreport⟩
      · rw [calls_append, hc₁]
        exact (List.prefix_append_right_inj _).2 hinitial
      · obtain ⟨event, he, hfailed⟩ | hunmet := hwhy
        · exact .inl ⟨event, List.mem_append_right _ he, hfailed⟩
        · exact .inr (.inr hunmet)

theorem makes_mapped {f : α → β} {course : Course B α} {plan : List RenderCall} {unmet : Prop}
    (h : Makes course plan unmet) : Makes (Mapped f course) plan unmet where
  done before after events a state hm := by
    obtain ⟨result, hcourse, heq⟩ := hm
    cases result with
    | error stop => cases heq
    | ok value => exact h.done hcourse
  stopped before after events stop state hm := by
    obtain ⟨result, hcourse, heq⟩ := hm
    cases result with
    | error other =>
      cases heq
      exact h.stopped hcourse
    | ok value => cases heq

/-! ### The stages -/

theorem sound_of_mapError {answer : Answer B.State B.Note (Except Failure α)} {a : α}
    (h : answer.value.mapError Stop.failed = .ok a) : answer.value = .ok a := by
  cases hvalue : answer.value with
  | error failure =>
    rw [hvalue] at h
    cases h
  | ok value =>
    rw [hvalue] at h
    cases h
    rfl

theorem failed_of_mapError {answer : Answer B.State B.Note (Except Failure α)} {stop : Stop}
    (h : answer.value.mapError Stop.failed = .error stop) :
    ∃ failure, answer.value = .error failure ∧ stop = .failed failure := by
  cases hvalue : answer.value with
  | error failure =>
    rw [hvalue] at h
    cases h
    exact ⟨failure, rfl, rfl⟩
  | ok value =>
    rw [hvalue] at h
    cases h

theorem judged_failed {user : Answer B.State B.Note (Compilation B.Module)}
    {fullscreen : Option (Compilation B.Module)} {events : List (Event B)} {stop : Stop}
    (source : ComposedSource) (h : Judged user.value fullscreen events (.error stop)) :
    ((Event.compile (B := B) source "user shader" user.value).failed = true ∨
      ∃ other, fullscreen = some other ∧ other.hasErrors = true) ∧
    ∃ report, stop.report = some report := by
  cases h with
  | refused errors =>
    refine ⟨?_, _, rfl⟩
    cases herrors : user.value.hasErrors with
    | true => exact .inl (by simp only [Event.failed, herrors, Bool.true_or])
    | false =>
      rw [herrors, Bool.false_or] at errors
      cases fullscreen with
      | none => cases errors
      | some other => exact .inr ⟨other, rfl, errors⟩
  | missing _ absent =>
    exact ⟨.inl (by simp only [Event.failed, absent, Option.isNone_none, beq_self_eq_true,
      Bool.and_true, Bool.or_true]), _, rfl⟩

theorem judged_sound {user : Compilation B.Module} {fullscreen : Option (Compilation B.Module)}
    {events : List (Event B)} {modules : B.Module × B.Module × List Diagnostic}
    (source : ComposedSource) (h : Judged user fullscreen events (.ok modules)) :
    (Event.compile (B := B) source "user shader" user).failed = false ∧
      ∀ stage, fullscreen = some stage → (Event.compile (B := B) (.plain fullscreenVertex)
        "fullscreen vertex" stage).failed = false := by
  cases h with
  | passed clean present =>
    obtain ⟨huser, hstage⟩ := Bool.or_eq_false_iff.1 clean
    refine ⟨by simp only [Event.failed, huser, present, Option.isNone_some, Bool.and_false,
      Bool.or_false], fun stage heq => ?_⟩
    subst heq
    have hlabel : ("fullscreen vertex" == "user shader") = false := by decide
    simp only [Event.failed, hlabel, Bool.false_and, Bool.or_false]
    exact hstage

theorem compilations_answer (answer : Answer B.State B.Note (Compilation B.Module))
    (source : ComposedSource) (label : String) :
    ∀ event ∈ answer.events (.compile source label),
      event.call? = none ∨ event.isCompile = true :=
  List.forall_mem_cons.2 ⟨.inr rfl, fun event he => .inl (silent_notes answer.notes event he)⟩

theorem compileCalls_renderable {kind : ShaderKind} (source : String)
    (h : kind.isRenderable = true) : compileCalls kind source =
      .compile (compose source (needsTextures source)) "user shader" ::
        if kind = .vertexFragment then [] else
          [.compile (.plain fullscreenVertex) "fullscreen vertex"] := by
  cases kind <;> first | rfl | cases h

theorem makes_compiled {kind : ShaderKind} (source : String) (h : kind.isRenderable = true) :
    Makes (Compiled (B := B) kind source) (compileCalls kind source) False where
  done before after events modules state hc := by
    rw [compileCalls_renderable source h]
    cases hc with
    | own both compiled judged =>
      obtain ⟨huser, _⟩ := judged_sound (compose source (needsTextures source)) judged
      refine ⟨?_, sound_append (sound_answer huser) (silent_judged judged).sound, not_false⟩
      rw [calls_append, calls_answer, calls_silent (silent_judged judged), if_pos both]
      rfl
    | supplied fragment compiled covered judged =>
      obtain ⟨huser, hstage⟩ := judged_sound
        (compose source (needsTextures source)) judged
      refine ⟨?_, sound_append (sound_append (sound_answer huser)
        (sound_answer (hstage _ rfl))) (silent_judged judged).sound, not_false⟩
      rw [calls_append, calls_append, calls_answer, calls_answer,
        calls_silent (silent_judged judged), if_neg fragment]
      rfl
  stopped before after events stop state hc := by
    rw [compileCalls_renderable source h]
    cases hc with
    | @own user said _ both compiled judged =>
      obtain ⟨hfailed, hreport⟩ := judged_failed (compose source (needsTextures source)) judged
      refine ⟨?_, halts_silent (halts_answer _ _) (silent_judged judged), .inl ?_, hreport⟩
      · rw [calls_append, calls_answer, calls_silent (silent_judged judged), if_pos both]
        exact List.prefix_refl _
      · obtain hfailed | ⟨other, hnone, _⟩ := hfailed
        · exact ⟨_, List.mem_append_left _ List.mem_cons_self, hfailed⟩
        · cases hnone
    | @supplied user full said _ fragment compiled covered judged =>
      obtain ⟨hfailed, hreport⟩ := judged_failed (compose source (needsTextures source)) judged
      have hboth : (user.events (.compile (compose source (needsTextures source)) "user shader") ++
          full.events (.compile (.plain fullscreenVertex) "fullscreen vertex")).Pairwise
            Halts :=
        halts_compilations (compilations_answer _ _ _) (compilations_answer _ _ _)
          (halts_answer _ _) (halts_answer _ _)
      refine ⟨?_, halts_silent hboth (silent_judged judged), .inl ?_, hreport⟩
      · rw [calls_append, calls_append, calls_answer, calls_answer,
          calls_silent (silent_judged judged), if_neg fragment]
        exact List.prefix_refl _
      · obtain hfailed | ⟨other, hsome, herrors⟩ := hfailed
        · exact ⟨_, List.mem_append_left _ (List.mem_append_left _ List.mem_cons_self), hfailed⟩
        · cases hsome
          refine ⟨_, List.mem_append_left _ (List.mem_append_right _ List.mem_cons_self), ?_⟩
          simp only [Event.failed, herrors, Bool.true_or]

def Uploads (images : List (Fin channelCount × ChannelImage))
    (textures : PerChannel (Option B.Texture)) : Course B (PerChannel (Option B.Texture)) :=
  fun before events outcome _ after => Loaded images textures before events outcome after

theorem Loaded.part {images : List (Fin channelCount × ChannelImage)}
    {textures : PerChannel (Option B.Texture)} {before after : B.State} {events : List (Event B)}
    {outcome : Except Stop (PerChannel (Option B.Texture))}
    (h : Loaded images textures before events outcome after) (state : LoopState) :
    Uploads images textures before events outcome state after := h

theorem makes_uploads (images : List (Fin channelCount × ChannelImage))
    (textures : PerChannel (Option B.Texture)) :
    Makes (Uploads images textures)
      (images.map fun upload => .loadTexture upload.1 upload.2) False := by
  -- the textures uploaded so far change from one image to the next
  induction images generalizing textures with
  | nil =>
    refine ⟨fun before after events result state h => ?_,
      fun before after events stop state h => ?_⟩
    · cases h with
      | done => exact ⟨rfl, nofun, not_false⟩
    · cases h
  | cons upload images ih =>
    refine ⟨fun before after events result state h => ?_,
      fun before after events stop state h => ?_⟩
    · cases h with
      | @next channel image _ _ _ _ answer texture rest _ loaded value remaining =>
        obtain ⟨hcalls, hsound, _⟩ := (ih _).done (remaining.part state)
        refine ⟨?_, sound_append (sound_answer ?_) hsound, not_false⟩
        · rw [calls_append, calls_answer, hcalls]
          rfl
        · rw [value]
          rfl
    · cases h with
      | @failed channel image _ _ _ answer failure loaded value =>
        refine ⟨?_, halts_answer _ _, .inl ⟨_, List.mem_cons_self, ?_⟩, _, rfl⟩
        · rw [calls_answer]
          exact List.prefix_append _ _
        · rw [value]
          rfl
      | @next channel image _ _ _ _ answer texture rest _ loaded value remaining =>
        obtain ⟨hinitial, hhalts, hwhy, hreport⟩ := (ih _).stopped (remaining.part state)
        refine ⟨?_, halts_sound (sound_answer ?_) hhalts, ?_, hreport⟩
        · rw [calls_append, calls_answer]
          exact (List.prefix_append_right_inj _).2 hinitial
        · rw [value]
          rfl
        · obtain ⟨event, he, hfailed⟩ | hunmet := hwhy
          · exact .inl ⟨event, List.mem_append_right _ he, hfailed⟩
          · exact .inr hunmet

/-! ### Images and their channels -/

theorem RenderRequest.mem_uploads {request : RenderRequest} {channel : Fin channelCount}
    {image : ChannelImage} : (channel, image) ∈ request.uploads ↔
      needsTextures request.source = true ∧ request.channels channel = some image := by
  unfold RenderRequest.uploads
  cases needsTextures request.source with
  | false => simp
  | true => simp [PerChannel.populated]

theorem loaded_occupancy {images : List (Fin channelCount × ChannelImage)}
    {textures out : PerChannel (Option B.Texture)} {before after : B.State}
    {events : List (Event B)} (h : Loaded images textures before events (.ok out) after)
    (channel : Fin channelCount) : (out channel).isSome = true ↔
      (textures channel).isSome = true ∨ ∃ image, (channel, image) ∈ images := by
  generalize houtcome : Except.ok out = outcome at h
  induction h with
  | done =>
    cases houtcome
    simp
  | failed => cases houtcome
  | @next other image rest textures _ _ _ texture _ _ _ _ _ ih =>
    rw [ih houtcome]
    by_cases heq : channel = other
    · subst heq
      simp
    · rw [PerChannel.set_other _ _ heq]
      simp [heq]

/-! ### Binding, meshes and pipelines -/

theorem occupancy_loaded {request : RenderRequest} {textures : PerChannel (Option B.Texture)}
    {before after : B.State} {events : List (Event B)}
    (h : Loaded request.uploads PerChannel.empty before events (.ok textures) after) :
    PerChannel.occupancy textures = request.textured := by
  funext channel
  refine Bool.eq_iff_iff.2 ((loaded_occupancy h channel).trans ?_)
  simp only [RenderRequest.mem_uploads, PerChannel.empty, Option.isSome_none, Bool.false_eq_true,
    false_or, RenderRequest.textured, Bool.and_eq_true, Option.isSome_iff_exists,
    exists_and_left]

theorem calls_bound {request : RenderRequest} {textures : PerChannel (Option B.Texture)}
    {before between : B.State} {loads : List (Event B)}
    (h : Loaded request.uploads PerChannel.empty before loads (.ok textures) between)
    (answer : Answer B.State B.Note (Except Failure B.Resources)) :
    calls (.transition .compiling .binding :: loads ++
      answer.events (.bind request.canvas textures)) = request.bindCalls := by
  have hloads := ((makes_uploads request.uploads PerChannel.empty).done (h.part .binding)).1
  rw [calls_append, calls_answer, calls_transition, hloads, RenderRequest.bindCalls,
    ← occupancy_loaded h]
  rfl

theorem makes_bound (request : RenderRequest) (diagnostics : List Diagnostic) :
    Makes (Bound (B := B) request diagnostics) request.bindCalls request.Unpopulated where
  done before after events resources state h := by
    generalize houtcome : Except.ok resources = outcome at h
    cases h with
    | unpopulated => cases houtcome
    | unloaded => cases houtcome
    | @bound between loads textures answer populated loaded called =>
      have hvalue := sound_of_mapError houtcome.symm
      obtain ⟨_, hsound, _⟩ := (makes_uploads request.uploads PerChannel.empty).done
        (loaded.part .binding)
      have hturn : Sound (Event.transition (B := B) .compiling .binding :: loads) :=
        List.forall_mem_cons.2 ⟨rfl, hsound⟩
      refine ⟨calls_bound loaded answer, sound_append hturn (sound_answer ?_),
        RenderRequest.not_unpopulated populated⟩
      rw [hvalue]
      rfl
  stopped before after events stop state h := by
    generalize houtcome : Except.error stop = outcome at h
    cases h with
    | unpopulated textured missing =>
      cases houtcome
      have hsilent : Silent [Event.transition (B := B) .compiling .binding,
          .console missingFirstChannel] :=
        List.forall_mem_cons.2 ⟨rfl, silent_lines [missingFirstChannel]⟩
      refine ⟨?_, ?_, .inr ⟨textured, missing⟩, _, rfl⟩
      · rw [calls_silent hsilent]
        exact List.nil_prefix
      · exact halts_silent List.Pairwise.nil hsilent
    | @unloaded _ loads stop populated loaded =>
      cases houtcome
      obtain ⟨hinitial, hhalts, hwhy, hreport⟩ :=
        (makes_uploads request.uploads PerChannel.empty).stopped (loaded.part .binding)
      refine ⟨hinitial.trans (List.prefix_append _ _), ?_, ?_, hreport⟩
      · have hturn : Sound [Event.transition (B := B) .compiling .binding] :=
          List.forall_mem_singleton.2 rfl
        exact halts_sound hturn hhalts
      · obtain ⟨event, he, hfailed⟩ | hunmet := hwhy
        · exact .inl ⟨event, List.mem_cons_of_mem _ he, hfailed⟩
        · exact hunmet.elim
    | @bound between loads textures answer populated loaded called =>
      obtain ⟨failure, hvalue, rfl⟩ := failed_of_mapError houtcome.symm
      obtain ⟨_, hsound, _⟩ := (makes_uploads request.uploads PerChannel.empty).done
        (loaded.part .binding)
      have hturn : Sound (Event.transition (B := B) .compiling .binding :: loads) :=
        List.forall_mem_cons.2 ⟨rfl, hsound⟩
      refine ⟨calls_bound loaded answer ▸ List.prefix_refl _,
        halts_sound hturn (halts_answer _ _), .inl ⟨.bind request.canvas textures answer.value,
          List.mem_append_right _ List.mem_cons_self, ?_⟩, _, rfl⟩
      rw [hvalue]
      rfl

theorem makes_uploaded (vertices : Option VertexData) :
    Makes (Uploaded (B := B) vertices) (vertices.toList.map .uploadVertices) False where
  done before after events uploaded state h := by
    generalize houtcome : Except.ok uploaded = outcome at h
    cases h with
    | absent => exact ⟨rfl, nofun, not_false⟩
    | @present vertices _ answer called =>
      refine ⟨calls_answer _ _, sound_answer ?_, not_false⟩
      cases hvalue : answer.value with
      | error failure =>
        rw [hvalue] at houtcome
        cases houtcome
      | ok value => rfl
  stopped before after events stop state h := by
    generalize houtcome : Except.error stop = outcome at h
    cases h with
    | absent => cases houtcome
    | @present vertices _ answer called =>
      cases hvalue : answer.value with
      | error failure =>
        rw [hvalue] at houtcome
        cases houtcome
        refine ⟨?_, halts_answer _ _, .inl ⟨_, List.mem_cons_self, ?_⟩, _, rfl⟩
        · rw [calls_answer]
          exact List.prefix_refl _
        · rw [hvalue]
          rfl
      | ok value =>
        rw [hvalue] at houtcome
        cases houtcome

theorem makes_built (stages : PipelineStages B.Module) (resources : B.Resources) :
    Makes (Built stages resources) [.buildPipeline, .takeValidationError] False where
  done before after events pipeline state h := by
    cases h with
    | built called value checked unnoted =>
      refine ⟨?_, sound_append (List.forall_mem_cons.2 ⟨rfl, sound_answer ?_⟩)
        (sound_answer ?_), not_false⟩
      · rw [calls_append, calls_transition, calls_answer, calls_answer]
        rfl
      · rw [value]
        rfl
      · rw [unnoted]
        rfl
  stopped before after events stop state h := by
    cases h with
    | @failed answer failure called value =>
      refine ⟨?_, ?_, .inl ⟨_, List.mem_cons_of_mem _ List.mem_cons_self, ?_⟩, _, rfl⟩
      · rw [calls_transition, calls_answer]
        exact ⟨[.takeValidationError], rfl⟩
      · have hturn : Sound [Event.transition (B := B) .binding .running] :=
          List.forall_mem_singleton.2 rfl
        exact halts_sound hturn (halts_answer _ _)
      · rw [value]
        rfl
    | @invalid answer pipeline check error called value checked noted =>
      have hbuilt : Sound (Event.transition (B := B) .binding .running ::
          answer.events (.buildPipeline stages resources)) := by
        refine List.forall_mem_cons.2 ⟨rfl, sound_answer ?_⟩
        rw [value]
        rfl
      refine ⟨?_, halts_sound hbuilt (halts_answer _ _), .inl ⟨.takeValidationError check.value,
        List.mem_append_right _ List.mem_cons_self, ?_⟩, _, rfl⟩
      · rw [calls_append, calls_transition, calls_answer, calls_answer]
        exact List.prefix_refl _
      · rw [noted]
        rfl

/-! ### The stages together -/

theorem makes_assembled (request : RenderRequest) {kind : ShaderKind}
    (h : kind.isRenderable = true) (vertexEntry fragmentEntry : String) :
    Makes (Assembled (B := B) request kind vertexEntry fragmentEntry) (request.stageCalls kind)
      request.Unpopulated := by
  have hassembled : Makes (Assembled (B := B) request kind vertexEntry fragmentEntry)
      (request.stageCalls kind) (False ∨ (request.Unpopulated ∨ (False ∨ False))) :=
    makes_then (makes_compiled request.source h) fun compiled =>
      makes_then (makes_bound request _) fun resources =>
        makes_then (makes_uploaded request.vertices) fun vertices => makes_mapped (makes_built _ _)
  simpa only [or_self, or_false, false_or] using hassembled

theorem unpopulated_calls {request : RenderRequest} {diagnostics : List Diagnostic}
    {rest : B.Resources → Course B α} {before after : B.State} {events : List (Event B)}
    {outcome : Except Stop α} {state : LoopState} (hempty : request.Unpopulated)
    (h : Then (Bound request diagnostics) rest before events outcome state after) :
    calls events = [] := by
  cases h with
  | stopped stops =>
    generalize houtcome : Except.error _ = outcome at stops
    cases stops with
    | unpopulated => rfl
    | unloaded populated => exact absurd hempty (RenderRequest.not_unpopulated populated)
    | bound populated => exact absurd hempty (RenderRequest.not_unpopulated populated)
  | continued goes _ => exact absurd hempty ((makes_bound request diagnostics).done goes).2.2

theorem assembled_unpopulated {request : RenderRequest} {kind : ShaderKind}
    (hkind : kind.isRenderable = true) {vertexEntry fragmentEntry : String}
    {before after : B.State} {events : List (Event B)} {outcome : Except Stop (Assembly B)}
    {state : LoopState} (hempty : request.Unpopulated)
    (h : Assembled request kind vertexEntry fragmentEntry before events outcome state after) :
    calls events <+: compileCalls kind request.source := by
  have hcompiled := makes_compiled (B := B) request.source hkind
  cases h with
  | stopped stops => exact (hcompiled.stopped stops).1
  | continued goes on =>
    rw [calls_append, unpopulated_calls hempty on, List.append_nil]
    exact (hcompiled.done goes).1 ▸ List.prefix_refl _

theorem silent_examined {frontEnd : FrontEnd} {source : String} {before after : B.State}
    {events : List (Event B)} {outcome : Except Stop (Classification × String × String)}
    {state : LoopState} (h : Examined frontEnd source before events outcome state after) :
    Silent events := by
  cases h with
  | accepted => exact List.forall_mem_cons.2 ⟨rfl, silent_lines _⟩
  | refused => exact List.forall_mem_cons.2 ⟨rfl, silent_lines _⟩

end ShaderPreview
