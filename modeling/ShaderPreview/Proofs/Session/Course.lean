import ShaderPreview.Proofs.Shader.Classification
import ShaderPreview.Session.Operation

/-!
# Executions of an attempt

A course is a relation between backend state, events, outcome, loop state and final backend state.
Every stage has an inductive course with one constructor for each way it can go; `Prepared` composes
them up to the pipeline. The frame host is not involved before that.
-/

namespace ShaderPreview

variable {B : Backend} {H : FrameHost}

def Answer.events {α : Type} (answer : Answer B.State B.Note α) (call : α → Event B) :
    List (Event B) :=
  call answer.value :: answer.notes.map .note

def RenderLoop.after (loop : RenderLoop B H) (state : LoopState) (backend : B.State)
    (events : List (Event B)) : RenderLoop B H :=
  { loop with state := state, backend := backend, trace := loop.trace ++ events }

/-- Possible executions of a part of an attempt, as a relation over the result and the events. -/
abbrev Course (B : Backend) (α : Type) : Type :=
  B.State → List (Event B) → Except Stop α → LoopState → B.State → Prop

/-- Sequential composition; the second part runs only if the first one returns a value. -/
inductive Then {α β : Type} (first : Course B α) (second : α → Course B β) :
    B.State → List (Event B) → Except Stop β → LoopState → B.State → Prop
  | stopped {before after : B.State} {events : List (Event B)} {stop : Stop} {state : LoopState}
      (stops : first before events (.error stop) state after) :
      Then first second before events (.error stop) state after
  | continued {before between after : B.State} {e₁ e₂ : List (Event B)} {a : α}
      {outcome : Except Stop β} {mid state : LoopState}
      (goes : first before e₁ (.ok a) mid between)
      (on : second a between e₂ outcome state after) :
      Then first second before (e₁ ++ e₂) outcome state after

def Mapped {α β : Type} (f : α → β) (course : Course B α) : Course B β :=
  fun before events outcome state after =>
    ∃ result, course before events result state after ∧ outcome = result.map f

/-! ### Examining and compiling -/

/-- Console lines for a shader that cannot be rendered. -/
def refusalLines (classification : Classification) : List String :=
  (if classification.entryPoints.isEmpty && classification.kind == .invalid then [noEntryPoints]
    else []) ++ [s!"Shader validation failed: {classification.complaint}"]

/-- Console lines for a shader that can be rendered. -/
def acceptanceLines (classification : Classification) : List String :=
  s!"Detected shader type: {classification.kind.label}" :: classification.warnings

inductive Examined (frontEnd : FrontEnd) (source : String) :
    B.State → List (Event B) → Except Stop (Classification × String × String) → LoopState →
      B.State → Prop
  | accepted {names : String × String} (before : B.State)
      (renderable : (frontEnd.classify source).isRenderable = true)
      (entries : (frontEnd.classify source).entryNames? = some names) :
      Examined frontEnd source before
        (.transition .acquiring .compiling ::
          (acceptanceLines (frontEnd.classify source)).map .console)
        (.ok (frontEnd.classify source, names)) .compiling before
  | refused (before : B.State) (unrenderable : (frontEnd.classify source).isRenderable = false) :
      Examined frontEnd source before
        (.transition .acquiring .compiling ::
          (refusalLines (frontEnd.classify source)).map .console)
        (.error (.rejected (some
          (Diagnostic.normalize (frontEnd.classify source).complaint 0)))) .compiling before

/-- Decision after compilation: rejected if a diagnostic is an error, otherwise the modules. -/
inductive Judged (user : Compilation B.Module) (fullscreen : Option (Compilation B.Module)) :
    List (Event B) → Except Stop (B.Module × B.Module × List Diagnostic) → Prop
  | refused
      (errors : (user.hasErrors || (fullscreen.map (·.hasErrors)).getD false) = true) :
      Judged user fullscreen [.console "Shader compilation failed."]
        (.error (.rejected (some
          (user.diagnostics ++ (fullscreen.map (·.diagnostics)).getD []))))
  | missing
      (clean : (user.hasErrors || (fullscreen.map (·.hasErrors)).getD false) = false)
      (absent : user.module = none) :
      Judged user fullscreen []
        (.error (.failed (.of "compiler produced no module without reporting errors")))
  | passed {module : B.Module}
      (clean : (user.hasErrors || (fullscreen.map (·.hasErrors)).getD false) = false)
      (present : user.module = some module) :
      Judged user fullscreen []
        (.ok ((fullscreen.bind (·.module)).getD module, module,
          user.diagnostics ++ (fullscreen.map (·.diagnostics)).getD []))

inductive Compiled (kind : ShaderKind) (source : String) :
    B.State → List (Event B) → Except Stop (B.Module × B.Module × List Diagnostic) → LoopState →
      B.State → Prop
  | own {before : B.State} {user : Answer B.State B.Note (Compilation B.Module)}
      {events : List (Event B)} {outcome : Except Stop (B.Module × B.Module × List Diagnostic)}
      (both : kind = .vertexFragment)
      (compiled : B.compile (compose source (needsTextures source)) "user shader" before = user)
      (judged : Judged user.value none events outcome) :
      Compiled kind source before
        (user.events (.compile (compose source (needsTextures source)) "user shader") ++ events)
        outcome .compiling user.state
  | supplied {before : B.State} {user fullscreen : Answer B.State B.Note (Compilation B.Module)}
      {events : List (Event B)} {outcome : Except Stop (B.Module × B.Module × List Diagnostic)}
      (fragment : kind ≠ .vertexFragment)
      (compiled : B.compile (compose source (needsTextures source)) "user shader" before = user)
      (covered :
        B.compile (.plain fullscreenVertex) "fullscreen vertex" user.state = fullscreen)
      (judged : Judged user.value (some fullscreen.value) events outcome) :
      Compiled kind source before
        (user.events (.compile (compose source (needsTextures source)) "user shader") ++
          fullscreen.events (.compile (.plain fullscreenVertex) "fullscreen vertex") ++ events)
        outcome .compiling fullscreen.state

/-! ### Binding and building -/

/-- Texture uploads up to the first failure. -/
inductive Loaded : List (Fin channelCount × ChannelImage) → PerChannel (Option B.Texture) →
    B.State → List (Event B) → Except Stop (PerChannel (Option B.Texture)) → B.State → Prop
  | done (textures : PerChannel (Option B.Texture)) (before : B.State) :
      Loaded [] textures before [] (.ok textures) before
  | failed {channel : Fin channelCount} {image : ChannelImage}
      {rest : List (Fin channelCount × ChannelImage)} {textures : PerChannel (Option B.Texture)}
      {before : B.State} {answer : Answer B.State B.Note (Except Failure B.Texture)}
      {failure : Failure}
      (loaded : B.loadTexture channel image before = answer)
      (value : answer.value = .error failure) :
      Loaded ((channel, image) :: rest) textures before
        (answer.events (.loadTexture channel image))
        (.error (.failed
          (failure.because s!"failed to upload texture for iChannel{channel.val}")))
        answer.state
  | next {channel : Fin channelCount} {image : ChannelImage}
      {rest : List (Fin channelCount × ChannelImage)} {textures : PerChannel (Option B.Texture)}
      {before after : B.State} {answer : Answer B.State B.Note (Except Failure B.Texture)}
      {texture : B.Texture} {events : List (Event B)}
      {outcome : Except Stop (PerChannel (Option B.Texture))}
      (loaded : B.loadTexture channel image before = answer)
      (value : answer.value = .ok texture)
      (remaining : Loaded rest (PerChannel.set textures channel (some texture)) answer.state
        events outcome after) :
      Loaded ((channel, image) :: rest) textures before
        (answer.events (.loadTexture channel image) ++ events) outcome after

/-- Images to upload: those of the request, if the shader samples textures. -/
def RenderRequest.uploads (request : RenderRequest) : List (Fin channelCount × ChannelImage) :=
  if needsTextures request.source then PerChannel.populated request.channels else []

inductive Bound (request : RenderRequest) (diagnostics : List Diagnostic) :
    B.State → List (Event B) → Except Stop B.Resources → LoopState → B.State → Prop
  | unpopulated (before : B.State) (textured : needsTextures request.source = true)
      (missing : request.channels.isPopulated 0 = false) :
      Bound request diagnostics before
        [.transition .compiling .binding, .console missingFirstChannel]
        (.error (.rejected (some (diagnostics ++ [.general missingFirstChannel])))) .binding before
  | unloaded {before after : B.State} {events : List (Event B)} {stop : Stop}
      (populated : (needsTextures request.source && !request.channels.isPopulated 0) = false)
      (loaded : Loaded request.uploads PerChannel.empty before events (.error stop) after) :
      Bound request diagnostics before (.transition .compiling .binding :: events)
        (.error stop) .binding after
  | bound {before between : B.State} {events : List (Event B)}
      {textures : PerChannel (Option B.Texture)}
      {answer : Answer B.State B.Note (Except Failure B.Resources)}
      (populated : (needsTextures request.source && !request.channels.isPopulated 0) = false)
      (loaded : Loaded request.uploads PerChannel.empty before events (.ok textures) between)
      (called : B.bind request.canvas textures between = answer) :
      Bound request diagnostics before
        (.transition .compiling .binding :: events ++ answer.events (.bind request.canvas textures))
        (answer.value.mapError .failed) .binding answer.state

inductive Uploaded : Option VertexData → B.State → List (Event B) →
    Except Stop (Option B.Vertices) → LoopState → B.State → Prop
  | absent (before : B.State) : Uploaded none before [] (.ok none) .binding before
  | present {vertices : VertexData} {before : B.State}
      {answer : Answer B.State B.Note (Except Failure B.Vertices)}
      (called : B.uploadVertices vertices before = answer) :
      Uploaded (some vertices) before (answer.events (.uploadVertices vertices))
        ((answer.value.mapError .failed).map some) .binding answer.state

/-- Pipeline creation, followed by the query for validation errors. -/
inductive Built (stages : PipelineStages B.Module) (resources : B.Resources) :
    B.State → List (Event B) → Except Stop B.Pipeline → LoopState → B.State → Prop
  | failed {before : B.State} {answer : Answer B.State B.Note (Except Failure B.Pipeline)}
      {failure : Failure}
      (called : B.buildPipeline stages resources before = answer)
      (value : answer.value = .error failure) :
      Built stages resources before
        (.transition .binding .running :: answer.events (.buildPipeline stages resources))
        (.error (.failed failure)) .running answer.state
  | invalid {before : B.State} {answer : Answer B.State B.Note (Except Failure B.Pipeline)}
      {pipeline : B.Pipeline} {check : Answer B.State B.Note (Option String)} {error : String}
      (called : B.buildPipeline stages resources before = answer)
      (value : answer.value = .ok pipeline)
      (checked : B.takeValidationError answer.state = check)
      (noted : check.value = some error) :
      Built stages resources before
        (.transition .binding .running :: answer.events (.buildPipeline stages resources) ++
          check.events .takeValidationError)
        (.error (.rejected (some [.general s!"GPU validation error: {error}"]))) .running
        check.state
  | built {before : B.State} {answer : Answer B.State B.Note (Except Failure B.Pipeline)}
      {pipeline : B.Pipeline} {check : Answer B.State B.Note (Option String)}
      (called : B.buildPipeline stages resources before = answer)
      (value : answer.value = .ok pipeline)
      (checked : B.takeValidationError answer.state = check)
      (unnoted : check.value = none) :
      Built stages resources before
        (.transition .binding .running :: answer.events (.buildPipeline stages resources) ++
          check.events .takeValidationError)
        (.ok pipeline) .running check.state

/-! ### The state of the loop after a stage -/

section

variable {before after : B.State} {events : List (Event B)} {state : LoopState}

theorem examined_state {frontEnd : FrontEnd} {source : String}
    {outcome : Except Stop (Classification × String × String)}
    (h : Examined frontEnd source before events outcome state after) : state = .compiling := by
  cases h <;> rfl

theorem compiled_state {kind : ShaderKind} {source : String}
    {outcome : Except Stop (B.Module × B.Module × List Diagnostic)}
    (h : Compiled kind source before events outcome state after) : state = .compiling := by
  cases h <;> rfl

theorem bound_state {request : RenderRequest} {diagnostics : List Diagnostic}
    {outcome : Except Stop B.Resources}
    (h : Bound request diagnostics before events outcome state after) : state = .binding := by
  cases h <;> rfl

theorem uploaded_state {vertices : Option VertexData} {outcome : Except Stop (Option B.Vertices)}
    (h : Uploaded vertices before events outcome state after) : state = .binding := by
  cases h <;> rfl

theorem built_state {stages : PipelineStages B.Module} {resources : B.Resources}
    {outcome : Except Stop B.Pipeline}
    (h : Built stages resources before events outcome state after) : state = .running := by
  cases h <;> rfl

end

/-! ### All stages up to the pipeline -/

/-- GPU objects of a session. -/
structure Assembly (B : Backend) where
  pipeline : B.Pipeline
  resources : B.Resources
  vertices : Option B.Vertices
  diagnostics : List Diagnostic

/-- From compilation to the pipeline. -/
def Assembled (request : RenderRequest) (kind : ShaderKind) (vertexEntry fragmentEntry : String) :
    Course B (Assembly B) :=
  Then (Compiled kind request.source) fun (vertexModule, fragmentModule, diagnostics) =>
  Then (Bound request diagnostics) fun resources =>
  Then (Uploaded request.vertices) fun vertices =>
  Mapped (fun pipeline => ⟨pipeline, resources, vertices, diagnostics⟩)
    (Built ⟨vertexModule, vertexEntry, fragmentModule, fragmentEntry, vertices.isSome⟩ resources)

/-- All stages up to the pipeline. -/
def Prepared (frontEnd : FrontEnd) (request : RenderRequest) : Course B (Assembly B) :=
  Then (Examined frontEnd request.source) fun (classification, vertexEntry, fragmentEntry) =>
    Assembled request classification.kind vertexEntry fragmentEntry

theorem prepared_running {frontEnd : FrontEnd} {request : RenderRequest} {before after : B.State}
    {events : List (Event B)} {assembly : Assembly B} {state : LoopState}
    (h : Prepared frontEnd request before events (.ok assembly) state after) :
    state = .running := by
  obtain ⟨_, _⟩ | ⟨_, hcompiled⟩ := h
  obtain ⟨_, _⟩ | ⟨_, hbound⟩ := hcompiled
  obtain ⟨_, _⟩ | ⟨_, huploaded⟩ := hbound
  obtain ⟨_, _⟩ | ⟨_, hbuilt⟩ := huploaded
  obtain ⟨_, hbuilt, _⟩ := hbuilt
  exact built_state hbuilt

/-! ### What keeps within the stages -/

/-- Events of the stages: transitions, backend calls other than acquiring the device and drawing,
and console lines. -/
def Event.isStage : Event B → Bool
  | .transition .. | .compile .. | .loadTexture .. | .bind .. | .uploadVertices ..
  | .buildPipeline .. | .takeValidationError .. | .console .. | .note .. => true
  | .acquire .. | .draw .. | .requestFrame .. | .cancelFrame .. | .observeResize ..
  | .disconnectResize .. | .errors .. => false

theorem stage_notes (notes : List B.Note) :
    ∀ event ∈ notes.map (Event.note (B := B)), event.isStage = true := by
  intro event he
  obtain ⟨note, _, rfl⟩ := List.mem_map.1 he
  rfl

theorem stage_answer {α : Type} {answer : Answer B.State B.Note α} {call : α → Event B}
    (h : (call answer.value).isStage = true) :
    ∀ event ∈ answer.events call, event.isStage = true :=
  List.forall_mem_cons.2 ⟨h, stage_notes answer.notes⟩

theorem stage_lines (lines : List String) :
    ∀ event ∈ lines.map (Event.console (B := B)), event.isStage = true := by
  intro event he
  obtain ⟨line, _, rfl⟩ := List.mem_map.1 he
  rfl

/-- All events are stage events, and the resulting state is not `idle`. -/
def Inner {α : Type} (course : Course B α) : Prop :=
  ∀ ⦃before events outcome state after⦄, course before events outcome state after →
    (∀ event ∈ events, event.isStage = true) ∧ state ≠ .idle

theorem inner_then {α β : Type} {first : Course B α} {second : α → Course B β}
    (h₁ : Inner first) (h₂ : ∀ a, Inner (second a)) : Inner (Then first second) := by
  intro before events outcome state after h
  cases h with
  | stopped stops => exact h₁ stops
  | continued goes on =>
    obtain ⟨he, hne⟩ := h₂ _ on
    exact ⟨List.forall_mem_append.2 ⟨(h₁ goes).1, he⟩, hne⟩

theorem inner_mapped {α β : Type} {f : α → β} {course : Course B α} (h : Inner course) :
    Inner (Mapped f course) := by
  intro before events outcome state after hm
  obtain ⟨result, hc, _⟩ := hm
  exact h hc

theorem inner_examined (frontEnd : FrontEnd) (source : String) :
    Inner (Examined (B := B) frontEnd source) := by
  intro before events outcome state after h
  cases h with
  | accepted => exact ⟨List.forall_mem_cons.2 ⟨rfl, stage_lines _⟩, by decide⟩
  | refused => exact ⟨List.forall_mem_cons.2 ⟨rfl, stage_lines _⟩, by decide⟩

theorem stage_judged {user : Compilation B.Module} {fullscreen : Option (Compilation B.Module)}
    {events : List (Event B)} {outcome : Except Stop (B.Module × B.Module × List Diagnostic)}
    (h : Judged user fullscreen events outcome) : ∀ event ∈ events, event.isStage = true := by
  cases h with
  | refused => exact stage_lines ["Shader compilation failed."]
  | missing => exact stage_lines []
  | passed => exact stage_lines []

theorem inner_compiled (kind : ShaderKind) (source : String) :
    Inner (Compiled (B := B) kind source) := by
  intro before events outcome state after h
  cases h with
  | own _ _ judged =>
    exact ⟨List.forall_mem_append.2 ⟨stage_answer rfl, stage_judged judged⟩, by decide⟩
  | supplied _ _ _ judged =>
    exact ⟨List.forall_mem_append.2 ⟨List.forall_mem_append.2 ⟨stage_answer rfl, stage_answer rfl⟩,
      stage_judged judged⟩, by decide⟩

theorem stage_loaded {images : List (Fin channelCount × ChannelImage)}
    {textures : PerChannel (Option B.Texture)} {before after : B.State} {events : List (Event B)}
    {outcome : Except Stop (PerChannel (Option B.Texture))}
    (h : Loaded images textures before events outcome after) :
    ∀ event ∈ events, event.isStage = true := by
  induction h with
  | done => exact stage_lines []
  | failed => exact stage_answer rfl
  | next _ _ _ ih => exact List.forall_mem_append.2 ⟨stage_answer rfl, ih⟩

theorem inner_bound (request : RenderRequest) (diagnostics : List Diagnostic) :
    Inner (Bound (B := B) request diagnostics) := by
  intro before events outcome state after h
  cases h with
  | unpopulated =>
    exact ⟨List.forall_mem_cons.2 ⟨rfl, stage_lines [missingFirstChannel]⟩, by decide⟩
  | unloaded _ loaded => exact ⟨List.forall_mem_cons.2 ⟨rfl, stage_loaded loaded⟩, by decide⟩
  | bound _ loaded _ =>
    exact ⟨List.forall_mem_append.2 ⟨List.forall_mem_cons.2 ⟨rfl, stage_loaded loaded⟩,
      stage_answer rfl⟩, by decide⟩

theorem inner_uploaded (vertices : Option VertexData) : Inner (Uploaded (B := B) vertices) := by
  intro before events outcome state after h
  cases h with
  | absent => exact ⟨stage_lines [], by decide⟩
  | present => exact ⟨stage_answer rfl, by decide⟩

theorem inner_built (stages : PipelineStages B.Module) (resources : B.Resources) :
    Inner (Built stages resources) := by
  intro before events outcome state after h
  cases h with
  | failed => exact ⟨List.forall_mem_cons.2 ⟨rfl, stage_answer rfl⟩, by decide⟩
  | invalid =>
    exact ⟨List.forall_mem_append.2 ⟨List.forall_mem_cons.2 ⟨rfl, stage_answer rfl⟩,
      stage_answer rfl⟩, by decide⟩
  | built =>
    exact ⟨List.forall_mem_append.2 ⟨List.forall_mem_cons.2 ⟨rfl, stage_answer rfl⟩,
      stage_answer rfl⟩, by decide⟩

theorem inner_prepared (frontEnd : FrontEnd) (request : RenderRequest) :
    Inner (Prepared (B := B) frontEnd request) := by
  refine inner_then (inner_examined _ _) fun examined => ?_
  refine inner_then (inner_compiled _ _) fun compiled => ?_
  refine inner_then (inner_bound _ _) fun resources => ?_
  exact inner_then (inner_uploaded _) fun vertices => inner_mapped (inner_built _ _)

end ShaderPreview
