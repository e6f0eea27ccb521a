import ShaderPreview.Proofs.Session.Plan

/-!
# Vertex stage of a pipeline

A source with a vertex stage is drawn with it, any other with the fullscreen stage compiled in the
same attempt. If the fullscreen compilation gives neither module nor error, the user's module is
used in its place.
-/

namespace ShaderPreview

variable {B : Backend} {H : FrameHost} {α β : Type}

/-- Origin of the vertex stage of a pipeline, in terms of the compilations among the events. -/
inductive VertexStage (source : String) (classification : Classification)
    (events : List (Event B)) (stages : PipelineStages B.Module) : Prop
  | own {user : Compilation B.Module} {entry : EntryPoint} {others : List EntryPoint}
      (kind : classification.kind = .vertexFragment)
      (compiled : Event.compile (compose source (needsTextures source)) "user shader" user ∈ events)
      (module : user.module = some stages.vertexModule)
      (first : classification.entryPoints.vertex = entry :: others)
      (named : stages.vertexEntry = entry.name)
  | fullscreen {covering : Compilation B.Module}
      (kind : classification.kind = .fragmentOnly)
      (compiled : Event.compile (.plain fullscreenVertex) "fullscreen vertex" covering ∈ events)
      (module : covering.module = some stages.vertexModule)
      (named : stages.vertexEntry = fullscreenEntry)
  /-- The fullscreen stage compiled without errors and without a module. -/
  | substitute {user covering : Compilation B.Module}
      (kind : classification.kind = .fragmentOnly)
      (compiled : Event.compile (.plain fullscreenVertex) "fullscreen vertex" covering ∈ events)
      (missing : covering.module = none) (clean : covering.hasErrors = false)
      (besides : Event.compile (compose source (needsTextures source)) "user shader" user ∈ events)
      (module : user.module = some stages.vertexModule)
      (named : stages.vertexEntry = fullscreenEntry)

/-! ### Where a pipeline is built -/

theorem then_second {first : Course B α} {second : α → Course B β} {before after : B.State}
    {events : List (Event B)} {outcome : Except Stop β} {state : LoopState}
    (h : Then first second before events outcome state after) {event : Event B}
    (he : event ∈ events)
    (hfirst : ∀ ⦃b e o s a⦄, first b e o s a → event ∉ e) :
    ∃ a e₁ mid between e₂, first before e₁ (.ok a) mid between ∧
      second a between e₂ outcome state after ∧ event ∈ e₂ := by
  cases h with
  | stopped stops => exact absurd he (hfirst stops)
  | continued goes on =>
    obtain hleft | hright := List.mem_append.1 he
    · exact absurd hleft (hfirst goes)
    · exact ⟨_, _, _, _, _, goes, on, hright⟩

theorem not_mem_of_makes {course : Course B α} {plan : List RenderCall} {unmet : Prop}
    (h : Makes course plan unmet) {event : Event B} {call : RenderCall}
    (hcall : event.call? = some call) (hplan : call ∉ plan) :
    ∀ ⦃before events outcome state after⦄, course before events outcome state after →
      event ∉ events :=
  fun _ _ _ _ _ hcourse he => hplan ((h.initial hcourse).subset (mem_calls he hcall))

theorem built_stages {stages other : PipelineStages B.Module} {resources used : B.Resources}
    {result : Except Failure B.Pipeline} {before after : B.State} {events : List (Event B)}
    {outcome : Except Stop B.Pipeline} {state : LoopState}
    (h : Built stages resources before events outcome state after)
    (hbuild : Event.buildPipeline other used result ∈ events) : other = stages := by
  cases h <;>
    simp only [Answer.events, List.cons_append, List.mem_cons, List.mem_append, List.mem_map,
      reduceCtorEq, and_false, exists_false, false_or, or_false, Event.buildPipeline.injEq]
      at hbuild <;>
    exact hbuild.1

theorem uploaded_isSome {mesh : Option VertexData} {vertices : Option B.Vertices}
    {before after : B.State} {events : List (Event B)} {state : LoopState}
    (h : Uploaded mesh before events (.ok vertices) state after) :
    vertices.isSome = mesh.isSome := by
  generalize houtcome : Except.ok vertices = outcome at h
  cases h with
  | absent =>
    cases houtcome
    rfl
  | @present mesh _ answer called =>
    cases hvalue : answer.value with
    | error failure =>
      rw [hvalue] at houtcome
      cases houtcome
    | ok uploaded =>
      rw [hvalue] at houtcome
      cases houtcome
      rfl

theorem compileCalls_build (kind : ShaderKind) (source : String) :
    RenderCall.buildPipeline ∉ compileCalls kind source := by
  unfold compileCalls
  split <;> simp

theorem bindCalls_build (request : RenderRequest) :
    RenderCall.buildPipeline ∉ request.bindCalls := by
  simp [RenderRequest.bindCalls]

theorem bindCalls_compile (request : RenderRequest) (source : ComposedSource) (label : String) :
    RenderCall.compile source label ∉ request.bindCalls ++
      (request.vertices.toList.map .uploadVertices ++ [.buildPipeline, .takeValidationError]) := by
  simp [RenderRequest.bindCalls]

theorem assembled_builds {request : RenderRequest} {kind : ShaderKind}
    (hkind : kind.isRenderable = true) {vertexEntry fragmentEntry : String}
    {before after : B.State} {events : List (Event B)} {outcome : Except Stop (Assembly B)}
    {state : LoopState}
    (h : Assembled request kind vertexEntry fragmentEntry before events outcome state after)
    {stages : PipelineStages B.Module} {resources : B.Resources}
    {result : Except Failure B.Pipeline}
    (hbuild : Event.buildPipeline stages resources result ∈ events) :
    ∃ modules compilations mid between,
      Compiled kind request.source before compilations (.ok modules) mid between ∧
      (∀ event ∈ compilations, event ∈ events) ∧
      (∀ source label compilation, Event.compile source label compilation ∈ events →
        (Event.compile (B := B) source label compilation).failed = false) ∧
      stages.vertexModule = modules.1 ∧ stages.vertexEntry = vertexEntry ∧
      stages.usesVertexInput = request.vertices.isSome := by
  have hcompiled := makes_compiled (B := B) request.source hkind
  cases h with
  | stopped stops =>
    exact absurd hbuild (not_mem_of_makes hcompiled rfl (compileCalls_build _ _) stops)
  | @continued _ _ e₁ e₂ modules _ _ _ goes on =>
    have hnone₁ : Event.buildPipeline stages resources result ∉ e₁ :=
      not_mem_of_makes hcompiled rfl (compileCalls_build _ _) goes
    have hsecond := (List.mem_append.1 hbuild).resolve_left hnone₁
    obtain ⟨bound, _, _, _, _, _, hrest, hsecond⟩ := then_second on hsecond
      (not_mem_of_makes (makes_bound request modules.2.2) rfl (bindCalls_build request))
    obtain ⟨vertices, _, _, _, _, huploaded, hbuilt, hsecond⟩ := then_second hrest hsecond
      (not_mem_of_makes (makes_uploaded request.vertices) rfl (by simp))
    obtain ⟨pipeline, hbuilt, _⟩ := hbuilt
    have hstages := built_stages hbuilt hsecond
    have hinput := uploaded_isSome huploaded
    refine ⟨modules, e₁, _, _, goes, fun event he => List.mem_append_left _ he, ?_,
      by rw [hstages], by rw [hstages], by rw [hstages, ← hinput]⟩
    intro source label compilation hcompile
    obtain hleft | hright := List.mem_append.1 hcompile
    · exact (hcompiled.done goes).2.1 _ hleft
    · have hlater : Makes _ _ (request.Unpopulated ∨ (False ∨ False)) :=
        makes_then (makes_bound request modules.2.2) fun resources =>
          makes_then (makes_uploaded request.vertices) fun vertices =>
            makes_mapped (makes_built (B := B) ⟨modules.1, vertexEntry, modules.2.1, fragmentEntry,
              vertices.isSome⟩ resources)
              (f := fun pipeline => (⟨pipeline, resources, vertices, modules.2.2⟩ : Assembly B))
      exact absurd hright (not_mem_of_makes hlater rfl (bindCalls_compile request _ _) on)

theorem VertexStage.among {source : String} {classification : Classification}
    {part events : List (Event B)} {stages : PipelineStages B.Module}
    (h : VertexStage source classification part stages) (hpart : ∀ event ∈ part, event ∈ events) :
    VertexStage source classification events stages := by
  cases h with
  | own kind compiled module first named => exact .own kind (hpart _ compiled) module first named
  | fullscreen kind compiled module named =>
    exact .fullscreen kind (hpart _ compiled) module named
  | substitute kind compiled missing clean besides module named =>
    exact .substitute kind (hpart _ compiled) missing clean (hpart _ besides) module named

theorem renderable_fullscreen {classification : Classification}
    (h : classification.isRenderable = true) (hkind : classification.kind ≠ .vertexFragment) :
    classification.kind = .fragmentOnly := by
  unfold Classification.isRenderable at h
  cases hk : classification.kind with
  | fragmentOnly => rfl
  | vertexFragment => exact absurd hk hkind
  | invalid | parseError =>
    rw [hk] at h
    cases h

theorem compiled_stage {source : String} {classification : Classification}
    {names : String × String} (hrenderable : classification.isRenderable = true)
    (hnames : classification.entryNames? = some names) {before after : B.State}
    {events : List (Event B)} {modules : B.Module × B.Module × List Diagnostic}
    {state : LoopState}
    (h : Compiled classification.kind source before events (.ok modules) state after)
    {stages : PipelineStages B.Module} (hmodule : stages.vertexModule = modules.1)
    (hentry : stages.vertexEntry = names.1) :
    VertexStage source classification events stages := by
  cases h with
  | own both compiled judged =>
    obtain ⟨entry, others, hfirst, hname⟩ := Classification.entryNames_own hnames both
    cases judged with
    | passed _ present =>
      refine .own both (List.mem_append_left _ List.mem_cons_self) ?_ hfirst (hentry.trans hname)
      rw [hmodule]
      exact present
  | @supplied user covering said _ fragment compiled covered judged =>
    have hkind := renderable_fullscreen hrenderable fragment
    have hname := hentry.trans (Classification.entryNames_fullscreen hnames fragment)
    have hcovering : Event.compile (.plain fullscreenVertex) "fullscreen vertex" covering.value ∈
        user.events (.compile (compose source (needsTextures source)) "user shader") ++
          covering.events (.compile (.plain fullscreenVertex) "fullscreen vertex") ++ said :=
      List.mem_append_left _ (List.mem_append_right _ List.mem_cons_self)
    cases judged with
    | passed clean present =>
      -- both kinds of shader fall back on the user's module
      cases hcover : covering.value.module with
      | some module =>
        refine .fullscreen hkind hcovering ?_ hname
        rw [hmodule, Option.bind_some, hcover]
        rfl
      | none =>
        refine .substitute hkind hcovering hcover (Bool.or_eq_false_iff.1 clean).2
          (List.mem_append_left _ (List.mem_append_left _ List.mem_cons_self)) ?_ hname
        rw [hmodule, Option.bind_some, hcover]
        exact present

theorem prepared_builds {frontEnd : FrontEnd} {request : RenderRequest} {before after : B.State}
    {events : List (Event B)} {outcome : Except Stop (Assembly B)} {state : LoopState}
    (h : Prepared frontEnd request before events outcome state after)
    {stages : PipelineStages B.Module} {resources : B.Resources}
    {result : Except Failure B.Pipeline}
    (hbuild : Event.buildPipeline stages resources result ∈ events) :
    VertexStage request.source (frontEnd.classify request.source) events stages ∧
      stages.usesVertexInput = request.vertices.isSome ∧
      ∀ source label compilation, Event.compile source label compilation ∈ events →
        (Event.compile (B := B) source label compilation).failed = false := by
  cases h with
  | stopped stops => cases silent_examined stops _ hbuild
  | @continued _ _ e₁ e₂ _ _ _ _ goes on =>
    have hsilent := silent_examined goes
    have hlater {event : Event B} {call : RenderCall} (he : event ∈ e₁ ++ e₂)
        (hcall : event.call? = some call) : event ∈ e₂ := by
      refine (List.mem_append.1 he).resolve_left fun hleft => ?_
      rw [hsilent event hleft] at hcall
      cases hcall
    cases goes with
    | accepted _ renderable entries =>
      obtain ⟨modules, compilations, _, _, hcompiled, hamong, hclean, hmodule, hentry, hinput⟩ :=
        assembled_builds renderable on (hlater hbuild rfl)
      have hstage := compiled_stage renderable entries hcompiled hmodule hentry
      refine ⟨hstage.among fun event he => List.mem_append_right _ (hamong event he), hinput, ?_⟩
      intro source label compilation hcompile
      exact hclean source label compilation (hlater hcompile rfl)

theorem prepared_failure {frontEnd : FrontEnd} {request : RenderRequest} {before after : B.State}
    {events : List (Event B)} {stop : Stop} {state : LoopState}
    (h : Prepared frontEnd request before events (.error stop) state after)
    {source : ComposedSource} {label : String} {compilation : Compilation B.Module}
    (hcompile : .compile source label compilation ∈ events)
    (hfailed : (Event.compile (B := B) source label compilation).failed = true) :
    (∀ stages resources result, .buildPipeline stages resources result ∉ events) ∧
      ∃ report, stop.report = some report ∧ (B.Compiles → rejects report = true) := by
  refine ⟨fun stages resources result hbuild => ?_, ?_⟩
  · have hclean := (prepared_builds h hbuild).2.2 source label compilation hcompile
    rw [hfailed] at hclean
    cases hclean
  · obtain ⟨_, _, _, report, hreport⟩ := prepared_halted h
    refine ⟨report, hreport, fun hB => ?_⟩
    obtain ⟨other, hother, hverdict⟩ := prepared_stopped hB h
    obtain rfl : report = other := Option.some.inj (hreport.symm.trans hother)
    -- a shader that cannot be shown is not compiled at all
    obtain ⟨_, hrejects⟩ | ⟨hrefused, _⟩ := hverdict
    · exact hrejects
    · have hcall := mem_calls hcompile rfl
      rw [prepared_unrenderable hrefused h] at hcall
      cases hcall

/-! ### Pipelines of an attempt -/

def Event.isModule : Event B → Bool
  | .compile .. | .buildPipeline .. => true
  | _ => false

theorem mem_between {turn : List (Event B)} (hturn : Turns turn)
    (answer : Answer B.State B.Note Bool) (canvas : CanvasSize) (stages : List (Event B))
    {tail : List (Event B)} {kind : Event B → Bool}
    (hsilent : ∀ event, event.call? = none → kind event = false)
    (hacquire : kind (.acquire canvas answer.value) = false)
    (htail : ∀ event ∈ tail, kind event = false) {event : Event B} (hevent : kind event = true) :
    event ∈ turn ++ (answer.events (.acquire canvas) ++ (stages ++ tail)) ↔ event ∈ stages := by
  have hturned : event ∉ turn :=
    not_mem_of_false hevent fun other hother => hsilent other (hturn.silent other hother)
  have hacquired : event ∉ answer.events (.acquire canvas) := by
    refine not_mem_of_false hevent (List.forall_mem_cons.2 ⟨hacquire, fun other hother => ?_⟩)
    exact hsilent other (silent_notes answer.notes other hother)
  have hended : event ∉ tail := not_mem_of_false hevent htail
  simp only [List.mem_append, hturned, hacquired, hended, false_or, or_false]

theorem mem_stages {turn : List (Event B)} (hturn : Turns turn)
    (answer : Answer B.State B.Note Bool) (canvas : CanvasSize) (stages : List (Event B))
    {tail : List (Event B)} (htail : ∀ event ∈ tail, event.isModule = false) {event : Event B}
    (hevent : event.isModule = true) :
    event ∈ turn ++ (answer.events (.acquire canvas) ++ (stages ++ tail)) ↔ event ∈ stages := by
  refine mem_between hturn answer canvas stages (fun event hevent => ?_) rfl htail hevent
  cases event <;> first | rfl | cases hevent

theorem staged_builds {frontEnd : FrontEnd} {request : RenderRequest} {turn : List (Event B)}
    (hturn : Turns turn) (answer : Answer B.State B.Note Bool) {stages tail : List (Event B)}
    (htail : ∀ event ∈ tail, event.isModule = false) {outcome : Except Stop (Assembly B)}
    {state : LoopState} {before after : B.State}
    (h : Prepared frontEnd request before stages outcome state after)
    {pipeline : PipelineStages B.Module} {resources : B.Resources}
    {result : Except Failure B.Pipeline}
    (hbuild : .buildPipeline pipeline resources result ∈
      turn ++ (answer.events (.acquire request.canvas) ++ (stages ++ tail))) :
    VertexStage request.source (frontEnd.classify request.source)
      (turn ++ (answer.events (.acquire request.canvas) ++ (stages ++ tail))) pipeline := by
  have hbuilds := (mem_stages hturn answer request.canvas stages htail rfl).1 hbuild
  refine (prepared_builds h hbuilds).1.among fun event he => ?_
  exact List.mem_append_right _ (List.mem_append_right _ (List.mem_append_left _ he))

/-- The vertex stage of a pipeline is the user's module, or the fullscreen module compiled in the
same attempt, or, if that compilation gave neither a module nor an error, the user's module instead.
An attempt with a failed compilation builds no pipeline and ends idle, with an error if the backend
compiles by its diagnostics. -/
theorem pipeline_vertex_stage (frontEnd : FrontEnd) (request : RenderRequest) (now : Nat)
    (loop : RenderLoop B H) :
    let next := loop.start frontEnd request now
    ∃ events, next.trace = loop.retire.trace ++ events ∧
      (∀ stages resources result, .buildPipeline stages resources result ∈ events →
        VertexStage request.source (frontEnd.classify request.source) events stages) ∧
      ∀ source label compilation, .compile source label compilation ∈ events →
        compilation.hasErrors = true ∨ (label = "user shader" ∧ compilation.module = none) →
        next.state = .idle ∧
          (∀ stages resources result, .buildPipeline stages resources result ∉ events) ∧
          ∃ batch, batches events = [batch] ∧ (B.Compiles → rejects batch = true) := by
  intro next
  obtain ⟨turn, events, hturn, htrace, hends⟩ := loop.start_ends frontEnd request now
  refine ⟨turn ++ events, htrace, ?_⟩
  have hstate : (loop.start frontEnd request now).state = next.state := rfl
  rw [hstate] at hends
  generalize next.state = state at hends
  have hfailed {source : ComposedSource} {label : String} {compilation : Compilation B.Module}
      (hwhy : compilation.hasErrors = true ∨
        (label = "user shader" ∧ compilation.module = none)) :
      (Event.compile (B := B) source label compilation).failed = true := by
    obtain herrors | ⟨rfl, habsent⟩ := hwhy
    · simp only [Event.failed, herrors, Bool.true_or]
    · simp only [Event.failed, habsent, Option.isNone_none, beq_self_eq_true, Bool.and_true,
        Bool.or_true]
  cases hends with
  | @unavailable answer asked value =>
    have htail : ∀ event ∈ [Event.transition (B := B) .acquiring .idle],
        event.isModule = false := List.forall_mem_singleton.2 rfl
    have hnone {event : Event B} (hm : event.isModule = true) : event ∉ turn ++
        (answer.events (.acquire request.canvas) ++ ([] ++ [.transition .acquiring .idle])) :=
      fun he => List.not_mem_nil ((mem_stages hturn answer request.canvas [] htail hm).1 he)
    exact ⟨fun stages resources result hbuild => absurd hbuild (hnone rfl),
      fun source label compilation hcompile => absurd hcompile (hnone rfl)⟩
  | @stopped answer stages stop mid after asked value prepared =>
    obtain ⟨_, _, _, report, hreport⟩ := prepared_halted prepared
    have htail : ∀ event ∈ Event.transition (B := B) mid .idle :: stop.report.toList.map .errors,
        event.isModule = false := by
      rw [hreport]
      exact List.forall_mem_cons.2 ⟨rfl, List.forall_mem_singleton.2 rfl⟩
    have hmem {event : Event B} (hm : event.isModule = true) :=
      mem_stages hturn answer request.canvas stages htail hm
    refine ⟨fun _ _ _ => staged_builds hturn answer htail prepared,
      fun source label compilation hcompile hwhy => ?_⟩
    obtain ⟨hnone, other, hother, hrejects⟩ :=
      prepared_failure prepared ((hmem rfl).1 hcompile) (hfailed hwhy)
    refine ⟨rfl, fun pipeline resources result hbuild => ?_, other, ?_, hrejects⟩
    · exact hnone pipeline resources result ((hmem rfl).1 hbuild)
    · rw [batches_acquired hturn, batches_append,
        batches_stage (inner_prepared frontEnd request prepared).1, hother]
      rfl
  | @running answer stages assembly mid after token frame observer asked value prepared =>
    have htail : ∀ event ∈ [Event.requestFrame (B := B) token frame, .observeResize observer,
        .console successLine, .errors assembly.diagnostics], event.isModule = false := by
      simp [Event.isModule]
    have hmem {event : Event B} (hm : event.isModule = true) :=
      mem_stages hturn answer request.canvas stages htail hm
    refine ⟨fun _ _ _ => staged_builds hturn answer htail prepared,
      fun source label compilation hcompile hwhy => ?_⟩
    have hsound := (prepared_done prepared).2.1 _ ((hmem rfl).1 hcompile)
    rw [hfailed hwhy] at hsound
    cases hsound

def Event.buildsOn (module : B.Module → Bool) : Event B → Bool
  | .buildPipeline stages _ _ => module stages.vertexModule
  | _ => false

/-- A fullscreen compilation with neither module nor error: the pipeline is built with the user's
module as its vertex stage. -/
theorem pipeline_vertex_stage_passed_over :
    let rehearsal := { Rehearsal.smooth with compilations := [("fullscreen vertex", false, [])] }
    let next := rehearsal.run Wgsl.frontEnd [.start pointerRequest 0]
    next.state = .running ∧ ∃ stages resources result,
      .buildPipeline stages resources result ∈ next.trace ∧
      stages.vertexModule = "user shader" ∧
      VertexStage pointerShader (Wgsl.frontEnd.classify pointerShader) next.trace stages := by
  have hbuilds :
      let rehearsal := { Rehearsal.smooth with compilations := [("fullscreen vertex", false, [])] }
      let next := rehearsal.run Wgsl.frontEnd [.start pointerRequest 0]
      next.state = .running ∧
      next.trace.any (Event.buildsOn fun label : String => label == "user shader") = true := by
    decide +kernel
  generalize Wgsl.frontEnd = frontEnd at hbuilds ⊢
  intro rehearsal next
  obtain ⟨hrunning, hbuilds⟩ := hbuilds
  obtain ⟨events, htrace, hstage, _⟩ := pipeline_vertex_stage frontEnd pointerRequest 0
    (RenderLoop.idle (B := Rehearsal.backend frontEnd) rehearsal FrameRegister.ledger.initial)
  have hevents : next.trace = events := htrace
  obtain ⟨event, he, hmodule⟩ := List.any_eq_true.1 hbuilds
  cases event with
  | buildPipeline stages resources result =>
    rw [← hevents] at hstage
    exact ⟨hrunning, stages, resources, result, he, beq_iff_eq.1 hmodule, hstage _ _ _ he⟩
  | _ => cases hmodule

end ShaderPreview
