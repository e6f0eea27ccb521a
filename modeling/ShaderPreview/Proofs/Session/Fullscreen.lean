import ShaderPreview.Proofs.Session.Draws

/-!
# The fullscreen triangle

The fullscreen stage computes three corners from the vertex index. It is selected by the source, but
the vertex buffer is selected by the request: with a mesh, the pipeline has vertex input and draws
the vertices of the mesh.
-/

namespace ShaderPreview

variable {B : Backend} {H : FrameHost}

/-! ### The corners -/

/-- The array in the fullscreen stage has this length. -/
def FullscreenCorners (count : Nat) : Prop :=
  ∃ head tail, ∃ corners : List (String × String), corners.length = count ∧
    fullscreenVertex = head ++ s!"array<vec2<f32>, {corners.length}>(" ++
      String.join (corners.map fun corner => s!"\n        vec2<f32>({corner.1}, {corner.2}),") ++
      "\n    );" ++ tail

theorem fullscreenCorners_drawn : FullscreenCorners fullscreenVertexCount := by
  refine ⟨"@vertex
fn main(@builtin(vertex_index) vertex_index: u32) -> @builtin(position) vec4<f32> \x7b
    var positions = ", "
    return vec4<f32>(positions[vertex_index], 0.0, 1.0);
\x7d
", [("-1.0", "-3.0"), ("3.0", "1.0"), ("-1.0", "1.0")], rfl, ?_⟩
  decide +kernel

/-! ### Where a pipeline is built -/

theorem ends_stages {frontEnd : FrontEnd} {request : RenderRequest} {backend : B.State}
    {events : List (Event B)} {state : LoopState}
    (h : AttemptEnds frontEnd request backend events state) :
    ∃ (answer : Answer B.State B.Note Bool) (stages tail : List (Event B)),
      events = answer.events (.acquire request.canvas) ++ (stages ++ tail) ∧
      (∀ event ∈ tail, event.isModule = false) ∧
      (stages = [] ∨ ∃ before outcome state after,
        Prepared frontEnd request before stages outcome state after) := by
  cases h with
  | @unavailable answer =>
    exact ⟨answer, [], _, rfl, List.forall_mem_singleton.2 rfl, .inl rfl⟩
  | @stopped answer stages stop mid after asked value prepared =>
    exact ⟨answer, stages, _, rfl,
      List.forall_mem_cons.2 ⟨rfl, List.forall_mem_map.2 fun _ _ => rfl⟩,
      .inr ⟨_, _, _, _, prepared⟩⟩
  | @running answer stages assembly mid after token frame observer asked value prepared =>
    exact ⟨answer, stages, _, rfl, by simp [Event.isModule], .inr ⟨_, _, _, _, prepared⟩⟩

theorem ends_builds {frontEnd : FrontEnd} {request : RenderRequest} {backend : B.State}
    {turn events : List (Event B)} {state : LoopState} (hturn : Turns turn)
    (h : AttemptEnds frontEnd request backend events state)
    {stages : PipelineStages B.Module} {resources : B.Resources}
    {result : Except Failure B.Pipeline}
    (hbuild : .buildPipeline stages resources result ∈ turn ++ events) :
    VertexStage request.source (frontEnd.classify request.source) (turn ++ events) stages ∧
      stages.usesVertexInput = request.vertices.isSome := by
  obtain ⟨answer, part, tail, rfl, htail, hpart⟩ := ends_stages h
  have hstage := (mem_stages hturn answer request.canvas part htail rfl).1 hbuild
  obtain rfl | ⟨before, outcome, mid, after, hprepared⟩ := hpart
  · cases hstage
  · exact ⟨staged_builds hturn answer htail hprepared hbuild,
      (prepared_builds hprepared hstage).2.1⟩

theorem LatestAttempt.ends {frontEnd : FrontEnd} {ledger : Ledger H} {start : RenderLoop B H}
    {operations : List Operation} {request : RenderRequest} {now : Nat}
    {attempt : List (Event B)}
    (h : LatestAttempt frontEnd ledger start operations request now attempt) :
    ∃ turn events backend state, Turns turn ∧ attempt = turn ++ events ∧
      AttemptEnds frontEnd request backend events state := by
  induction h with
  | @made operations operation request now attempt asked time trace =>
    let loop := start.run frontEnd ledger operations
    obtain ⟨later, hstart⟩ := loop.perform_attempt frontEnd ledger asked
    obtain ⟨turn, events, hturn, htrace, hends⟩ := loop.start_ends frontEnd request later
    rw [RenderLoop.run_snoc, hstart, htrace] at trace
    exact ⟨turn, events, _, _, hturn, (List.append_cancel_left trace).symm, hends⟩
  | earlier latest unasked ih => exact ih

theorem VertexStage.entry {source : String} {classification : Classification}
    {events : List (Event B)} {stages : PipelineStages B.Module}
    (h : VertexStage source classification events stages)
    (hkind : classification.kind = .fragmentOnly) : stages.vertexEntry = fullscreenEntry := by
  cases h with
  | own kind =>
    rw [hkind] at kind
    cases kind
  | fullscreen _ _ _ named => exact named
  | substitute _ _ _ _ _ _ named => exact named

/-! ### What is drawn with it -/

/-- Without a vertex stage, the three corners of the fullscreen triangle are drawn without vertex
input if and only if the request has no mesh. With a mesh the pipeline has vertex input and every
draw passes the buffer. -/
theorem fullscreen_drawn (frontEnd : FrontEnd) (ledger : Ledger H) (backend : B.State)
    (operations : List Operation) (operation : Operation) :
    let start := RenderLoop.idle backend ledger.initial
    let before := start.run frontEnd ledger operations
    let after := before.perform frontEnd ledger operation
    FullscreenCorners fullscreenVertexCount ∧
    (∀ request started attempt,
      LatestAttempt frontEnd ledger start operations request started attempt →
      (frontEnd.classify request.source).kind = .fragmentOnly →
      ∀ stages resources result, .buildPipeline stages resources result ∈ attempt →
        VertexStage request.source (frontEnd.classify request.source) attempt stages ∧
        stages.vertexEntry = fullscreenEntry ∧
        (stages.usesVertexInput = false ↔ request.vertices = none)) ∧
    ∃ events, after.trace = before.trace ++ events ∧
      ∀ pipeline resources vertices input result,
        .draw pipeline resources vertices input result ∈ events →
        ∃ request started attempt,
          LatestAttempt frontEnd ledger start operations request started attempt ∧
          (∃ stages, .buildPipeline stages resources (.ok pipeline) ∈ attempt) ∧
          ((frontEnd.classify request.source).kind = .fragmentOnly →
            (vertices = none ∧ input.vertexCount = fullscreenVertexCount ↔
              request.vertices = none) ∧
            ∀ mesh, request.vertices = some mesh →
              vertices.isSome = true ∧ input.vertexCount = mesh.count) := by
  intro start before after
  have hsettled := (Orderly.reached frontEnd ledger backend operations).settled
  obtain ⟨hcurrent, _⟩ := sessionOfLatest_run frontEnd ledger backend operations
  obtain ⟨events, htrace, hdraws⟩ :=
    RenderLoop.draws_perform frontEnd ledger operation hsettled
  refine ⟨fullscreenCorners_drawn, ?_, events, htrace, ?_⟩
  · intro request started attempt hlatest hkind stages resources result hbuild
    obtain ⟨turn, rest, _, _, hturn, rfl, hends⟩ := hlatest.ends
    obtain ⟨hstage, hinput⟩ := ends_builds hturn hends hbuild
    refine ⟨hstage, hstage.entry hkind, ?_⟩
    rw [hinput]
    exact Option.isSome_eq_false_iff.trans Option.isNone_iff_eq_none
  · intro pipeline resources vertices input result he
    obtain ⟨frame, now, session, _, _, hsession, hevent⟩ := hdraws _ he rfl
    obtain ⟨request, attempt, hlatest, hprovides⟩ := hcurrent session hsession
    cases hevent
    have hmesh := hprovides.made.isSome
    refine ⟨request, session.startedAt, attempt, hlatest, hprovides.made.built, fun _ => ⟨?_, ?_⟩⟩
    · constructor
      · rintro ⟨hnone, _⟩
        exact hprovides.made.bare hnone
      · intro hnone
        rw [hnone] at hmesh
        have habsent := Option.not_isSome_iff_eq_none.1 (Bool.eq_false_iff.1 hmesh)
        exact ⟨habsent, hprovides.triangle habsent⟩
    · intro mesh hsome
      rw [hmesh, hsome]
      exact ⟨rfl, hprovides.mesh hsome⟩

def Event.isPipeline : Event B → Bool
  | .buildPipeline .. => true
  | _ => false

def Event.drawsMesh (count : Nat) : Event B → Bool
  | .draw _ _ (some _) input _ => input.vertexCount == count
  | _ => false

/-- A fragment-only shader with a mesh of six vertices: six vertices of the fullscreen stage are
drawn. -/
theorem fullscreen_drawn_mesh :
    let mesh : VertexData := ⟨List.replicate 36 .zero⟩
    let request : RenderRequest := ⟨pointerShader, PerChannel.empty, some mesh, ⟨640, 360⟩⟩
    let before := Rehearsal.compiled.run Wgsl.frontEnd [.start request 0]
    let after := Rehearsal.compiled.run Wgsl.frontEnd [.start request 0, .frame ⟨1⟩ 1]
    (∃ stages resources result, .buildPipeline stages resources result ∈ before.trace ∧
      stages.vertexEntry = fullscreenEntry ∧ stages.usesVertexInput = true) ∧
    ∃ pipeline resources buffer input result,
      .draw pipeline resources (some buffer) input result ∈ after.trace ∧
      input.vertexCount = 6 := by
  have hdone :
      let mesh : VertexData := ⟨List.replicate 36 .zero⟩
      let request : RenderRequest := ⟨pointerShader, PerChannel.empty, some mesh, ⟨640, 360⟩⟩
      let before := Rehearsal.compiled.run Wgsl.frontEnd [.start request 0]
      let after := Rehearsal.compiled.run Wgsl.frontEnd [.start request 0, .frame ⟨1⟩ 1]
      (Wgsl.frontEnd.classify request.source).kind = .fragmentOnly ∧
        before.trace.any Event.isPipeline = true ∧
        after.trace.any (Event.drawsMesh 6) = true := by decide +kernel
  generalize Wgsl.frontEnd = frontEnd at hdone ⊢
  intro mesh request before after
  obtain ⟨hkind, hbuilds, hdraws⟩ := hdone
  have hlatest : LatestAttempt (B := Rehearsal.backend frontEnd) frontEnd FrameRegister.ledger
      (.idle Rehearsal.compiled FrameRegister.ledger.initial) ([] ++ [.start request 0]) request 0
      before.trace := .made rfl rfl (List.nil_append _).symm
  obtain ⟨_, hstages, _⟩ := fullscreen_drawn (B := Rehearsal.backend frontEnd) frontEnd
    FrameRegister.ledger Rehearsal.compiled [.start request 0] (.frame ⟨1⟩ 1)
  obtain ⟨event, he, hevent⟩ := List.any_eq_true.1 hbuilds
  obtain ⟨drawing, hd, hdrawing⟩ := List.any_eq_true.1 hdraws
  constructor
  · cases event with
    | buildPipeline stages resources result =>
      obtain ⟨_, hentry, hinput⟩ := hstages request 0 before.trace hlatest hkind _ _ _ he
      refine ⟨stages, resources, result, he, hentry, ?_⟩
      cases huses : stages.usesVertexInput with
      | true => rfl
      | false => cases hinput.1 huses
    | _ => cases hevent
  · cases drawing with
    | draw pipeline resources vertices input result =>
      cases vertices with
      | some buffer => exact ⟨pipeline, resources, buffer, input, result, hd, beq_iff_eq.1 hdrawing⟩
      | none => cases hdrawing
    | _ => cases hdrawing

end ShaderPreview
