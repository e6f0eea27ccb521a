import ShaderPreview.Proofs.Session.Course

/-!
# Execution of attempts

Runs every stage from an arbitrary loop and shows that it is an execution of its course.
-/

namespace ShaderPreview

variable {B : Backend} {H : FrameHost} {α β : Type}

/-! ### The loop after some events -/

namespace RenderLoop

theorem after_nil (loop : RenderLoop B H) : loop.after loop.state loop.backend [] = loop := by
  simp only [after, List.append_nil]

@[simp] theorem after_state (loop : RenderLoop B H) (state : LoopState) (backend : B.State)
    (events : List (Event B)) : (loop.after state backend events).state = state := rfl

@[simp] theorem after_backend (loop : RenderLoop B H) (state : LoopState) (backend : B.State)
    (events : List (Event B)) : (loop.after state backend events).backend = backend := rfl

@[simp] theorem after_after (loop : RenderLoop B H) (s₁ s₂ : LoopState) (b₁ b₂ : B.State)
    (e₁ e₂ : List (Event B)) :
    (loop.after s₁ b₁ e₁).after s₂ b₂ e₂ = loop.after s₂ b₂ (e₁ ++ e₂) := by
  simp only [after, List.append_assoc]

theorem transition_after {loop : RenderLoop B H} {state : LoopState} (next : LoopState)
    (h : loop.state = state) (hne : state ≠ next) :
    loop.transition next = loop.after next loop.backend [.transition state next] := by
  subst h
  simp only [transition, hne, if_false, after]

theorem record_after (loop : RenderLoop B H) (event : Event B) :
    loop.record event = loop.after loop.state loop.backend [event] := rfl

end RenderLoop

/-! ### Running parts of an attempt -/

theorem mapError_ok {ε δ : Type} (f : ε → δ) (a : α) :
    (.ok a : Except ε α).mapError f = .ok a := rfl

theorem mapError_error {ε δ : Type} (f : ε → δ) (e : ε) :
    (.error e : Except ε α).mapError f = .error (f e) := rfl

namespace Attempt

/-- Runs a part of an attempt from a loop. -/
def exec (attempt : Attempt B H α) (loop : RenderLoop B H) : Except Stop α × RenderLoop B H :=
  attempt.run.run loop

@[simp] theorem exec_pure (a : α) (loop : RenderLoop B H) :
    (pure a : Attempt B H α).exec loop = (.ok a, loop) := rfl

@[simp] theorem exec_bind (attempt : Attempt B H α) (f : α → Attempt B H β)
    (loop : RenderLoop B H) :
    (attempt >>= f).exec loop = match attempt.exec loop with
      | (.ok a, after) => (f a).exec after
      | (.error stop, after) => (.error stop, after) := by
  simp only [exec, ExceptT.run_bind, StateT.run_bind]
  rcases StateT.run (ExceptT.run attempt) loop with ⟨outcome, after⟩
  cases outcome <;> rfl

@[simp] theorem exec_map (attempt : Attempt B H α) (f : α → β) (loop : RenderLoop B H) :
    (f <$> attempt).exec loop =
      ((attempt.exec loop).1.map f, (attempt.exec loop).2) := by
  rw [← bind_pure_comp, exec_bind]
  rcases attempt.exec loop with ⟨outcome, after⟩
  cases outcome <;> rfl

@[simp] theorem exec_transition (next : LoopState) (loop : RenderLoop B H) :
    (transition next : Attempt B H Unit).exec loop = (.ok (), loop.transition next) := rfl

@[simp] theorem exec_console (line : String) (loop : RenderLoop B H) :
    (console line : Attempt B H Unit).exec loop =
      (.ok (), loop.after loop.state loop.backend [.console line]) := rfl

@[simp] theorem exec_reject (report : List Diagnostic) (loop : RenderLoop B H) :
    (reject report : Attempt B H α).exec loop = (.error (.rejected (some report)), loop) := rfl

@[simp] theorem exec_require (result : Except Failure α) (loop : RenderLoop B H) :
    (require result : Attempt B H α).exec loop = (result.mapError .failed, loop) := by
  cases result <;> rfl

@[simp] theorem exec_ask (operation : B.State → Answer B.State B.Note α) (call : α → Event B)
    (loop : RenderLoop B H) :
    (ask operation call : Attempt B H α).exec loop =
      (.ok (operation loop.backend).value,
        loop.after loop.state (operation loop.backend).state
          ((operation loop.backend).events call)) := rfl

theorem exec_consoles (lines : List String) (loop : RenderLoop B H) :
    (lines.forM console : Attempt B H Unit).exec loop =
      (.ok (), loop.after loop.state loop.backend (lines.map .console)) := by
  induction lines generalizing loop with
  | nil => exact congrArg (Prod.mk _) (RenderLoop.after_nil loop).symm
  | cons line lines ih =>
    show (console line >>= fun _ => lines.forM console).exec loop = _
    simp only [exec_bind, exec_console, ih, RenderLoop.after_state,
      RenderLoop.after_backend, RenderLoop.after_after, List.map_cons, List.singleton_append]

/-! ### Following a course -/

/-- Every run from a loop in state `before` is an execution of the course, and nothing else
changes. -/
def Follows (attempt : Attempt B H α) (before : LoopState) (course : Course B α) : Prop :=
  ∀ loop : RenderLoop B H, loop.state = before → ∃ events outcome state backend,
    course loop.backend events outcome state backend ∧
      attempt.exec loop = (outcome, loop.after state backend events)

theorem Follows.bind {attempt : Attempt B H α} {before : LoopState} {first : Course B α}
    {f : α → Attempt B H β} {second : α → Course B β} (hx : attempt.Follows before first)
    (hf : ∀ {s e a mid t}, first s e (.ok a) mid t → (f a).Follows mid (second a)) :
    (attempt >>= f).Follows before (Then first second) := by
  intro loop hs
  obtain ⟨e₁, outcome, mid, between, hc, hrun⟩ := hx loop hs
  cases outcome with
  | error stop =>
    refine ⟨e₁, .error stop, mid, between, .stopped hc, ?_⟩
    simp only [exec_bind, hrun]
  | ok a =>
    obtain ⟨e₂, outcome, state, after, hd, hrun'⟩ :=
      hf hc (loop.after mid between e₁) (RenderLoop.after_state ..)
    refine ⟨e₁ ++ e₂, outcome, state, after, .continued hc hd, ?_⟩
    simp only [exec_bind, hrun, hrun', RenderLoop.after_after]

theorem Follows.map {attempt : Attempt B H α} {before : LoopState} {course : Course B α}
    (hx : attempt.Follows before course) (f : α → β) :
    (f <$> attempt).Follows before (Mapped f course) := by
  intro loop hs
  obtain ⟨events, outcome, state, backend, hc, hrun⟩ := hx loop hs
  exact ⟨events, outcome.map f, state, backend, ⟨outcome, hc, rfl⟩, by simp only [exec_map, hrun]⟩

/-! ### The stages -/

theorem follows_examine (frontEnd : FrontEnd) (source : String) :
    (examine frontEnd source : Attempt B H _).Follows .acquiring (Examined frontEnd source) := by
  intro loop hs
  have hstart := RenderLoop.transition_after .compiling hs (by decide)
  cases hr : (frontEnd.classify source).isRenderable with
  | true =>
    obtain ⟨names, hn⟩ := entryNames_of_renderable hr
    refine ⟨_, _, _, _, .accepted loop.backend hr hn, ?_⟩
    simp only [examine, exec_bind, exec_transition, hr, if_true, hstart, exec_console,
      exec_consoles, hn, exec_pure, RenderLoop.after_state, RenderLoop.after_backend,
      RenderLoop.after_after]
    rfl
  | false =>
    refine ⟨_, _, _, _, .refused loop.backend hr, ?_⟩
    simp only [examine, exec_bind, exec_transition, hr, Bool.false_eq_true, if_false, hstart]
    cases hn : (frontEnd.classify source).entryPoints.isEmpty &&
        (frontEnd.classify source).kind == .invalid <;>
      simp only [Bool.false_eq_true, if_false, if_true, exec_bind, exec_console, exec_reject,
        RenderLoop.after_state, RenderLoop.after_backend, RenderLoop.after_after, refusalLines,
        hn] <;>
      rfl

theorem exec_judge (user : Compilation B.Module) (fullscreen : Option (Compilation B.Module))
    (loop : RenderLoop B H) : ∃ events outcome, Judged user fullscreen events outcome ∧
      (if user.hasErrors || (fullscreen.map (·.hasErrors)).getD false then do
          console "Shader compilation failed."
          reject (user.diagnostics ++ (fullscreen.map (·.diagnostics)).getD [])
        else match user.module with
          | none =>
            throw (.failed (.of "compiler produced no module without reporting errors"))
          | some module =>
            pure ((fullscreen.bind (·.module)).getD module, module,
              user.diagnostics ++ (fullscreen.map (·.diagnostics)).getD []) :
        Attempt B H (B.Module × B.Module × List Diagnostic)).exec loop =
      (outcome, loop.after loop.state loop.backend events) := by
  cases he : user.hasErrors || (fullscreen.map (·.hasErrors)).getD false with
  | true => exact ⟨_, _, .refused he, rfl⟩
  | false =>
    cases hm : user.module with
    | none => exact ⟨_, _, .missing he hm, congrArg (Prod.mk _) loop.after_nil.symm⟩
    | some module => exact ⟨_, _, .passed he hm, congrArg (Prod.mk _) loop.after_nil.symm⟩

theorem follows_compileStages (kind : ShaderKind) (source : String) :
    (compileStages kind source : Attempt B H _).Follows .compiling (Compiled kind source) := by
  intro loop hs
  obtain ⟨user, hu⟩ : ∃ user, B.compile (compose source (needsTextures source)) "user shader"
    loop.backend = user := ⟨_, rfl⟩
  by_cases hk : kind = .vertexFragment
  · obtain ⟨events, outcome, hj, hrun⟩ := exec_judge user.value none (loop.after .compiling
      user.state (user.events (.compile (compose source (needsTextures source)) "user shader")))
    refine ⟨_, _, _, _, .own hk hu hj, ?_⟩
    subst hk
    simp only [compileStages, exec_bind, exec_ask, exec_pure, hs, hu]
    rw [RenderLoop.after_after] at hrun
    exact hrun
  · obtain ⟨full, hf⟩ : ∃ full,
      B.compile (.plain fullscreenVertex) "fullscreen vertex" user.state = full := ⟨_, rfl⟩
    obtain ⟨events, outcome, hj, hrun⟩ := exec_judge user.value (some full.value)
      (loop.after .compiling full.state
        (user.events (.compile (compose source (needsTextures source)) "user shader") ++
          full.events (.compile (.plain fullscreenVertex) "fullscreen vertex")))
    refine ⟨_, _, _, _, .supplied hk hu hf hj, ?_⟩
    have hbranch : (compileStages kind source : Attempt B H _) =
        compileStages .fragmentOnly source := by
      cases kind <;> first | rfl | exact absurd rfl hk
    rw [hbranch]
    simp only [compileStages, exec_bind, exec_map, exec_ask, hs, hu, RenderLoop.after_state,
      RenderLoop.after_backend, RenderLoop.after_after, hf, Except.map]
    rw [RenderLoop.after_after] at hrun
    exact hrun

def loadImages (images : List (Fin channelCount × ChannelImage))
    (textures : PerChannel (Option B.Texture)) : Attempt B H (PerChannel (Option B.Texture)) :=
  images.foldlM
    (fun textures entry => do
      let texture ← loadTexture entry.1 entry.2
      pure (PerChannel.set textures entry.1 (some texture)))
    textures

theorem exec_loadImages (images : List (Fin channelCount × ChannelImage))
    (textures : PerChannel (Option B.Texture)) (loop : RenderLoop B H) :
    ∃ events outcome backend, Loaded images textures loop.backend events outcome backend ∧
      (loadImages images textures).exec loop =
        (outcome, loop.after loop.state backend events) := by
  -- the textures uploaded so far and the loop change from one image to the next
  induction images generalizing textures loop with
  | nil => exact ⟨_, _, _, .done textures loop.backend, congrArg (Prod.mk _) loop.after_nil.symm⟩
  | cons entry images ih =>
    obtain ⟨channel, image⟩ := entry
    obtain ⟨answer, ha⟩ : ∃ answer, B.loadTexture channel image loop.backend = answer := ⟨_, rfl⟩
    cases hv : answer.value with
    | error failure =>
      refine ⟨_, _, _, .failed ha hv, ?_⟩
      simp only [loadImages, List.foldlM_cons, loadTexture, exec_bind, exec_ask, exec_require, ha,
        hv, mapError_error]
    | ok texture =>
      obtain ⟨events, outcome, backend, hl, hrun⟩ :=
        ih (PerChannel.set textures channel (some texture))
          (loop.after loop.state answer.state (answer.events (.loadTexture channel image)))
      refine ⟨_, _, _, .next ha hv hl, ?_⟩
      simp only [loadImages, List.foldlM_cons, loadTexture, exec_bind, exec_ask, exec_require,
        exec_pure, ha, hv, mapError_ok]
      rw [RenderLoop.after_after] at hrun
      exact hrun

theorem bindResources_populated {request : RenderRequest} (diagnostics : List Diagnostic)
    (h : (needsTextures request.source && !request.channels.isPopulated 0) = false) :
    (bindResources request diagnostics : Attempt B H _) = (do
      transition .binding
      let textures ← loadImages request.uploads PerChannel.empty
      let result ← ask (B.bind request.canvas textures) (.bind request.canvas textures)
      require result) := by
  unfold bindResources RenderRequest.uploads
  simp only [h, Bool.false_eq_true, if_false]
  cases needsTextures request.source <;> rfl

theorem follows_bindResources (request : RenderRequest) (diagnostics : List Diagnostic) :
    (bindResources request diagnostics : Attempt B H _).Follows .compiling
      (Bound request diagnostics) := by
  intro loop hs
  have hstart := RenderLoop.transition_after .binding hs (by decide)
  cases ht : needsTextures request.source && !request.channels.isPopulated 0 with
  | true =>
    obtain ⟨htextured, hempty⟩ := Bool.and_eq_true_iff.1 ht
    refine ⟨_, _, _, _, .unpopulated loop.backend htextured (by simpa using hempty), ?_⟩
    simp only [bindResources, exec_bind, exec_transition, hstart, ht, if_true, exec_console,
      exec_reject, RenderLoop.after_state, RenderLoop.after_backend, RenderLoop.after_after]
    rfl
  | false =>
    obtain ⟨events, outcome, backend, hl, hrun⟩ := exec_loadImages request.uploads
      PerChannel.empty (loop.after .binding loop.backend [.transition .compiling .binding])
    rw [RenderLoop.after_after] at hrun
    rw [bindResources_populated diagnostics ht]
    cases outcome with
    | error stop =>
      refine ⟨_, _, _, _, .unloaded ht hl, ?_⟩
      simp only [exec_bind, exec_transition, hstart, hrun]
      rfl
    | ok textures =>
      refine ⟨_, _, _, _, .bound ht hl rfl, ?_⟩
      simp only [exec_bind, exec_transition, hstart, hrun, exec_ask, exec_require,
        RenderLoop.after_state, RenderLoop.after_backend, RenderLoop.after_after]
      rfl

theorem follows_uploadVertices (vertices : Option VertexData) :
    (uploadVertices vertices : Attempt B H _).Follows .binding (Uploaded vertices) := by
  intro loop hs
  cases vertices with
  | none =>
    refine ⟨_, _, _, _, .absent loop.backend, ?_⟩
    rw [← hs, RenderLoop.after_nil]
    rfl
  | some vertices =>
    refine ⟨_, _, _, _, .present rfl, ?_⟩
    simp only [uploadVertices, exec_bind, exec_ask, exec_map, exec_require, hs]

theorem follows_buildPipeline (stages : PipelineStages B.Module) (resources : B.Resources) :
    (buildPipeline stages resources : Attempt B H _).Follows .binding
      (Built stages resources) := by
  intro loop hs
  have hstart := RenderLoop.transition_after .running hs (by decide)
  obtain ⟨answer, ha⟩ : ∃ answer, B.buildPipeline stages resources loop.backend = answer :=
    ⟨_, rfl⟩
  cases hv : answer.value with
  | error failure =>
    refine ⟨_, _, _, _, .failed ha hv, ?_⟩
    simp only [buildPipeline, exec_bind, exec_transition, hstart, exec_ask, exec_require, ha, hv,
      mapError_error, RenderLoop.after_state, RenderLoop.after_backend, RenderLoop.after_after,
      List.singleton_append]
  | ok pipeline =>
    obtain ⟨check, hc⟩ : ∃ check, B.takeValidationError answer.state = check := ⟨_, rfl⟩
    cases hn : check.value with
    | some error =>
      refine ⟨_, _, _, _, .invalid ha hv hc hn, ?_⟩
      simp only [buildPipeline, exec_bind, exec_transition, hstart, exec_ask, exec_require, ha,
        hv, mapError_ok, hc, hn, exec_reject, RenderLoop.after_state,
        RenderLoop.after_backend, RenderLoop.after_after, List.singleton_append]
    | none =>
      refine ⟨_, _, _, _, .built ha hv hc hn, ?_⟩
      simp only [buildPipeline, exec_bind, exec_transition, hstart, exec_ask, exec_require, ha,
        hv, mapError_ok, hc, hn, exec_pure, RenderLoop.after_state,
        RenderLoop.after_backend, RenderLoop.after_after, List.singleton_append]

end Attempt

/-! ### Launches -/

def Assembly.session (assembly : Assembly B) (request : RenderRequest) (now : Nat) (token : Token)
    (frame : FrameId) (observer : ObserverId) : Session B where
  request := request
  pipeline := assembly.pipeline
  resources := assembly.resources
  vertices := assembly.vertices
  vertexCount := (request.vertices.map (·.count)).getD fullscreenVertexCount
  startedAt := now
  token := token
  frame := some frame
  observer := observer
  drawFailures := 0

namespace Attempt

def prepare (frontEnd : FrontEnd) (request : RenderRequest) : Attempt B H (Assembly B) := do
  let (classification, vertexEntry, fragmentEntry) ← examine frontEnd request.source
  let (vertexModule, fragmentModule, diagnostics) ←
    compileStages classification.kind request.source
  let resources ← bindResources request diagnostics
  let vertices ← uploadVertices request.vertices
  (fun pipeline => ⟨pipeline, resources, vertices, diagnostics⟩) <$> buildPipeline
    ⟨vertexModule, vertexEntry, fragmentModule, fragmentEntry, vertices.isSome⟩ resources

theorem follows_prepare (frontEnd : FrontEnd) (request : RenderRequest) :
    (prepare frontEnd request : Attempt B H _).Follows .acquiring
      (Prepared frontEnd request) := by
  refine (follows_examine frontEnd request.source).bind fun {_ _ _ _ _} hexamined => ?_
  obtain rfl := examined_state hexamined
  refine (follows_compileStages _ _).bind fun {_ _ _ _ _} hcompiled => ?_
  obtain rfl := compiled_state hcompiled
  refine (follows_bindResources _ _).bind fun {_ _ _ _ _} hbound => ?_
  obtain rfl := bound_state hbound
  refine (follows_uploadVertices _).bind fun {_ _ _ _ _} huploaded => ?_
  obtain rfl := uploaded_state huploaded
  exact (follows_buildPipeline _ _).map _

/-- Host registration after the pipeline. -/
def connectSession (request : RenderRequest) (now : Nat) (assembly : Assembly B) :
    Attempt B H (Session B × List Diagnostic) := do
  let (token, frame, observer) ← connect
  console successLine
  pure (assembly.session request now token frame observer, assembly.diagnostics)

theorem launch_eq (frontEnd : FrontEnd) (request : RenderRequest) (now : Nat) :
    (launch frontEnd request now : Attempt B H _) =
      prepare frontEnd request >>= connectSession request now := by
  simp only [launch, prepare, bind_assoc, bind_map_left]
  rfl

end Attempt

end ShaderPreview
