import ShaderPreview.Proofs.Diagnostic.Harmless
import ShaderPreview.Proofs.Session.Order
import ShaderPreview.Session.Rehearsal

/-!
# Verdict of an attempt

An attempt with a device delivers one batch, which contains an error unless the session is running.
The exception is a rejection message that the normalizer filters as harmless.
-/

namespace ShaderPreview

variable {B : Backend} {H : FrameHost} {α β : Type}

/-! ### Batches -/

def Event.batch? : Event B → Option (List Diagnostic)
  | .errors batch => some batch
  | _ => none

/-- Delivered batches of diagnostics, in order. -/
def batches (trace : List (Event B)) : List (List Diagnostic) := trace.filterMap Event.batch?

theorem batches_append (trace events : List (Event B)) :
    batches (trace ++ events) = batches trace ++ batches events := List.filterMap_append

theorem batches_stage {events : List (Event B)} (h : ∀ event ∈ events, event.isStage = true) :
    batches events = [] := by
  refine List.filterMap_eq_nil_iff.2 fun event he => ?_
  have hstage := h event he
  cases event <;> first | rfl | cases hstage

theorem batches_acquire (answer : Answer B.State B.Note Bool) (canvas : CanvasSize) :
    batches (answer.events (.acquire canvas)) = [] := by
  have hnotes := batches_stage (stage_notes answer.notes)
  exact hnotes

theorem batches_retirement (session : Session B) : batches session.retirement = [] := by
  unfold Session.retirement
  cases session.frame <;> rfl

theorem batches_atAcquire {loop : RenderLoop B H} (h : loop.Settled) (request : RenderRequest) :
    batches (loop.atAcquire request).trace = batches loop.trace := by
  have hfarewell : batches (loop.session.elim [] Session.retirement) = [] := by
    cases loop.session with
    | none => rfl
    | some session => exact batches_retirement session
  rw [h.atAcquire_trace, batches_append, batches_append, hfarewell]
  exact (List.append_nil _).trans (List.append_nil _)

/-! ### Stages that stop with an error -/

theorem rejects_append (first second : List Diagnostic) :
    rejects (first ++ second) = (rejects first || rejects second) := List.any_append

/-- A part that stops does so with a report that contains an error. -/
def StopsWithError (course : Course B α) : Prop :=
  ∀ ⦃before events stop state after⦄, course before events (.error stop) state after →
    ∃ report, stop.report = some report ∧ rejects report = true

theorem stopsWithError_failure (failure : Failure) :
    ∃ report, (Stop.failed failure).report = some report ∧ rejects report = true :=
  ⟨RenderLoop.caught failure, rfl, rfl⟩

theorem stopsWithError_then {first : Course B α} {second : α → Course B β}
    (h₁ : StopsWithError first) (h₂ : ∀ a, StopsWithError (second a)) :
    StopsWithError (Then first second) := by
  intro before events stop state after h
  cases h with
  | stopped stops => exact h₁ stops
  | continued goes on => exact h₂ _ on

theorem stopsWithError_mapped {f : α → β} {course : Course B α} (h : StopsWithError course) :
    StopsWithError (Mapped f course) := by
  intro before events stop state after hm
  obtain ⟨result, hc, heq⟩ := hm
  cases result with
  | error other =>
    cases heq
    exact h hc
  | ok value => cases heq

/-- Every compilation is a `Compilation.of`: an error diagnostic drops the module. -/
def Backend.Compiles (B : Backend) : Prop :=
  ∀ source label state, ∃ module diagnostics,
    (B.compile source label state).value = Compilation.of module diagnostics

theorem Backend.Compiles.hasErrors {source : ComposedSource} {label : String} {state : B.State}
    {answer : Answer B.State B.Note (Compilation B.Module)} (h : B.Compiles)
    (hanswer : B.compile source label state = answer) :
    answer.value.hasErrors = rejects answer.value.diagnostics := by
  obtain ⟨module, diagnostics, heq⟩ := h source label state
  rw [← hanswer, heq]
  rfl

/-- Some compilation has errors exactly if there is an error among the diagnostics. -/
def FailsByDiagnostics (user : Compilation B.Module)
    (fullscreen : Option (Compilation B.Module)) : Prop :=
  (user.hasErrors || (fullscreen.map (·.hasErrors)).getD false) =
    rejects (user.diagnostics ++ (fullscreen.map (·.diagnostics)).getD [])

theorem judged_stopsWithError {user : Compilation B.Module}
    {fullscreen : Option (Compilation B.Module)} {events : List (Event B)} {stop : Stop}
    (hs : FailsByDiagnostics user fullscreen)
    (h : Judged user fullscreen events (.error stop)) :
    ∃ report, stop.report = some report ∧ rejects report = true := by
  cases h with
  | refused errors => exact ⟨_, rfl, hs.symm.trans errors⟩
  | missing => exact stopsWithError_failure _

theorem judged_clean {user : Compilation B.Module} {fullscreen : Option (Compilation B.Module)}
    {events : List (Event B)} {modules : B.Module × B.Module × List Diagnostic}
    (hs : FailsByDiagnostics user fullscreen) (h : Judged user fullscreen events (.ok modules)) :
    rejects modules.2.2 = false := by
  cases h with
  | passed clean => exact hs.symm.trans clean

theorem compiled_judged {kind : ShaderKind} {source : String} {before after : B.State}
    {events : List (Event B)} {state : LoopState}
    {outcome : Except Stop (B.Module × B.Module × List Diagnostic)} (hB : B.Compiles)
    (h : Compiled kind source before events outcome state after) :
    ∃ user fullscreen said,
      FailsByDiagnostics user fullscreen ∧ Judged user fullscreen said outcome := by
  cases h with
  | @own user said _ _ compiled judged =>
    refine ⟨user.value, none, said, ?_, judged⟩
    simp only [FailsByDiagnostics, Option.map_none, Option.getD_none, Bool.or_false,
      List.append_nil, hB.hasErrors compiled]
  | @supplied user fullscreen said _ _ compiled covered judged =>
    refine ⟨user.value, some fullscreen.value, said, ?_, judged⟩
    simp only [FailsByDiagnostics, Option.map_some, Option.getD_some, rejects_append,
      hB.hasErrors compiled, hB.hasErrors covered]

theorem stopsWithError_compiled (hB : B.Compiles) (kind : ShaderKind) (source : String) :
    StopsWithError (Compiled (B := B) kind source) := by
  intro before events stop state after h
  obtain ⟨user, fullscreen, said, hsincere, hjudged⟩ := compiled_judged hB h
  exact judged_stopsWithError hsincere hjudged

theorem loaded_stopsWithError {images : List (Fin channelCount × ChannelImage)}
    {textures : PerChannel (Option B.Texture)} {before after : B.State} {events : List (Event B)}
    {outcome : Except Stop (PerChannel (Option B.Texture))}
    (h : Loaded images textures before events outcome after) {stop : Stop}
    (hs : outcome = .error stop) : ∃ report, stop.report = some report ∧ rejects report = true := by
  induction h with
  | done => cases hs
  | failed =>
    cases hs
    exact stopsWithError_failure _
  | next _ _ _ ih => exact ih hs

theorem stopsWithError_bound (request : RenderRequest) (diagnostics : List Diagnostic) :
    StopsWithError (Bound (B := B) request diagnostics) := by
  intro before events stop state after h
  generalize houtcome : Except.error stop = outcome at h
  cases h with
  | unpopulated =>
    cases houtcome
    refine ⟨_, rfl, ?_⟩
    rw [rejects_append]
    exact Bool.or_true _
  | unloaded _ loaded =>
    cases houtcome
    exact loaded_stopsWithError loaded rfl
  | @bound _ _ _ answer =>
    cases hvalue : answer.value with
    | error failure =>
      rw [hvalue] at houtcome
      cases houtcome
      exact stopsWithError_failure _
    | ok resources =>
      rw [hvalue] at houtcome
      cases houtcome

theorem stopsWithError_uploaded (vertices : Option VertexData) :
    StopsWithError (Uploaded (B := B) vertices) := by
  intro before events stop state after h
  generalize houtcome : Except.error stop = outcome at h
  cases h with
  | absent => cases houtcome
  | @present _ _ answer =>
    cases hvalue : answer.value with
    | error failure =>
      rw [hvalue] at houtcome
      cases houtcome
      exact stopsWithError_failure _
    | ok resources =>
      rw [hvalue] at houtcome
      cases houtcome

theorem stopsWithError_built (stages : PipelineStages B.Module) (resources : B.Resources) :
    StopsWithError (Built stages resources) := by
  intro before events stop state after h
  cases h with
  | failed => exact stopsWithError_failure _
  | invalid => exact ⟨_, rfl, rfl⟩

/-! ### The stages together -/

theorem stopsWithError_assembled (hB : B.Compiles) (request : RenderRequest) (kind : ShaderKind)
    (vertexEntry fragmentEntry : String) :
    StopsWithError (Assembled (B := B) request kind vertexEntry fragmentEntry) := by
  refine stopsWithError_then (stopsWithError_compiled hB _ _) fun compiled => ?_
  refine stopsWithError_then (stopsWithError_bound _ _) fun resources => ?_
  exact stopsWithError_then (stopsWithError_uploaded _) fun vertices =>
    stopsWithError_mapped (stopsWithError_built _ _)

theorem prepared_stopped {frontEnd : FrontEnd} {request : RenderRequest}
    {before after : B.State} {events : List (Event B)} {stop : Stop} {state : LoopState}
    (hB : B.Compiles) (h : Prepared frontEnd request before events (.error stop) state after) :
    ∃ report, stop.report = some report ∧
      (((frontEnd.classify request.source).isRenderable = true ∧ rejects report = true) ∨
        ((frontEnd.classify request.source).isRenderable = false ∧
          report = Diagnostic.normalize (frontEnd.classify request.source).complaint 0)) := by
  cases h with
  | stopped stops =>
    cases stops with
    | refused _ unrenderable => exact ⟨_, rfl, .inr ⟨unrenderable, rfl⟩⟩
  | continued goes on =>
    cases goes with
    | accepted _ renderable entries =>
      obtain ⟨report, hreport, hrejects⟩ := stopsWithError_assembled hB _ _ _ _ on
      exact ⟨report, hreport, .inl ⟨renderable, hrejects⟩⟩

theorem prepared_passed {frontEnd : FrontEnd} {request : RenderRequest} {before after : B.State}
    {events : List (Event B)} {assembly : Assembly B} {state : LoopState} (hB : B.Compiles)
    (h : Prepared frontEnd request before events (.ok assembly) state after) :
    (frontEnd.classify request.source).isRenderable = true ∧
      rejects assembly.diagnostics = false := by
  obtain _ | ⟨hexamined, hcompiled⟩ := h
  obtain _ | ⟨hcompiles, hbound⟩ := hcompiled
  obtain _ | ⟨_, huploaded⟩ := hbound
  obtain _ | ⟨_, hbuilt⟩ := huploaded
  obtain ⟨result, _, heq⟩ := hbuilt
  obtain ⟨user, fullscreen, said, hsincere, hjudged⟩ := compiled_judged hB hcompiles
  cases hexamined with
  | accepted _ renderable entries =>
    refine ⟨renderable, ?_⟩
    cases result with
    | error stop => cases heq
    | ok pipeline =>
      cases heq
      exact judged_clean hsincere hjudged

/-! ### The verdict -/

/-- What a batch tells: no error if the session is running, and otherwise an error, unless the
shader was rejected with a text that is taken for a status line. -/
structure Verdict (classification : Classification) (batch : List Diagnostic)
    (loop : RenderLoop B H) : Prop where
  running : loop.state = .running ↔ loop.session.isSome = true
  idle : loop.state ≠ .running → loop.state = .idle
  mild : rejects batch = false ↔ loop.state = .running ∨
    (classification.isRenderable = false ∧
      Diagnostic.Harmless classification.complaint.toList)
  refused : classification.isRenderable = false → loop.state = .idle ∧
    batch = Diagnostic.normalize classification.complaint 0 ∧
    (batch = [] ↔ Text.trim classification.complaint.toList = [] ∨
      Diagnostic.isStatusLine (Text.trim classification.complaint.toList) = true)

theorem verdict_running {classification : Classification} {batch : List Diagnostic}
    {loop : RenderLoop B H} (hstate : loop.state = .running)
    (hsession : loop.session.isSome = true) (hrenderable : classification.isRenderable = true)
    (hclean : rejects batch = false) : Verdict classification batch loop where
  running := ⟨fun _ => hsession, fun _ => hstate⟩
  idle hne := absurd hstate hne
  mild := ⟨fun _ => .inl hstate, fun _ => hclean⟩
  refused hrefused := by
    rw [hrenderable] at hrefused
    cases hrefused

theorem verdict_idle {classification : Classification} {batch : List Diagnostic}
    {loop : RenderLoop B H} (hstate : loop.state = .idle) (hsession : loop.session = none)
    (h : (classification.isRenderable = true ∧ rejects batch = true) ∨
      (classification.isRenderable = false ∧
        batch = Diagnostic.normalize classification.complaint 0)) :
    Verdict classification batch loop where
  running := by
    rw [hstate, hsession]
    exact ⟨nofun, nofun⟩
  idle _ := hstate
  mild := by
    have hnot : loop.state ≠ .running := by
      rw [hstate]
      decide
    obtain ⟨hrenderable, hrejects⟩ | ⟨hrefused, rfl⟩ := h
    · rw [hrenderable, hrejects]
      refine ⟨nofun, fun hmild => ?_⟩
      obtain hrunning | ⟨hrefused, _⟩ := hmild
      · exact absurd hrunning hnot
      · cases hrefused
    · rw [Diagnostic.rejects_normalize]
      refine ⟨fun hharmless => .inr ⟨hrefused, hharmless⟩, fun hmild => ?_⟩
      obtain hrunning | ⟨_, hharmless⟩ := hmild
      · exact absurd hrunning hnot
      · exact hharmless
  refused hrefused := by
    obtain ⟨hrenderable, _⟩ | ⟨_, rfl⟩ := h
    · rw [hrefused] at hrenderable
      cases hrenderable
    · exact ⟨hstate, rfl, Diagnostic.normalize_eq_nil _ 0⟩

theorem start_verdict (hB : B.Compiles) (frontEnd : FrontEnd) (request : RenderRequest)
    (now : Nat) {loop : RenderLoop B H} (h : loop.Settled)
    (havailable : (B.acquire request.canvas (loop.atAcquire request).backend).value = true) :
    ∃ batch,
      batches (loop.start frontEnd request now).trace = batches loop.trace ++ [batch] ∧
      Verdict (frontEnd.classify request.source) batch (loop.start frontEnd request now) := by
  have hsession := h.atAcquire_session request
  have hpoised := batches_atAcquire h request
  have hattempt := RenderLoop.start_attempted frontEnd request now loop
  generalize loop.start frontEnd request now = next at hattempt
  cases hattempt with
  | unavailable asked value =>
    rw [asked, value] at havailable
    cases havailable
  | @stopped answer events stop state backend asked value prepared =>
    obtain ⟨report, hreport, hverdict⟩ := prepared_stopped hB prepared
    refine ⟨report, ?_, verdict_idle rfl hsession hverdict⟩
    have hevents := batches_stage (inner_prepared frontEnd request prepared).1
    have hlast : batches (.transition state .idle :: stop.report.toList.map (Event.errors (B := B)))
        = [report] := by
      rw [hreport]
      rfl
    show batches ((loop.atAcquire request).trace ++ _) = _
    rw [batches_append, batches_append, batches_append, batches_acquire, hevents, hlast, hpoised]
    rfl
  | @running answer events assembly state backend asked value prepared =>
    obtain ⟨hrenderable, hclean⟩ := prepared_passed hB prepared
    refine ⟨assembly.diagnostics, ?_,
      verdict_running (prepared_running prepared) rfl hrenderable hclean⟩
    have hevents := batches_stage (inner_prepared frontEnd request prepared).1
    refine (batches_append _ _).trans ?_
    show batches ((loop.atAcquire request).trace ++ _) ++ [assembly.diagnostics] = _
    rw [batches_append, batches_append, batches_acquire, hevents, hpoised]
    simp only [List.append_nil]

/-- With a device and a backend whose compilations follow their diagnostics, an attempt delivers one
batch, which has an error exactly if the session is not running, unless the shader was rejected with
a text that is taken for a status line. -/
theorem attempt_verdict (frontEnd : FrontEnd) (ledger : Ledger H) (backend : B.State)
    (operations : List Operation) (operation : Operation) (request : RenderRequest)
    (hB : B.Compiles)
    (hattempt : ((RenderLoop.idle backend ledger.initial).run frontEnd ledger operations).attempt?
      operation = some request)
    (havailable : (B.acquire request.canvas
      (((RenderLoop.idle backend ledger.initial).run frontEnd ledger operations).atAcquire
        request).backend).value = true) :
    let before := (RenderLoop.idle backend ledger.initial).run frontEnd ledger operations
    let after := before.perform frontEnd ledger operation
    ∃ batch, batches after.trace = batches before.trace ++ [batch] ∧
      Verdict (frontEnd.classify request.source) batch after := by
  intro before after
  have hbefore := Orderly.reached frontEnd ledger backend operations
  obtain ⟨now, hstart⟩ := before.perform_attempt frontEnd ledger hattempt
  have hverdict := start_verdict hB frontEnd request now hbefore.settled havailable
  show ∃ batch, batches (before.perform frontEnd ledger operation).trace = _ ∧
    Verdict _ batch (before.perform frontEnd ledger operation)
  rw [hstart]
  exact hverdict

theorem compiles_rehearsal (frontEnd : FrontEnd) : (Rehearsal.backend frontEnd).Compiles := by
  intro source label rehearsal
  show ∃ module diagnostics, rehearsal.compile frontEnd source label = .of module diagnostics
  unfold Rehearsal.compile
  cases rehearsal.compilations.lookup label with
  | none => exact ⟨_, _, rfl⟩
  | some known => exact ⟨_, _, rfl⟩

def Rehearsal.compiled : Rehearsal :=
  { Rehearsal.smooth with
    compilations := [("user shader", true, []), ("fullscreen vertex", true, [])] }

def pointerRequest : RenderRequest := ⟨pointerShader, PerChannel.empty, none, ⟨640, 360⟩⟩

def Rehearsal.run (frontEnd : FrontEnd) (operations : List Operation) (rehearsal : Rehearsal) :
    RenderLoop (Rehearsal.backend frontEnd) FrameRegister.host :=
  RenderLoop.run frontEnd FrameRegister.ledger operations
    (.idle rehearsal FrameRegister.ledger.initial)

/-- A shader is rejected with an empty batch if the undeclared name reads like a status phrase. -/
theorem attempt_verdict_unresolved :
    let request : RenderRequest := ⟨unresolvedShader, PerChannel.empty, none, ⟨640, 360⟩⟩
    let after := Rehearsal.smooth.run Wgsl.frontEnd [.start request 0]
    after.state = .idle ∧ batches after.trace = [[]] := by
  have hrefused := unresolvedShader_refused
  generalize Wgsl.frontEnd = frontEnd at hrefused ⊢
  intro request after
  obtain ⟨hkind, hstatus⟩ := hrefused
  have hunrenderable : (frontEnd.classify request.source).isRenderable = false :=
    congrArg ShaderKind.isRenderable hkind
  obtain ⟨batch, hbatch, hverdict⟩ := attempt_verdict frontEnd FrameRegister.ledger
    Rehearsal.smooth [] (.start request 0) request (compiles_rehearsal frontEnd) rfl rfl
  obtain ⟨hidle, _, hempty⟩ := hverdict.refused hunrenderable
  have hnil : batch = [] := hempty.2 (.inr hstatus)
  subst hnil
  exact ⟨hidle, hbatch⟩

end ShaderPreview
