import ShaderPreview.Proofs.Session.Memory
import ShaderPreview.Proofs.Session.VertexStage

/-!
# Properties of draws

Pipeline, resources and vertices of a draw come from the session, that is, from the latest attempt;
pointer and time are current. The invariant relates the session to the calls of its attempt.
-/

namespace ShaderPreview

variable {B : Backend} {H : FrameHost}

/-! ### What the stages make -/

section

variable {frontEnd : FrontEnd} {request : RenderRequest} {before after : B.State}
  {events : List (Event B)} {state : LoopState}

theorem bound_made {diagnostics : List Diagnostic} {resources : B.Resources}
    (h : Bound request diagnostics before events (.ok resources) state after) :
    ∃ textures, .bind request.canvas textures (.ok resources) ∈ events ∧
      PerChannel.occupancy textures = request.textured := by
  generalize houtcome : Except.ok resources = outcome at h
  cases h with
  | unpopulated => cases houtcome
  | unloaded => cases houtcome
  | @bound between loads textures answer populated loaded called =>
    have hvalue := sound_of_mapError houtcome.symm
    refine ⟨textures, List.mem_append_right _ ?_, occupancy_loaded loaded⟩
    rw [Answer.events, hvalue]
    exact List.mem_cons_self

theorem uploaded_made {mesh : Option VertexData} {vertices : Option B.Vertices}
    (h : Uploaded mesh before events (.ok vertices) state after) {buffer : B.Vertices}
    (hbuffer : vertices = some buffer) :
    ∃ data, mesh = some data ∧ .uploadVertices data (.ok buffer) ∈ events := by
  generalize houtcome : Except.ok vertices = outcome at h
  cases h with
  | absent =>
    cases houtcome
    cases hbuffer
  | @present data _ answer called =>
    refine ⟨data, rfl, ?_⟩
    rw [Answer.events]
    cases hvalue : answer.value with
    | error failure =>
      rw [hvalue] at houtcome
      cases houtcome
    | ok uploaded =>
      rw [hvalue] at houtcome
      cases houtcome
      cases hbuffer
      exact List.mem_cons_self

theorem built_made {stages : PipelineStages B.Module} {resources : B.Resources}
    {pipeline : B.Pipeline} (h : Built stages resources before events (.ok pipeline) state after) :
    .buildPipeline stages resources (.ok pipeline) ∈ events := by
  cases h with
  | @built answer _ check called value checked unnoted =>
    refine List.mem_append_left _ (List.mem_cons_of_mem _ ?_)
    rw [Answer.events, value]
    exact List.mem_cons_self

/-- Pipeline, resources and vertices were created for the request during the events. -/
structure Made (request : RenderRequest) (events : List (Event B)) (pipeline : B.Pipeline)
    (resources : B.Resources) (vertices : Option B.Vertices) : Prop where
  bound : ∃ textures, .bind request.canvas textures (.ok resources) ∈ events ∧
    PerChannel.occupancy textures = request.textured
  built : ∃ stages, .buildPipeline stages resources (.ok pipeline) ∈ events
  uploaded {buffer : B.Vertices} : vertices = some buffer →
    ∃ mesh, request.vertices = some mesh ∧ .uploadVertices mesh (.ok buffer) ∈ events
  bare : vertices = none → request.vertices = none

theorem Made.among {part : List (Event B)} {pipeline : B.Pipeline} {resources : B.Resources}
    {vertices : Option B.Vertices} (h : Made request part pipeline resources vertices)
    (hpart : ∀ event ∈ part, event ∈ events) : Made request events pipeline resources vertices := by
  obtain ⟨⟨textures, hbind, htextures⟩, ⟨stages, hbuild⟩, huploaded, hbare⟩ := h
  refine ⟨⟨textures, hpart _ hbind, htextures⟩, ⟨stages, hpart _ hbuild⟩, ?_, hbare⟩
  intro buffer hbuffer
  obtain ⟨mesh, hmesh, hupload⟩ := huploaded hbuffer
  exact ⟨mesh, hmesh, hpart _ hupload⟩

theorem assembled_made {kind : ShaderKind} {vertexEntry fragmentEntry : String}
    {assembly : Assembly B} (h : Assembled request kind vertexEntry fragmentEntry before events
      (.ok assembly) state after) :
    Made request events assembly.pipeline assembly.resources assembly.vertices := by
  obtain _ | ⟨_, hbinds⟩ := h
  obtain _ | ⟨hbinds, huploads⟩ := hbinds
  obtain _ | ⟨huploads, hbuilds⟩ := huploads
  obtain ⟨outcome, hbuilds, hmapped⟩ := hbuilds
  cases outcome with
  | error stop => cases hmapped
  | ok pipeline =>
    cases hmapped
    obtain ⟨textures, hbind, htextures⟩ := bound_made hbinds
    have hbuild := built_made hbuilds
    have hmesh := uploaded_isSome huploads
    have hlater {event : Event B} {first second third fourth : List (Event B)}
        (he : event ∈ second ∨ event ∈ third ∨ event ∈ fourth) :
        event ∈ first ++ (second ++ (third ++ fourth)) := by
      simp only [List.mem_append]
      exact .inr he
    refine ⟨⟨textures, hlater (.inl hbind), htextures⟩,
      ⟨_, hlater (.inr (.inr hbuild))⟩, fun hbuffer => ?_, fun hnone => ?_⟩
    · obtain ⟨mesh, hmesh, hupload⟩ := uploaded_made huploads hbuffer
      exact ⟨mesh, hmesh, hlater (.inr (.inl hupload))⟩
    · have habsent : request.vertices.isSome = false := by
        rw [← hmesh]
        exact congrArg Option.isSome hnone
      exact Option.not_isSome_iff_eq_none.1 (Bool.eq_false_iff.1 habsent)

theorem prepared_made {assembly : Assembly B}
    (h : Prepared frontEnd request before events (.ok assembly) state after) :
    Made request events assembly.pipeline assembly.resources assembly.vertices := by
  obtain _ | ⟨_, hassembled⟩ := h
  exact (assembled_made hassembled).among fun _ => List.mem_append_right _

end

/-! ### The session of an attempt -/

/-- A successful attempt with what its draws need. The resources have exactly the channels the
shader samples; the pipeline uses vertex input exactly if there is a vertex buffer; the vertex count
is that of the mesh, six floats for every vertex, or of the fullscreen triangle. -/
structure AttemptProvides (frontEnd : FrontEnd) (request : RenderRequest) (attempt : List (Event B))
    (pipeline : B.Pipeline) (resources : B.Resources) (vertices : Option B.Vertices)
    (vertexCount : Nat) : Prop where
  planned : calls attempt = request.plan (frontEnd.classify request.source).kind
  made : Made request attempt pipeline resources vertices
  textures : BindsLoaded attempt
  vertexInput {stages : PipelineStages B.Module} {used : B.Resources}
    {result : Except Failure B.Pipeline} : .buildPipeline stages used result ∈ attempt →
      (stages.usesVertexInput = true ↔ vertices.isSome = true)
  mesh {data : VertexData} :
    request.vertices = some data → vertexCount = data.floats.length / 6 % 4294967296
  triangle : vertices = none → vertexCount = 3

theorem Made.isSome {request : RenderRequest} {events : List (Event B)} {pipeline : B.Pipeline}
    {resources : B.Resources} {vertices : Option B.Vertices}
    (h : Made request events pipeline resources vertices) :
    vertices.isSome = request.vertices.isSome := by
  cases hvertices : vertices with
  | none =>
    rw [h.bare hvertices]
    rfl
  | some buffer =>
    obtain ⟨mesh, hmesh, _⟩ := h.uploaded hvertices
    rw [hmesh]
    rfl

theorem attemptProvides_running {frontEnd : FrontEnd} {request : RenderRequest}
    {turn : List (Event B)} (hturn : Turns turn) (answer : Answer B.State B.Note Bool)
    {stages : List (Event B)} {assembly : Assembly B} {state : LoopState}
    {before after : B.State}
    (h : Prepared frontEnd request before stages (.ok assembly) state after) (token : Token)
    (frame : FrameId) (observer : ObserverId) :
    AttemptProvides frontEnd request
      (turn ++ (answer.events (.acquire request.canvas) ++ (stages ++ [.requestFrame token frame,
        .observeResize observer, .console successLine, .errors assembly.diagnostics])))
      assembly.pipeline assembly.resources assembly.vertices
      ((request.vertices.map (·.count)).getD fullscreenVertexCount) := by
  let connection : List (Event B) := [.requestFrame token frame, .observeResize observer,
    .console successLine, .errors assembly.diagnostics]
  have hmade := prepared_made h
  have hbound := binds_prepared frontEnd request h
  have houter : ∀ event ∈ stages, event ∈
      turn ++ (answer.events (.acquire request.canvas) ++ (stages ++ connection)) :=
    fun event he => List.mem_append_right _ (List.mem_append_right _ (List.mem_append_left _ he))
  have hmodule : ∀ event ∈ connection, event.isModule = false := by
    simp [connection, Event.isModule]
  have htexture : ∀ event ∈ connection, event.isTexture = false := by
    simp [connection, Event.isTexture]
  refine ⟨?_, hmade.among houter, ?_, fun hbuild => ?_, fun hmesh => ?_, fun hnone => ?_⟩
  · rw [calls_acquired hturn, calls_append, (prepared_done h).1]
    rfl
  · rw [← List.append_assoc, ← List.append_assoc]
    refine hbound.around _ _ ?_ htexture
    exact List.forall_mem_append.2 ⟨isTexture_silent hturn.silent, isTexture_answer rfl⟩
  · have hstage := (mem_stages hturn answer request.canvas stages hmodule rfl).1 hbuild
    rw [(prepared_builds h hstage).2.1, hmade.isSome]
  · rw [hmesh]
    rfl
  · rw [hmade.bare hnone]
    rfl

namespace RenderLoop

theorem start_attemptProvides {frontEnd : FrontEnd} {request : RenderRequest} {now : Nat}
    {loop : RenderLoop B H} {session : Session B}
    (h : (loop.start frontEnd request now).session = some session) : ∃ attempt,
      (loop.start frontEnd request now).trace = loop.retire.trace ++ attempt ∧
      session.startedAt = now ∧ AttemptProvides frontEnd request attempt session.pipeline
        session.resources session.vertices session.vertexCount := by
  have habsent := session_atAcquire request loop
  obtain ⟨turn, hturn, htrace, _⟩ := loop.atAcquire_turns request
  have hattempt := start_attempted frontEnd request now loop
  generalize loop.start frontEnd request now = next at hattempt h
  cases hattempt with
  | unavailable => cases habsent.symm.trans h
  | stopped => cases habsent.symm.trans h
  | @running answer events assembly state backend asked value prepared =>
    obtain rfl := Option.some.inj h
    let moment := loop.atAcquire request
    let requested := H.request moment.tokens.fresh moment.host
    have hprovides := attemptProvides_running hturn answer prepared moment.tokens.fresh requested.1
      (H.observe requested.2).1
    refine ⟨_, ?_, rfl, hprovides⟩
    show moment.trace ++ (answer.events (.acquire request.canvas) ++ events) ++ _ = _
    rw [show moment.trace = _ from htrace]
    simp only [List.append_assoc]
    rfl

/-! ### Draws -/

theorem draw_not_planned (request : RenderRequest) (kind : ShaderKind) :
    RenderCall.draw ∉ request.plan kind := by
  by_cases hkind : kind = .fragmentOnly <;>
    simp [RenderRequest.plan, RenderRequest.stageCalls, compileCalls, RenderRequest.bindCalls,
      hkind]

theorem isDraw_retirement (session : Option (Session B)) :
    ∀ event ∈ session.elim [] Session.retirement, event.isDraw = false := by
  cases session with
  | none => exact nofun
  | some session =>
    show ∀ event ∈ session.retirement, event.isDraw = false
    unfold Session.retirement
    cases session.frame <;> simp [Event.isDraw]

def drawEvent (session : Session B) (now : Nat) (loop : RenderLoop B H)
    (result : Except Failure Unit) : Event B :=
  .draw session.pipeline session.resources session.vertices
    ⟨now - session.startedAt, loop.pointer, session.vertexCount⟩ result

/-- Every draw among the events is one of the session at this time. -/
def DrawsOnly (session : Session B) (now : Nat) (loop : RenderLoop B H)
    (events : List (Event B)) : Prop :=
  ∀ event ∈ events, event.isDraw = true → ∃ result, event = loop.drawEvent session now result

theorem drawsOnly_drew (session : Session B) (now : Nat) (loop : RenderLoop B H)
    {rest : List (Event B)} (hrest : ∀ event ∈ rest, event.isDraw = false) :
    loop.DrawsOnly session now ((loop.draw session now).events
      (loop.drawEvent session now) ++ rest) := by
  intro event he hdraw
  obtain he | he := List.mem_append.1 he
  · obtain rfl | hnote := List.mem_cons.1 he
    · exact ⟨_, rfl⟩
    · obtain ⟨note, _, rfl⟩ := List.mem_map.1 hnote
      cases hdraw
  · rw [hrest event he] at hdraw
    cases hdraw

theorem draws_onFrame (frame : FrameId) (now : Nat) {loop : RenderLoop B H}
    (h : loop.session.isSome = true → loop.state = .running) :
    ∃ events, (loop.onFrame frame now).trace = loop.trace ++ events ∧
      (events = [] ∨ ∃ session, loop.session = some session ∧
        loop.DrawsOnly session now events) := by
  have hdelivered := onFrame_delivered frame now loop
  generalize loop.onFrame frame now = next at hdelivered
  cases hdelivered with
  | stale => exact ⟨[], (List.append_nil _).symm, .inl rfl⟩
  | @drawn session running =>
    refine ⟨_, List.append_assoc _ _ _, .inr ⟨session, running, ?_⟩⟩
    exact drawsOnly_drew session now loop (List.forall_mem_singleton.2 rfl)
  | @failed session failure running =>
    refine ⟨_, List.append_assoc _ _ _, .inr ⟨session, running, ?_⟩⟩
    exact drawsOnly_drew session now loop (List.forall_mem_singleton.2 rfl)
  | @exhausted session failure running =>
    have hstate : loop.state = .running := h (by rw [running]; rfl)
    let last := loop.drew session now (session.drawFailures + 1)
    have hretire : last.retire.trace = last.trace ++ _ := retire_trace fun _ => hstate
    refine ⟨_, hretire.trans (List.append_assoc _ _ _), .inr ⟨session, running, ?_⟩⟩
    exact drawsOnly_drew session now loop (isDraw_retirement _)

theorem draws_perform (frontEnd : FrontEnd) (ledger : Ledger H) (operation : Operation)
    {loop : RenderLoop B H} (h : loop.Settled) :
    ∃ events, (loop.perform frontEnd ledger operation).trace = loop.trace ++ events ∧
      ∀ event ∈ events, event.isDraw = true → ∃ frame now session result,
        operation = .frame frame now ∧ loop.session = some session ∧
        event = loop.drawEvent session now result := by
  have hnone {events : List (Event B)} (hevents : ∀ event ∈ events, event.isDraw = false) :
      ∀ event ∈ events, event.isDraw = true → ∃ frame now session result,
        operation = .frame frame now ∧ loop.session = some session ∧
        event = loop.drawEvent session now result := by
    intro event he hdraw
    rw [hevents event he] at hdraw
    cases hdraw
  obtain ⟨request, now, _, hstart⟩ | ⟨frame, now, rfl⟩ | rfl | ⟨_, _, _, _, hquiet⟩ :=
    loop.perform_cases frontEnd ledger operation
  · obtain ⟨turn, events, hturn, htrace, hends⟩ := loop.start_ends frontEnd request now
    have hplan := (ends_calls hturn hends).2
    rw [hstart, htrace, retire_trace h.state_running, List.append_assoc]
    refine ⟨_, rfl, hnone (List.forall_mem_append.2 ⟨isDraw_retirement _, fun event he => ?_⟩)⟩
    cases event with
    | draw pipeline resources vertices input result =>
      exact absurd (hplan.subset (mem_calls he rfl)) (draw_not_planned _ _)
    | _ => rfl
  · let delivered : RenderLoop B H := { loop with host := ledger.deliver frame loop.host }
    have hstate : delivered.session.isSome = true → delivered.state = .running := h.state_running
    obtain ⟨events, htrace, rfl | ⟨session, hsession, hdraws⟩⟩ := draws_onFrame frame now hstate
    · exact ⟨[], htrace, nofun⟩
    · refine ⟨events, htrace, fun event he hdraw => ?_⟩
      obtain ⟨result, hevent⟩ := hdraws event he hdraw
      exact ⟨frame, now, session, result, rfl, hsession, hevent⟩
  · exact ⟨_, retire_trace h.state_running, hnone (isDraw_retirement _)⟩
  · refine ⟨[], ?_, nofun⟩
    rw [hquiet, List.append_nil]

end RenderLoop

/-! ### The latest attempt -/

/-- The latest attempt of a run: request, time, and events after the previous session was
retired. -/
inductive LatestAttempt (frontEnd : FrontEnd) (ledger : Ledger H) (start : RenderLoop B H) :
    List Operation → RenderRequest → Nat → List (Event B) → Prop
  | made {operations : List Operation} {operation : Operation} {request : RenderRequest}
      {now : Nat} {attempt : List (Event B)}
      (asked : (start.run frontEnd ledger operations).attempt? operation = some request)
      (time : operation.time? = some now)
      (trace : (start.run frontEnd ledger (operations ++ [operation])).trace =
        (start.run frontEnd ledger operations).retire.trace ++ attempt) :
      LatestAttempt frontEnd ledger start (operations ++ [operation]) request now attempt
  | earlier {operations : List Operation} {operation : Operation} {request : RenderRequest}
      {now : Nat} {attempt : List (Event B)}
      (latest : LatestAttempt frontEnd ledger start operations request now attempt)
      (unasked : (start.run frontEnd ledger operations).attempt? operation = none) :
      LatestAttempt frontEnd ledger start (operations ++ [operation]) request now attempt

/-- The current session comes from the latest attempt. -/
def SessionOfLatest (frontEnd : FrontEnd) (ledger : Ledger H) (start : RenderLoop B H)
    (operations : List Operation) (loop : RenderLoop B H) : Prop :=
  ∀ session, loop.session = some session → ∃ request attempt,
    LatestAttempt frontEnd ledger start operations request session.startedAt attempt ∧
    AttemptProvides frontEnd request attempt session.pipeline session.resources session.vertices
      session.vertexCount

theorem SessionOfLatest.perform {frontEnd : FrontEnd} {ledger : Ledger H} {start : RenderLoop B H}
    {operations : List Operation} {loop : RenderLoop B H}
    (h : SessionOfLatest frontEnd ledger start operations loop)
    (hloop : start.run frontEnd ledger operations = loop) (operation : Operation) :
    SessionOfLatest frontEnd ledger start (operations ++ [operation])
      (loop.perform frontEnd ledger operation) := by
  intro session hsession
  cases hattempt : loop.attempt? operation with
  | some request =>
    obtain ⟨now, htime, hstart⟩ := RenderLoop.perform_attempt_at frontEnd ledger hattempt
    rw [hstart] at hsession
    obtain ⟨attempt, htrace, hstarted, hprovides⟩ := RenderLoop.start_attemptProvides hsession
    have hlatest : LatestAttempt frontEnd ledger start (operations ++ [operation]) request
        session.startedAt attempt := by
      refine .made ?_ (hstarted ▸ htime) ?_
      · rw [hloop]
        exact hattempt
      · rw [RenderLoop.run_snoc, hloop, hstart]
        exact htrace
    exact ⟨request, attempt, hlatest, hprovides⟩
  | none =>
    obtain ⟨earlier, hearlier, frame, failures, rfl⟩ :=
      RenderLoop.session_unasked frontEnd ledger hattempt hsession
    obtain ⟨request, attempt, hlatest, hprovides⟩ := h earlier hearlier
    refine ⟨request, attempt, .earlier hlatest ?_, hprovides⟩
    rw [hloop]
    exact hattempt

/-! ### The pointer -/

def Operation.movedTo? : Operation → Option (Single × Single)
  | .pointerMoved x y => some (x, y)
  | _ => none

def Operation.pressed? : Operation → Option Bool
  | .pointerButton pressed => some pressed
  | _ => none

/-- Coordinates of the last move and button of the last press or release in the operations;
initially the origin and not pressed. -/
structure Pointer.Reported (operations : List Operation) (pointer : Pointer) : Prop where
  place : (pointer.x, pointer.y) = (latest Operation.movedTo? operations).getD (.zero, .zero)
  button : pointer.pressed = (latest Operation.pressed? operations).getD false

theorem getD_latest_append {α : Type} (tells : Operation → Option α) (operations : List Operation)
    (operation : Operation) (initial : α) :
    (latest tells (operations ++ [operation])).getD initial =
      (tells operation).getD ((latest tells operations).getD initial) := by
  rw [latest_append, latest_singleton]
  cases tells operation <;> rfl

namespace RenderLoop

theorem pointer_setCanvas (size : CanvasSize) (loop : RenderLoop B H) :
    (loop.setCanvas size).pointer = loop.pointer := by
  unfold setCanvas
  split <;> rfl

theorem pointer_start (frontEnd : FrontEnd) (request : RenderRequest) (now : Nat)
    (loop : RenderLoop B H) : (loop.start frontEnd request now).pointer = loop.pointer :=
  (loop.keepsInputs_start frontEnd request now).pointer

theorem pointer_perform (frontEnd : FrontEnd) (ledger : Ledger H) (operation : Operation)
    (loop : RenderLoop B H) :
    let pointer := (loop.perform frontEnd ledger operation).pointer
    (pointer.x, pointer.y) = operation.movedTo?.getD (loop.pointer.x, loop.pointer.y) ∧
      pointer.pressed = operation.pressed?.getD loop.pointer.pressed := by
  have hkept {other : RenderLoop B H} (h : other.pointer = loop.pointer) :
      (other.pointer.x, other.pointer.y) = (loop.pointer.x, loop.pointer.y) ∧
        other.pointer.pressed = loop.pointer.pressed := by
    rw [h]
    exact ⟨rfl, rfl⟩
  cases operation with
  | start request now => exact hkept (pointer_start frontEnd request now loop)
  | reload source now =>
    simp only [perform, reload]
    split
    · exact hkept rfl
    · exact hkept (pointer_start frontEnd _ now loop)
  | resize size now =>
    simp only [perform, onResize]
    split
    · exact hkept rfl
    · split
      · exact hkept (pointer_setCanvas size loop)
      · split
        · exact hkept rfl
        · exact hkept (pointer_start frontEnd _ now loop)
  | setCanvas size => exact hkept (pointer_setCanvas size loop)
  | pointerMoved x y => exact ⟨rfl, rfl⟩
  | pointerButton pressed => exact ⟨rfl, rfl⟩
  | stop => exact hkept (keepsInputs_retire loop).pointer
  | frame frame now => exact hkept (keepsInputs_onFrame frame now _).pointer

theorem reported_perform (frontEnd : FrontEnd) (ledger : Ledger H) {operations : List Operation}
    {loop : RenderLoop B H} (h : loop.pointer.Reported operations) (operation : Operation) :
    (loop.perform frontEnd ledger operation).pointer.Reported (operations ++ [operation]) := by
  obtain ⟨hplace, hbutton⟩ := loop.pointer_perform frontEnd ledger operation
  constructor
  · rw [hplace, h.place, getD_latest_append]
  · rw [hbutton, h.button, getD_latest_append]

end RenderLoop

/-! ### Runs -/

theorem sessionOfLatest_run (frontEnd : FrontEnd) (ledger : Ledger H) (backend : B.State)
    (operations : List Operation) :
    let start := RenderLoop.idle backend ledger.initial
    let loop := start.run frontEnd ledger operations
    SessionOfLatest frontEnd ledger start operations loop ∧ loop.pointer.Reported operations := by
  intro start
  let holds (operations : List Operation) (loop : RenderLoop B H) : Prop :=
    SessionOfLatest frontEnd ledger start operations loop ∧ loop.pointer.Reported operations
  refine RenderLoop.run_induction frontEnd ledger backend holds ⟨nofun, rfl, rfl⟩ ?_ operations
  intro operations operation loop hloop _ ⟨hcurrent, hpointer⟩
  exact ⟨hcurrent.perform hloop operation,
    RenderLoop.reported_perform frontEnd ledger hpointer operation⟩

/-- Every draw belongs to a delivered frame. It uses the pipeline, resources and vertices of the
latest attempt, the pointer reported last, and the time since the attempt (0 for a frame dated
before it). -/
theorem draw_coherent (frontEnd : FrontEnd) (ledger : Ledger H) (backend : B.State)
    (operations : List Operation) (operation : Operation) :
    let start := RenderLoop.idle backend ledger.initial
    let before := start.run frontEnd ledger operations
    let after := before.perform frontEnd ledger operation
    ∃ events, after.trace = before.trace ++ events ∧
      ∀ pipeline resources vertices input result,
        .draw pipeline resources vertices input result ∈ events →
        ∃ frame now request started attempt, operation = .frame frame now ∧
          LatestAttempt frontEnd ledger start operations request started attempt ∧
          AttemptProvides frontEnd request attempt pipeline resources vertices input.vertexCount ∧
          (input.pointer.x, input.pointer.y) =
            (latest Operation.movedTo? operations).getD (.zero, .zero) ∧
          input.pointer.pressed = (latest Operation.pressed? operations).getD false ∧
          started + input.elapsed = max started now := by
  intro start before after
  have hsettled := (Orderly.reached frontEnd ledger backend operations).settled
  obtain ⟨hcurrent, hpointer⟩ := sessionOfLatest_run frontEnd ledger backend operations
  obtain ⟨events, htrace, hdraws⟩ :=
    RenderLoop.draws_perform frontEnd ledger operation hsettled
  refine ⟨events, htrace, fun pipeline resources vertices input result he => ?_⟩
  obtain ⟨frame, now, session, _, hframe, hsession, hevent⟩ := hdraws _ he rfl
  obtain ⟨request, attempt, hlatest, hprovides⟩ := hcurrent session hsession
  cases hevent
  refine ⟨frame, now, request, session.startedAt, attempt, hframe, hlatest, hprovides,
    hpointer.place, hpointer.button, ?_⟩
  show session.startedAt + (now - session.startedAt) = max session.startedAt now
  omega

def Event.drawsAt (elapsed count : Nat) : Event B → Bool
  | .draw _ _ _ input _ => input.elapsed == elapsed && input.vertexCount == count
  | _ => false

/-- The pointer survives a restart, and a frame dated before the restart has elapsed time 0. -/
theorem draw_coherent_moved :
    let operations : List Operation :=
      [.pointerButton true, .pointerMoved .one .one, .start pointerRequest 0,
        .pointerMoved .zero .one, .stop, .start pointerRequest 5]
    let before := Rehearsal.compiled.run Wgsl.frontEnd operations
    let after := Rehearsal.compiled.run Wgsl.frontEnd (operations ++ [.frame ⟨3⟩ 3])
    ∃ events pipeline resources vertices result, after.trace = before.trace ++ events ∧
      .draw pipeline resources vertices ⟨0, ⟨.zero, .one, true⟩, 3⟩ result ∈ events := by
  have hdrawn :
      let operations : List Operation :=
        [.pointerButton true, .pointerMoved .one .one, .start pointerRequest 0,
          .pointerMoved .zero .one, .stop, .start pointerRequest 5]
      let before := Rehearsal.compiled.run Wgsl.frontEnd operations
      let after := Rehearsal.compiled.run Wgsl.frontEnd (operations ++ [.frame ⟨3⟩ 3])
      (after.trace.drop before.trace.length).any (Event.drawsAt 0 3) = true := by
    decide +kernel
  generalize Wgsl.frontEnd = frontEnd at hdrawn ⊢
  intro operations before after
  obtain ⟨events, htrace, hdraws⟩ := draw_coherent (B := Rehearsal.backend frontEnd) frontEnd
    FrameRegister.ledger Rehearsal.compiled operations (.frame ⟨3⟩ 3)
  have hafter : after.trace = before.trace ++ events := by
    rw [← show _ = before.trace ++ events from htrace]
    exact congrArg RenderLoop.trace (RenderLoop.run_snoc frontEnd _ operations _ _)
  have hany : (after.trace.drop before.trace.length).any (Event.drawsAt 0 3) = true := hdrawn
  rw [hafter, List.drop_left] at hany
  obtain ⟨event, he, hevent⟩ := List.any_eq_true.1 hany
  cases event with
  | draw pipeline resources vertices input result =>
    obtain ⟨_, _, _, _, _, _, _, _, hplace, hbutton, _⟩ := hdraws _ _ _ _ _ he
    obtain ⟨elapsed, ⟨x, y, pressed⟩, count⟩ := input
    cases hplace
    cases hbutton
    obtain ⟨htime, hcount⟩ := Bool.and_eq_true_iff.1 hevent
    obtain rfl : elapsed = 0 := beq_iff_eq.1 htime
    obtain rfl : count = 3 := beq_iff_eq.1 hcount
    exact ⟨events, pipeline, resources, vertices, result, hafter, he⟩
  | _ => cases hevent

end ShaderPreview
