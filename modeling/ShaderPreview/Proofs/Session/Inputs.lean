import ShaderPreview.Proofs.Session.Memory
import ShaderPreview.Proofs.Session.Plan

/-!
# Inputs of attempts

A reload takes images and mesh from the stored request and a resize takes them from the session; the
invariant is that the two agree up to the canvas.
-/

namespace ShaderPreview

variable {B : Backend} {H : FrameHost}

/-! ### What was given -/

/-- The request has the source of the last start or reload, and the images and mesh of the last
start. -/
structure HasLatestInputs (operations : List Operation) (request : RenderRequest) : Prop where
  source : latest Operation.source? operations = some request.source
  scene : ∃ given, latest Operation.start? operations = some given ∧
    request.channels = given.channels ∧ request.vertices = given.vertices

theorem hasLatestInputs_start (operations : List Operation) (request : RenderRequest) (now : Nat) :
    HasLatestInputs (operations ++ [.start request now]) request :=
  ⟨latest_told operations rfl, request, latest_told operations rfl, rfl, rfl⟩

section

variable {operations : List Operation} {request : RenderRequest}

theorem HasLatestInputs.reload (h : HasLatestInputs operations request) (source : String)
    (now : Nat) :
    HasLatestInputs (operations ++ [.reload source now]) { request with source := source } := by
  obtain ⟨given, hgiven, hchannels, hvertices⟩ := h.scene
  have hstart : latest Operation.start? (operations ++ [.reload source now]) = some given := by
    rw [latest_untold operations rfl]
    exact hgiven
  exact ⟨latest_told operations rfl, given, hstart, hchannels, hvertices⟩

theorem HasLatestInputs.untold (h : HasLatestInputs operations request) {operation : Operation}
    (hsource : operation.source? = none) (hstart : operation.start? = none) :
    HasLatestInputs (operations ++ [operation]) request := by
  constructor
  · rw [latest_untold operations hsource]
    exact h.source
  · rw [latest_untold operations hstart]
    exact h.scene

theorem HasLatestInputs.withCanvas (h : HasLatestInputs operations request) (size : CanvasSize) :
    HasLatestInputs operations { request with canvas := size } := ⟨h.source, h.scene⟩

end

/-! ### What the loop keeps of it -/

/-- The stored request has the latest inputs, and the request of the session differs from it at most
in the canvas. Without a stored request there was no start. -/
structure StoredInputs (operations : List Operation) (loop : RenderLoop B H) : Prop where
  unstarted : loop.lastRequest = none → latest Operation.start? operations = none
  last {request : RenderRequest} :
    loop.lastRequest = some request → HasLatestInputs operations request
  session {session : Session B} : loop.session = some session →
    ∃ canvas, loop.lastRequest = some { session.request with canvas := canvas }

section

variable {operations : List Operation} {operation : Operation} {loop : RenderLoop B H}

theorem StoredInputs.attempt (h : StoredInputs operations loop) {request : RenderRequest}
    (hattempt : loop.attempt? operation = some request) :
    HasLatestInputs (operations ++ [operation]) request := by
  cases operation with
  | start given now =>
    obtain rfl := Option.some.inj hattempt
    exact hasLatestInputs_start operations given now
  | reload source now =>
    obtain ⟨last, hlast, rfl⟩ := Option.map_eq_some_iff.1 hattempt
    exact (h.last hlast).reload source now
  | resize size now =>
    simp only [RenderLoop.attempt?] at hattempt
    split at hattempt
    · cases hattempt
    · obtain ⟨session, hsession, hattempt⟩ := Option.bind_eq_some_iff.1 hattempt
      split at hattempt
      · cases hattempt
      · obtain rfl := Option.some.inj hattempt
        obtain ⟨canvas, hlast⟩ := h.session hsession
        have hgiven := (h.last hlast).withCanvas size
        exact hgiven.untold rfl rfl
  | setCanvas size => cases hattempt
  | pointerMoved x y => cases hattempt
  | pointerButton pressed => cases hattempt
  | stop => cases hattempt
  | frame frame now => cases hattempt

theorem start?_unasked (h : loop.attempt? operation = none) : operation.start? = none := by
  cases operation with
  | start request now => cases h
  | _ => rfl

theorem source?_unasked (h : loop.attempt? operation = none) {request : RenderRequest}
    (hlast : loop.lastRequest = some request) : operation.source? = none := by
  cases operation with
  | start given now => cases h
  | reload source now =>
    rw [RenderLoop.attempt?, hlast] at h
    cases h
  | _ => rfl

theorem StoredInputs.perform (h : StoredInputs operations loop) (frontEnd : FrontEnd)
    (ledger : Ledger H) (operation : Operation) :
    StoredInputs (operations ++ [operation]) (loop.perform frontEnd ledger operation) := by
  cases hattempt : loop.attempt? operation with
  | some request =>
    obtain ⟨now, hstart⟩ := loop.perform_attempt frontEnd ledger hattempt
    have hlast := (loop.keepsInputs_start frontEnd request now).lastRequest
    rw [hstart]
    refine ⟨fun hnone => ?_, fun {other} hother => ?_, fun {session} hsession => ?_⟩
    · cases hlast.symm.trans hnone
    · obtain rfl : request = other := Option.some.inj (hlast.symm.trans hother)
      exact h.attempt hattempt
    · rw [RenderLoop.request_start hsession]
      exact ⟨request.canvas, hlast⟩
  | none =>
    have hstart := start?_unasked hattempt
    obtain ⟨canvas, hnext⟩ := RenderLoop.lastRequest_canvas frontEnd ledger hattempt
    refine ⟨fun hnone => ?_, fun {other} hother => ?_, fun {session} hsession => ?_⟩
    · rw [latest_untold operations hstart]
      exact h.unstarted (Option.map_eq_none_iff.1 (hnext.symm.trans hnone))
    · obtain ⟨request, hlast, rfl⟩ := Option.map_eq_some_iff.1 (hnext.symm.trans hother)
      have hgiven := (h.last hlast).withCanvas (canvas request)
      exact hgiven.untold (source?_unasked hattempt hlast) hstart
    · obtain ⟨earlier, hearlier, frame, failures, rfl⟩ :=
        RenderLoop.session_unasked frontEnd ledger hattempt hsession
      obtain ⟨size, hlast⟩ := h.session hearlier
      refine ⟨canvas { earlier.request with canvas := size }, ?_⟩
      rw [hnext, hlast]
      rfl

end

theorem StoredInputs.idle (backend : B.State) (host : H.State) :
    StoredInputs [] (RenderLoop.idle (B := B) (H := H) backend host) := ⟨fun _ => rfl, nofun, nofun⟩

theorem StoredInputs.run (frontEnd : FrontEnd) (ledger : Ledger H) (backend : B.State)
    (operations : List Operation) : StoredInputs operations
      ((RenderLoop.idle backend ledger.initial).run frontEnd ledger operations) :=
  RenderLoop.run_induction frontEnd ledger backend StoredInputs (.idle backend ledger.initial)
    (fun _ operation _ _ _ h => h.perform frontEnd ledger operation) operations

/-- Every attempt uses the source of the last start or reload and the images and mesh of the last
start. A reload before any start has no effect. -/
theorem attempt_inputs (frontEnd : FrontEnd) (ledger : Ledger H) (backend : B.State)
    (operations : List Operation) (operation : Operation) :
    let start := RenderLoop.idle backend ledger.initial
    let before := start.run frontEnd ledger operations
    let after := before.perform frontEnd ledger operation
    (latest Operation.start? operations = none → ∀ source now,
      before.perform frontEnd ledger (.reload source now) = before) ∧
    match before.attempt? operation with
    | none => before.Unacquired after
    | some request => HasLatestInputs (operations ++ [operation]) request ∧
      ∃ events, after.trace = before.retire.trace ++ events ∧
        .acquire request.canvas ∈ calls events ∧
        calls events <+: request.plan (frontEnd.classify request.source).kind := by
  intro start before after
  have hrecalls : StoredInputs operations before := .run frontEnd ledger backend operations
  have hsettled := (Orderly.reached frontEnd ledger backend operations).settled
  constructor
  · intro hnone source now
    cases hlast : before.lastRequest with
    | none => simp only [RenderLoop.perform, RenderLoop.reload, hlast]
    | some request =>
      obtain ⟨_, given, hgiven, _⟩ := hrecalls.last hlast
      rw [hnone] at hgiven
      cases hgiven
  · cases hattempt : before.attempt? operation with
    | none => exact RenderLoop.unacquired_perform frontEnd ledger hsettled hattempt
    | some request =>
      obtain ⟨now, hstart⟩ := before.perform_attempt frontEnd ledger hattempt
      obtain ⟨turn, events, hturn, htrace, hends⟩ := before.start_ends frontEnd request now
      refine ⟨hrecalls.attempt hattempt, turn ++ events, ?_, ends_calls hturn hends⟩
      show (before.perform frontEnd ledger operation).trace = _
      rw [hstart]
      exact htrace

end ShaderPreview
