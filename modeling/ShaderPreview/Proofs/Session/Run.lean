import ShaderPreview.Proofs.Session.Launch
import ShaderPreview.Proofs.Session.Ledger

/-!
# Runs of a render loop

A run is a list of operations. Each operation has one lemma that states everything it can do:
`retire_running`, `start_attempted`, `onFrame_delivered`, and `perform_cases` for all of them.
-/

namespace ShaderPreview

variable {B : Backend} {H : FrameHost}

/-- Public operations of a render loop. -/
inductive Operation where
  | start (request : RenderRequest) (now : Nat)
  | reload (source : String) (now : Nat)
  | resize (size : CanvasSize) (now : Nat)
  | setCanvas (size : CanvasSize)
  | pointerMoved (x y : Single)
  | pointerButton (pressed : Bool)
  | stop
  /-- Delivery of a frame, pending or not. -/
  | frame (frame : FrameId) (now : Nat)

namespace RenderLoop

/-- The host forgets a frame when it delivers it. -/
def perform (frontEnd : FrontEnd) (ledger : Ledger H) (operation : Operation)
    (loop : RenderLoop B H) : RenderLoop B H :=
  match operation with
  | .start request now => loop.start frontEnd request now
  | .reload source now => loop.reload frontEnd source now
  | .resize size now => loop.onResize frontEnd size now
  | .setCanvas size => loop.setCanvas size
  | .pointerMoved x y => loop.onPointerMoved x y
  | .pointerButton pressed => loop.onPointerButton pressed
  | .stop => loop.stop
  | .frame frame now => { loop with host := ledger.deliver frame loop.host }.onFrame frame now

def run (frontEnd : FrontEnd) (ledger : Ledger H) :
    List Operation → RenderLoop B H → RenderLoop B H
  | [], loop => loop
  | operation :: operations, loop =>
    run frontEnd ledger operations (loop.perform frontEnd ledger operation)

end RenderLoop

/-! ### Retiring -/

/-- Events of retiring a session. -/
def Session.retirement (session : Session B) : List (Event B) :=
  .transition .running .retiring :: (session.frame.toList.map .cancelFrame ++
    [.disconnectResize session.observer, .transition .retiring .idle])

def Session.hostAfter (session : Session B) (host : H.State) : H.State :=
  H.disconnect session.observer (session.frame.elim host fun frame => H.cancel frame host)

namespace RenderLoop

theorem retire_none {loop : RenderLoop B H} (h : loop.session = none) : loop.retire = loop := by
  simp only [retire, h]

theorem retire_running {loop : RenderLoop B H} {session : Session B}
    (h : loop.session = some session) (hs : loop.state = .running) :
    loop.retire = { loop with
      state := .idle
      session := none
      host := session.hostAfter loop.host
      tokens := loop.tokens.cancel session.token
      trace := loop.trace ++ session.retirement } := by
  cases hf : session.frame <;>
    simp [retire, h, hf, hs, transition, record, Session.retirement, Session.hostAfter]

/-! ### Attempts -/

def attempt? (operation : Operation) (loop : RenderLoop B H) : Option RenderRequest :=
  match operation with
  | .start request _ => some request
  | .reload source _ => loop.lastRequest.map fun request => { request with source := source }
  | .resize size _ =>
    if size.isEmpty then none
    else loop.session.bind fun session =>
      if session.request.canvas = size then none
      else some { session.request with canvas := size }
  | _ => none

/-- The loop at the moment the device is acquired. -/
def atAcquire (request : RenderRequest) (loop : RenderLoop B H) : RenderLoop B H :=
  { loop.retire with lastRequest := some request }.transition .acquiring

def connected (assembly : Assembly B) (request : RenderRequest) (now : Nat)
    (loop : RenderLoop B H) : RenderLoop B H :=
  let token := loop.tokens.fresh
  let (frame, host) := H.request token loop.host
  let (observer, host) := H.observe host
  { loop with
    tokens := loop.tokens.issue
    host := host
    session := some (assembly.session request now token frame observer)
    trace := loop.trace ++ [.requestFrame token frame, .observeResize observer,
      .console successLine, .errors assembly.diagnostics] }

end RenderLoop

def Stop.report : Stop → Option (List Diagnostic)
  | .rejected report => report
  | .failed failure => some (RenderLoop.caught failure)

namespace RenderLoop

/-- Result of an attempt. -/
inductive Attempted (frontEnd : FrontEnd) (request : RenderRequest) (now : Nat)
    (loop : RenderLoop B H) : RenderLoop B H → Prop
  | unavailable {answer : Answer B.State B.Note Bool}
      (asked : B.acquire request.canvas loop.backend = answer) (value : answer.value = false) :
      Attempted frontEnd request now loop
        (loop.after .idle answer.state
          (answer.events (.acquire request.canvas) ++ [.transition .acquiring .idle]))
  | stopped {answer : Answer B.State B.Note Bool} {events : List (Event B)} {stop : Stop}
      {state : LoopState} {backend : B.State}
      (asked : B.acquire request.canvas loop.backend = answer) (value : answer.value = true)
      (prepared : Prepared frontEnd request answer.state events (.error stop) state backend) :
      Attempted frontEnd request now loop
        (loop.after .idle backend (answer.events (.acquire request.canvas) ++
          (events ++ .transition state .idle :: stop.report.toList.map .errors)))
  | running {answer : Answer B.State B.Note Bool} {events : List (Event B)}
      {assembly : Assembly B} {state : LoopState} {backend : B.State}
      (asked : B.acquire request.canvas loop.backend = answer) (value : answer.value = true)
      (prepared : Prepared frontEnd request answer.state events (.ok assembly) state backend) :
      Attempted frontEnd request now loop
        ((loop.after state backend (answer.events (.acquire request.canvas) ++ events)).connected
          assembly request now)

theorem settle_stop {loop : RenderLoop B H} (stop : Stop) (h : loop.state ≠ .idle) :
    loop.settle (.error stop) = loop.after .idle loop.backend
      (.transition loop.state .idle :: stop.report.toList.map .errors) := by
  have hidle := transition_after .idle (rfl : loop.state = loop.state) h
  cases stop with
  | rejected report =>
    cases report with
    | none => exact hidle
    | some report =>
      simp only [settle, hidle, record_after, after_after, Stop.report]
      rfl
  | failed failure =>
    simp only [settle, hidle, record_after, after_after, Stop.report]
    rfl

theorem settle_connectSession (assembly : Assembly B) (request : RenderRequest) (now : Nat)
    (loop : RenderLoop B H) :
    ((Attempt.connectSession request now assembly).exec loop).2.settle
        ((Attempt.connectSession request now assembly).exec loop).1 =
      loop.connected assembly request now := by
  have htrace (connected told reported : Event B) (requested : Event B) :
      loop.trace ++ [requested, connected] ++ [told] ++ [reported] =
        loop.trace ++ [requested, connected, told, reported] := by
    simp only [List.append_assoc, List.cons_append, List.nil_append]
  simp only [connected, ← htrace]
  rfl

theorem start_attempted (frontEnd : FrontEnd) (request : RenderRequest) (now : Nat)
    (loop : RenderLoop B H) :
    Attempted frontEnd request now (loop.atAcquire request) (loop.start frontEnd request now) := by
  obtain ⟨atAcquire, hpoised⟩ : ∃ atAcquire, loop.atAcquire request = atAcquire := ⟨_, rfl⟩
  have hstate : atAcquire.state = .acquiring := by
    rw [← hpoised]
    exact transition_state ..
  obtain ⟨answer, ha⟩ : ∃ answer, B.acquire request.canvas atAcquire.backend = answer := ⟨_, rfl⟩
  have hstart : loop.start frontEnd request now =
      if answer.value then
        let launched := (Attempt.launch frontEnd request now).exec
          (atAcquire.after .acquiring answer.state (answer.events (.acquire request.canvas)))
        launched.2.settle launched.1
      else (atAcquire.after .acquiring answer.state
        (answer.events (.acquire request.canvas))).transition .idle := by
    rw [← ha, ← hstate, ← hpoised]
    rfl
  rw [hpoised, hstart]
  cases hv : answer.value with
  | false =>
    rw [if_neg Bool.false_ne_true, transition_after .idle (after_state ..) (by decide),
      after_backend, after_after]
    exact .unavailable ha hv
  | true =>
    rw [if_pos rfl, Attempt.launch_eq]
    obtain ⟨events, outcome, state, backend, hprepared, hrun⟩ :=
      Attempt.follows_prepare frontEnd request
        (atAcquire.after .acquiring answer.state (answer.events (.acquire request.canvas)))
        (after_state ..)
    rw [after_after] at hrun
    rw [Attempt.exec_bind, hrun]
    cases outcome with
    | error stop =>
      have hne := (inner_prepared frontEnd request hprepared).2
      dsimp only
      rw [settle_stop stop hne, after_state, after_backend, after_after, List.append_assoc]
      exact .stopped ha hv hprepared
    | ok assembly =>
      dsimp only
      rw [settle_connectSession]
      exact .running ha hv hprepared

end RenderLoop

/-! ### Frames -/

def Session.drawn (session : Session B) (failures : Nat) : Session B :=
  { session with frame := none, drawFailures := failures }

namespace RenderLoop

/-- The frame is pending in a session that has not been cancelled. -/
def Awaits (frame : FrameId) (loop : RenderLoop B H) : Prop :=
  ∃ session, loop.session = some session ∧ loop.tokens.isCancelled session.token = false ∧
    session.frame = some frame

def draw (session : Session B) (now : Nat) (loop : RenderLoop B H) :
    Answer B.State B.Note (Except Failure Unit) :=
  B.draw session.pipeline session.resources session.vertices
    ⟨now - session.startedAt, loop.pointer, session.vertexCount⟩ loop.backend

def drew (session : Session B) (now failures : Nat) (loop : RenderLoop B H) : RenderLoop B H :=
  { loop with
    backend := (loop.draw session now).state
    session := some (session.drawn failures)
    trace := loop.trace ++ (loop.draw session now).events
      (.draw session.pipeline session.resources session.vertices
        ⟨now - session.startedAt, loop.pointer, session.vertexCount⟩) }

def answered (session : Session B) (now : Nat) (loop : RenderLoop B H) :
    Except Failure Unit → RenderLoop B H
  | .ok () => (loop.drew session now 0).requestNext (session.drawn 0)
  | .error _ =>
    if maxDrawFailures ≤ session.drawFailures + 1 then
      (loop.drew session now (session.drawFailures + 1)).retire
    else (loop.drew session now (session.drawFailures + 1)).requestNext
      (session.drawn (session.drawFailures + 1))

theorem onFrame_awaited {frame : FrameId} {session : Session B} {loop : RenderLoop B H}
    (now : Nat) (hsession : loop.session = some session)
    (hwanted : loop.tokens.isCancelled session.token = false)
    (hdue : session.frame = some frame) :
    loop.onFrame frame now = loop.answered session now (loop.draw session now).value := by
  simp only [onFrame, hsession, hwanted, hdue, bne_self_eq_false, Bool.or_self,
    Bool.false_eq_true, if_false]
  rfl

/-- Result of delivering a frame. -/
inductive Delivered (frame : FrameId) (now : Nat) (loop : RenderLoop B H) :
    RenderLoop B H → Prop
  | stale (unwanted : ¬ loop.Awaits frame) : Delivered frame now loop loop
  | drawn {session : Session B} (running : loop.session = some session)
      (wanted : loop.tokens.isCancelled session.token = false)
      (due : session.frame = some frame) (value : (loop.draw session now).value = .ok ()) :
      Delivered frame now loop
        ((loop.drew session now 0).requestNext (session.drawn 0))
  | failed {session : Session B} {failure : Failure} (running : loop.session = some session)
      (wanted : loop.tokens.isCancelled session.token = false)
      (due : session.frame = some frame) (value : (loop.draw session now).value = .error failure)
      (few : session.drawFailures + 1 < maxDrawFailures) :
      Delivered frame now loop ((loop.drew session now (session.drawFailures + 1)).requestNext
        (session.drawn (session.drawFailures + 1)))
  | exhausted {session : Session B} {failure : Failure} (running : loop.session = some session)
      (wanted : loop.tokens.isCancelled session.token = false)
      (due : session.frame = some frame) (value : (loop.draw session now).value = .error failure)
      (many : maxDrawFailures ≤ session.drawFailures + 1) :
      Delivered frame now loop (loop.drew session now (session.drawFailures + 1)).retire

theorem onFrame_delivered (frame : FrameId) (now : Nat) (loop : RenderLoop B H) :
    Delivered frame now loop (loop.onFrame frame now) := by
  cases hsession : loop.session with
  | none =>
    have hstale : loop.onFrame frame now = loop := by simp only [onFrame, hsession]
    rw [hstale]
    refine .stale ?_
    rintro ⟨session, hsome, _⟩
    rw [hsession] at hsome
    cases hsome
  | some session =>
    by_cases hawaits : loop.tokens.isCancelled session.token = false ∧ session.frame = some frame
    · obtain ⟨hwanted, hdue⟩ := hawaits
      have hframe := onFrame_awaited now hsession hwanted hdue
      cases hvalue : (loop.draw session now).value with
      | ok u =>
        rw [hframe, hvalue]
        exact .drawn hsession hwanted hdue hvalue
      | error failure =>
        rw [hframe, hvalue, answered]
        by_cases hmany : maxDrawFailures ≤ session.drawFailures + 1
        · rw [if_pos hmany]
          exact .exhausted hsession hwanted hdue hvalue hmany
        · rw [if_neg hmany]
          exact .failed hsession hwanted hdue hvalue (Nat.lt_of_not_le hmany)
    · have hstale : loop.onFrame frame now = loop := by
        simp only [onFrame, hsession]
        rw [if_pos]
        cases hc : loop.tokens.isCancelled session.token with
        | true => rfl
        | false => simpa [hc] using hawaits
      rw [hstale]
      refine .stale ?_
      rintro ⟨other, hsome, hwanted, hdue⟩
      rw [hsession] at hsome
      cases hsome
      exact hawaits ⟨hwanted, hdue⟩

/-! ### All operations -/

/-- The operation changes at most the stored request and the pointer. -/
def Quiet (frontEnd : FrontEnd) (ledger : Ledger H) (operation : Operation)
    (loop : RenderLoop B H) : Prop :=
  loop.attempt? operation = none ∧ (∀ frame now, operation ≠ .frame frame now) ∧
    ∃ lastRequest pointer, loop.perform frontEnd ledger operation =
      { loop with lastRequest := lastRequest, pointer := pointer }

theorem quiet_setCanvas (frontEnd : FrontEnd) (ledger : Ledger H) (size : CanvasSize)
    (loop : RenderLoop B H) : loop.Quiet frontEnd ledger (.setCanvas size) := by
  refine ⟨rfl, nofun, ?_⟩
  by_cases he : size.isEmpty = true
  · exact ⟨loop.lastRequest, loop.pointer, by simp only [perform, setCanvas, he, if_true]⟩
  · exact ⟨loop.lastRequest.map fun request => { request with canvas := size }, loop.pointer,
      by simp only [perform, setCanvas, he, if_false, Bool.false_eq_true]⟩

theorem reload_cases (frontEnd : FrontEnd) (ledger : Ledger H) (source : String) (now : Nat)
    (loop : RenderLoop B H) :
    (∃ request, loop.attempt? (.reload source now) = some request ∧
      loop.perform frontEnd ledger (.reload source now) = loop.start frontEnd request now) ∨
    loop.Quiet frontEnd ledger (.reload source now) := by
  cases hlast : loop.lastRequest with
  | none =>
    refine .inr ⟨by simp only [attempt?, hlast, Option.map_none], nofun, ?_⟩
    refine ⟨loop.lastRequest, loop.pointer, ?_⟩
    simp only [perform, reload, hlast]
    rw [← hlast]
  | some request =>
    exact .inl ⟨{ request with source := source },
      by simp only [attempt?, hlast, Option.map_some], by simp only [perform, reload, hlast]⟩

theorem resize_cases (frontEnd : FrontEnd) (ledger : Ledger H) (size : CanvasSize) (now : Nat)
    (loop : RenderLoop B H) :
    (∃ request, loop.attempt? (.resize size now) = some request ∧
      loop.perform frontEnd ledger (.resize size now) = loop.start frontEnd request now) ∨
    loop.Quiet frontEnd ledger (.resize size now) := by
  have hframe : ∀ frame time, Operation.resize size now ≠ .frame frame time := nofun
  by_cases he : size.isEmpty = true
  · refine .inr ⟨by simp only [attempt?, he, if_true], hframe, loop.lastRequest, loop.pointer, ?_⟩
    simp only [perform, onResize, he, if_true]
  · cases hs : loop.session with
    | none =>
      obtain ⟨_, _, lastRequest, pointer, hset⟩ := quiet_setCanvas frontEnd ledger size loop
      refine .inr ⟨by simp only [attempt?, he, hs, Option.bind_none, ite_self], hframe,
        lastRequest, pointer, ?_⟩
      rw [← hset]
      simp only [perform, onResize, he, hs, if_false, Bool.false_eq_true]
    | some session =>
      by_cases hsame : session.request.canvas = size
      · refine .inr ⟨?_, hframe, loop.lastRequest, loop.pointer, ?_⟩
        · simp only [attempt?, hs, Option.bind_some, hsame, if_true, ite_self]
        · simp only [perform, onResize, he, hs, hsame, if_true, if_false, Bool.false_eq_true]
          rw [← hs]
      · refine .inl ⟨{ session.request with canvas := size }, ?_, ?_⟩
        · simp only [attempt?, he, hs, Option.bind_some, hsame, if_false, Bool.false_eq_true]
        · simp only [perform, onResize, he, hs, hsame, if_false, Bool.false_eq_true]

/-- Every operation makes an attempt, delivers a frame, stops the session, or is quiet. -/
theorem perform_cases (frontEnd : FrontEnd) (ledger : Ledger H) (operation : Operation)
    (loop : RenderLoop B H) :
    (∃ request now, loop.attempt? operation = some request ∧
      loop.perform frontEnd ledger operation = loop.start frontEnd request now) ∨
    (∃ frame now, operation = .frame frame now) ∨
    operation = .stop ∨ loop.Quiet frontEnd ledger operation := by
  cases operation with
  | start request now => exact .inl ⟨request, now, rfl, rfl⟩
  | reload source now =>
    obtain ⟨request, hsome, heq⟩ | hquiet := loop.reload_cases frontEnd ledger source now
    · exact .inl ⟨request, now, hsome, heq⟩
    · exact .inr (.inr (.inr hquiet))
  | resize size now =>
    obtain ⟨request, hsome, heq⟩ | hquiet := loop.resize_cases frontEnd ledger size now
    · exact .inl ⟨request, now, hsome, heq⟩
    · exact .inr (.inr (.inr hquiet))
  | setCanvas size => exact .inr (.inr (.inr (quiet_setCanvas frontEnd ledger size loop)))
  | pointerMoved x y =>
    exact .inr (.inr (.inr ⟨rfl, nofun, loop.lastRequest, _, rfl⟩))
  | pointerButton pressed =>
    exact .inr (.inr (.inr ⟨rfl, nofun, loop.lastRequest, _, rfl⟩))
  | stop => exact .inr (.inr (.inl rfl))
  | frame frame now => exact .inr (.inl ⟨frame, now, rfl⟩)

theorem perform_attempt (frontEnd : FrontEnd) (ledger : Ledger H) {operation : Operation}
    (loop : RenderLoop B H) {request : RenderRequest}
    (h : loop.attempt? operation = some request) :
    ∃ now, loop.perform frontEnd ledger operation = loop.start frontEnd request now := by
  obtain ⟨other, now, hsome, hstart⟩ | ⟨frame, now, rfl⟩ | rfl | ⟨hnone, _⟩ :=
    loop.perform_cases frontEnd ledger operation
  · obtain rfl : request = other := Option.some.inj (h.symm.trans hsome)
    exact ⟨now, hstart⟩
  · cases h
  · cases h
  · rw [hnone] at h
    cases h

end RenderLoop

end ShaderPreview
