import ShaderPreview.Session.Attempt

/-!
# Render loop operations

The public operations of the orchestrator (SPEC_FULL.md, section 4.7). At most one session is
running. A new attempt first retires the running session: its token is cancelled, its frame is
withdrawn and its observer is disconnected before the backend is asked for the device. A delivered
frame is drawn and the next one is scheduled; repeated draw failures retire the session. A resize
restarts the session, since the canvas size is part of the bound resources.
-/

namespace ShaderPreview

/-- Consecutive draw failures after which a session is retired. -/
def maxDrawFailures : Nat := 3

namespace RenderLoop

variable {B : Backend} {H : FrameHost}

/-- Retires the running session, if any. -/
def retire (loop : RenderLoop B H) : RenderLoop B H :=
  match loop.session with
  | none => loop
  | some session =>
    let loop := { loop with session := none }.transition .retiring
    let loop := { loop with tokens := loop.tokens.cancel session.token }
    let loop := match session.frame with
      | some frame =>
        { loop with host := H.cancel frame loop.host }.record (.cancelFrame frame)
      | none => loop
    let loop := { loop with host := H.disconnect session.observer loop.host }
    (loop.record (.disconnectResize session.observer)).transition .idle

def caught (failure : Failure) : List Diagnostic :=
  [.general s!"Caught exception: {failure.line}"]

/-- Installs the session of an attempt or returns to `idle`, then reports the diagnostics. -/
def settle (loop : RenderLoop B H) : Except Stop (Session B × List Diagnostic) → RenderLoop B H
  | .ok (session, diagnostics) =>
    { loop with session := some session }.record (.errors diagnostics)
  | .error (.rejected none) => loop.transition .idle
  | .error (.rejected (some report)) => (loop.transition .idle).record (.errors report)
  | .error (.failed failure) => (loop.transition .idle).record (.errors (caught failure))

/-- Retires the running session and makes an attempt with a new request. -/
def start (frontEnd : FrontEnd) (request : RenderRequest) (now : Nat) (loop : RenderLoop B H) :
    RenderLoop B H :=
  let loop := { loop.retire with lastRequest := some request }.transition .acquiring
  let (available, loop) :=
    loop.take (B.acquire request.canvas loop.backend) (.acquire request.canvas)
  if available then
    let (outcome, loop) := (Attempt.launch frontEnd request now).run.run loop
    loop.settle outcome
  else loop.transition .idle

/-- Repeats the last attempt with another source. -/
def reload (frontEnd : FrontEnd) (source : String) (now : Nat) (loop : RenderLoop B H) :
    RenderLoop B H :=
  match loop.lastRequest with
  | none => loop
  | some request => loop.start frontEnd { request with source := source } now

def stop (loop : RenderLoop B H) : RenderLoop B H := loop.retire

def requestNext (session : Session B) (loop : RenderLoop B H) : RenderLoop B H :=
  let (frame, host) := H.request session.token loop.host
  { loop with host := host, session := some { session with frame := some frame } }.record
    (.requestFrame session.token frame)

/-- Draws the delivered frame and schedules the next one. Any frame other than the pending one is
ignored. -/
def onFrame (frame : FrameId) (now : Nat) (loop : RenderLoop B H) : RenderLoop B H :=
  match loop.session with
  | none => loop
  | some session =>
    if loop.tokens.isCancelled session.token || session.frame != some frame then loop
    else
      let input : FrameInput := ⟨now - session.startedAt, loop.pointer, session.vertexCount⟩
      let (result, loop) := loop.take
        (B.draw session.pipeline session.resources session.vertices input loop.backend)
        (.draw session.pipeline session.resources session.vertices input)
      match result with
      | .ok () => loop.requestNext { session with frame := none, drawFailures := 0 }
      | .error _ =>
        let failures := session.drawFailures + 1
        let session := { session with frame := none, drawFailures := failures }
        if maxDrawFailures ≤ failures then { loop with session := some session }.retire
        else loop.requestNext session

/-- Stores the canvas size for the next attempt; empty sizes are ignored. -/
def setCanvas (size : CanvasSize) (loop : RenderLoop B H) : RenderLoop B H :=
  if size.isEmpty then loop
  else { loop with
    lastRequest := loop.lastRequest.map fun request => { request with canvas := size } }

/-- Restarts the session when the canvas size has changed. -/
def onResize (frontEnd : FrontEnd) (size : CanvasSize) (now : Nat) (loop : RenderLoop B H) :
    RenderLoop B H :=
  if size.isEmpty then loop
  else match loop.session with
    | none => loop.setCanvas size
    | some session =>
      if session.request.canvas = size then loop
      else loop.start frontEnd { session.request with canvas := size } now

def onPointerMoved (x y : Single) (loop : RenderLoop B H) : RenderLoop B H :=
  { loop with pointer := loop.pointer.moveTo x y }

def onPointerButton (pressed : Bool) (loop : RenderLoop B H) : RenderLoop B H :=
  { loop with pointer := loop.pointer.press pressed }

end RenderLoop

end ShaderPreview
