import ShaderPreview.Graphics.Backend
import ShaderPreview.Window.Preview

/-!
# Running a preview

A preview opens an event loop and a window, makes the first attempt with the inner size of the
window, and handles events until the loop exits. The log records the calls to the window system and
the output of the render loop in order.
-/

namespace ShaderPreview

/-- Results of the window system and the events it delivers. -/
structure WindowSystem where
  eventLoopError : Option String
  windowError : Option String
  /-- Error returned when the event loop ends. -/
  runError : Option String
  /-- Actual inner size of the window; `none` is the requested size. -/
  innerSize : Option CanvasSize
  events : List (Moment × LoopEvent)

/-- All requests succeed and no event is delivered. -/
def WindowSystem.quiet : WindowSystem := ⟨none, none, none, none, []⟩

inductive PreviewEntry (B : Backend) where
  | buildWindow (title : String) (size : CanvasSize)
  | graphics (call : Graphics.Call)
  | event (index : Nat)
  | loop (event : Event B)
  | call (call : LoopCall)

structure PreviewRun (B : Backend) where
  log : List (PreviewEntry B)
  result : Except Failure Unit

namespace PreviewRun

variable {B : Backend}

def deliver (frontEnd : FrontEnd) :
    List (Moment × LoopEvent) → Nat → PreviewWindow B → List (PreviewEntry B)
  | [], _, _ => []
  | (moment, event) :: rest, index, window =>
    let (after, calls) := window.handle frontEnd moment event
    let steps := after.loop.trace.drop window.loop.trace.length
    let entries := .event index :: steps.map .loop ++ calls.map .call
    if calls.contains .exit then entries
    else entries ++ deliver frontEnd rest (index + 1) after

def failed (action : String) (error : String) : Except Failure Unit :=
  .error (.of s!"{action}: {error}")

def canvasOf (system : WindowSystem) (asked usual : CanvasSize) : CanvasSize :=
  let inner := system.innerSize.getD asked
  if inner.isEmpty then usual else inner

def run (frontEnd : FrontEnd) (system : WindowSystem) (graphics : Graphics.System)
    (config : PreviewConfig) (request : RenderRequest) (moment : Moment) :
    PreviewRun (Graphics.backend frontEnd) :=
  match system.eventLoopError, system.windowError with
  | some error, _ => ⟨[], failed "failed to create event loop" error⟩
  | none, some error =>
    ⟨[.buildWindow config.title config.size], failed "failed to create preview window" error⟩
  | none, none =>
    let (gateway, graphics) := Graphics.Gateway.connect.run graphics
    let request := { request with canvas := canvasOf system config.size request.canvas }
    let screen := Graphics.Screen.start { graphics with calls := [] } gateway
    let window : PreviewWindow (Graphics.backend frontEnd) :=
      .start frontEnd screen request config.watch moment
    { log := .buildWindow config.title config.size :: graphics.calls.map .graphics ++
        window.loop.trace.map .loop ++ deliver frontEnd system.events 0 window
      result := match system.runError with
        | some error => failed "window event loop error" error
        | none => .ok () }

end PreviewRun

end ShaderPreview
