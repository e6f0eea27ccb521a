import ShaderPreview.Session.Operation
import ShaderPreview.Window.Event
import ShaderPreview.Window.FrameSlots
import ShaderPreview.Window.Watcher

/-!
# Preview windows

The event handlers of a preview window (SPEC_FULL.md, section 10, `window`).
-/

namespace ShaderPreview

/-- Control flow of the event loop. -/
inductive Pacing where
  | wait
  | waitUntil (time : Nat)
  deriving DecidableEq, Repr

/-- Requests to the event loop. -/
inductive LoopCall where
  | setPacing (pacing : Pacing)
  | exit
  deriving DecidableEq, Repr

/-- Time and file system state when an event is handled. -/
structure Moment where
  now : Nat
  files : FileTree

structure PreviewWindow (B : Backend) where
  loop : RenderLoop B FrameSlots.host
  watcher : Option Watcher

namespace PreviewWindow

variable {B : Backend}

/-- Opens the window and makes the first attempt. -/
def start (frontEnd : FrontEnd) (backend : B.State) (request : RenderRequest)
    (watch : Option Path) (moment : Moment) : PreviewWindow B :=
  let loop : RenderLoop B FrameSlots.host := .idle backend FrameSlots.empty
  { loop := loop.start frontEnd request moment.now
    watcher := watch.map fun path => .start moment.files path moment.now }

def modifyLoop (window : PreviewWindow B)
    (change : RenderLoop B FrameSlots.host → RenderLoop B FrameSlots.host) : PreviewWindow B :=
  { window with loop := change window.loop }

def close (window : PreviewWindow B) : PreviewWindow B × List LoopCall :=
  (window.modifyLoop RenderLoop.stop, [.exit])

/-- Notifies the resize observer, or stores the size if no observer is connected. -/
def resize (frontEnd : FrontEnd) (size : CanvasSize) (now : Nat) (window : PreviewWindow B) :
    PreviewWindow B :=
  if FrameSlots.isObserved window.loop.host then
    window.modifyLoop (RenderLoop.onResize frontEnd size now)
  else window.modifyLoop (RenderLoop.setCanvas size)

/-- Draws the pending frame, if any. -/
def redraw (now : Nat) (window : PreviewWindow B) : PreviewWindow B :=
  let (due, slots) := FrameSlots.takeDue window.loop.tokens window.loop.host
  let window := window.modifyLoop ({ · with host := slots })
  match due with
  | some frame => window.modifyLoop (RenderLoop.onFrame frame now)
  | none => window

/-- Polls the watcher and reloads the shader on a change. -/
def watchShader (frontEnd : FrontEnd) (moment : Moment) (window : PreviewWindow B) :
    PreviewWindow B × List LoopCall :=
  match window.watcher with
  | none => (window, [.setPacing .wait])
  | some watcher =>
    let (source, watcher) := watcher.poll moment.files moment.now
    let window := { window with watcher := some watcher }
    let window := match source with
      | some source => window.modifyLoop (RenderLoop.reload frontEnd source moment.now)
      | none => window
    (window, [.setPacing (.waitUntil watcher.deadline)])

def handleWindow (frontEnd : FrontEnd) (moment : Moment) (event : WindowEvent)
    (window : PreviewWindow B) : PreviewWindow B × List LoopCall :=
  match event with
  | .closeRequested | .destroyed | .key .escape true => window.close
  | .resized size => (window.resize frontEnd size moment.now, [])
  | .pointerMoved x y =>
    (window.modifyLoop (RenderLoop.onPointerMoved (.ofDouble x) (.ofDouble y)), [])
  | .pointerButton .left pressed => (window.modifyLoop (RenderLoop.onPointerButton pressed), [])
  | .redrawRequested => (window.redraw moment.now, [])
  | .pointerButton _ _ | .key _ _ | .focused => (window, [])

def handle (frontEnd : FrontEnd) (moment : Moment) (event : LoopEvent)
    (window : PreviewWindow B) : PreviewWindow B × List LoopCall :=
  match event with
  | .window event => window.handleWindow frontEnd moment event
  | .aboutToWait => window.watchShader frontEnd moment
  | .resumed | .otherWindow _ => (window, [])

end PreviewWindow

end ShaderPreview
