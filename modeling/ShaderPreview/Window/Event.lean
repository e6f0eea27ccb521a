import ShaderPreview.Scene.Request

/-!
# Window events

Events of the preview window and of other windows, and the lifecycle events of the event loop.
-/

namespace ShaderPreview

inductive Key where
  | escape
  | other
  deriving DecidableEq, Repr

inductive PointerButton where
  | left
  | right
  | middle
  deriving DecidableEq, Repr

inductive WindowEvent where
  | closeRequested
  | destroyed
  | resized (size : CanvasSize)
  | focused
  | key (key : Key) (pressed : Bool)
  /-- Coordinates are binary64 bit patterns. -/
  | pointerMoved (x y : UInt64)
  | pointerButton (button : PointerButton) (pressed : Bool)
  | redrawRequested
  deriving DecidableEq, Repr

inductive LoopEvent where
  | resumed
  | aboutToWait
  | window (event : WindowEvent)
  | otherWindow (event : WindowEvent)
  deriving DecidableEq, Repr

end ShaderPreview
