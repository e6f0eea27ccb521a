import ShaderPreview.Proofs.Window.Preview

/-!
# Closed windows

Events may still be delivered after a window was closed. Closing empties both slots, so no frame is
due and no size is observed; only the pointer and the stored request can still change.
-/

namespace ShaderPreview

variable {B : Backend}

/-- Events that close the window. -/
inductive Closing where
  | requested
  | destroyed
  | escape

def Closing.event : Closing → LoopEvent
  | .requested => .window .closeRequested
  | .destroyed => .window .destroyed
  | .escape => .window (.key .escape true)

namespace PreviewWindow

/-- Idle, without session, watcher, pending frame and observer. -/
structure Closed (window : PreviewWindow B) : Prop where
  watcher : window.watcher = none
  session : window.loop.session = none
  state : window.loop.state = .idle
  pending : FrameSlots.pending window.loop.host = none
  observer : FrameSlots.observer window.loop.host = none

/-- Equal up to the pointer and the stored request. -/
def SameUpToInputs (before after : PreviewWindow B) : Prop :=
  ∃ lastRequest pointer, after =
    before.modifyLoop fun loop => { loop with lastRequest := lastRequest, pointer := pointer }

variable {window before between after : PreviewWindow B}

theorem SameUpToInputs.refl (window : PreviewWindow B) : SameUpToInputs window window :=
  ⟨window.loop.lastRequest, window.loop.pointer, rfl⟩

theorem SameUpToInputs.trans (h₁ : SameUpToInputs before between)
    (h₂ : SameUpToInputs between after) : SameUpToInputs before after := by
  obtain ⟨_, _, rfl⟩ := h₁
  obtain ⟨lastRequest, pointer, rfl⟩ := h₂
  exact ⟨lastRequest, pointer, rfl⟩

theorem Closed.same (h : Closed before) (hsame : SameUpToInputs before after) : Closed after := by
  obtain ⟨_, _, rfl⟩ := hsame
  exact ⟨h.watcher, h.session, h.state, h.pending, h.observer⟩

/-! ### Closing -/

theorem watcher_handle (h : window.watcher = none) (frontEnd : FrontEnd) (moment : Moment)
    (event : LoopEvent) : (window.handle frontEnd moment event).1.watcher = none := by
  cases event with
  | resumed | otherWindow event => exact h
  | aboutToWait =>
    simp only [handle, watchShader, h]
  | window event =>
    cases event with
    | closeRequested | destroyed | focused | pointerMoved x y => exact h
    | key key pressed => cases key <;> cases pressed <;> exact h
    | pointerButton button pressed => cases button <;> exact h
    | resized size =>
      simp only [handle, handleWindow, resize]
      split <;> exact h
    | redrawRequested =>
      simp only [handle, handleWindow, redraw]
      split <;> exact h

theorem watcher_handleAll (h : window.watcher = none) (frontEnd : FrontEnd)
    (events : List (Moment × LoopEvent)) :
    (window.handleAll frontEnd events).watcher = none := by
  induction events generalizing window with
  | nil => exact h
  | cons entry events ih => exact ih (watcher_handle h frontEnd entry.1 entry.2)

theorem handle_closing (frontEnd : FrontEnd) (moment : Moment) (closing : Closing) :
    (window.handle frontEnd moment closing.event).1 = window.modifyLoop RenderLoop.retire := by
  cases closing <;> rfl

theorem closed_closing {frontEnd : FrontEnd} {backend : B.State}
    (h : window.Reached frontEnd backend) (hwatcher : window.watcher = none) (moment : Moment)
    (closing : Closing) : Closed (window.handle frontEnd moment closing.event).1 := by
  obtain ⟨_, horder⟩ := h.orderly
  obtain ⟨_, hlater⟩ := (h.handle moment closing.event).orderly
  have hmirrored := hlater.mirrored
  rw [handle_closing] at hmirrored ⊢
  obtain ⟨hsession, hstate⟩ := horder.settled.retire
  have hpending := hmirrored.pending
  have hobserver := hmirrored.observer
  refine ⟨hwatcher, hsession, hstate, ?_, ?_⟩
  · rw [hpending, show (window.modifyLoop RenderLoop.retire).loop.session = none from hsession]
    rfl
  · rw [hobserver, show (window.modifyLoop RenderLoop.retire).loop.session = none from hsession]
    rfl

/-! ### Events that come later -/

theorem Closed.redraw (h : Closed window) (now : Nat) : window.redraw now = window :=
  redraw_idle now (FrameSlots.takeDue_free _ h.pending)

theorem Closed.resize (h : Closed window) (frontEnd : FrontEnd) (size : CanvasSize) (now : Nat) :
    window.resize frontEnd size now = window.modifyLoop (RenderLoop.setCanvas size) := by
  have hunobserved : FrameSlots.isObserved window.loop.host = false :=
    congrArg Option.isSome h.observer
  rw [PreviewWindow.resize, hunobserved, if_neg Bool.false_ne_true]

theorem sameUpToInputs_setCanvas (size : CanvasSize) (window : PreviewWindow B) :
    SameUpToInputs window (window.modifyLoop (RenderLoop.setCanvas size)) := by
  unfold modifyLoop RenderLoop.setCanvas
  split
  · exact .refl window
  · exact ⟨_, window.loop.pointer, rfl⟩

theorem Closed.handle (h : Closed window) (frontEnd : FrontEnd) (moment : Moment)
    (event : LoopEvent) : SameUpToInputs window (window.handle frontEnd moment event).1 := by
  have hclosing (closing : Closing) :
      SameUpToInputs window (window.handle frontEnd moment closing.event).1 := by
    rw [handle_closing, modifyLoop, RenderLoop.retire_none h.session]
    exact .refl window
  cases event with
  | resumed | otherWindow event => exact .refl window
  | aboutToWait =>
    simp only [PreviewWindow.handle, watchShader, h.watcher]
    exact .refl window
  | window event =>
    cases event with
    | closeRequested => exact hclosing .requested
    | destroyed => exact hclosing .destroyed
    | focused => exact .refl window
    | pointerMoved x y => exact ⟨window.loop.lastRequest, _, rfl⟩
    | key key pressed =>
      cases key <;> cases pressed
      case escape.true => exact hclosing .escape
      all_goals exact .refl window
    | pointerButton button pressed =>
      cases button
      case left => exact ⟨window.loop.lastRequest, _, rfl⟩
      all_goals exact .refl window
    | resized size =>
      simp only [PreviewWindow.handle, handleWindow, h.resize]
      exact sameUpToInputs_setCanvas size window
    | redrawRequested =>
      simp only [PreviewWindow.handle, handleWindow, h.redraw]
      exact .refl window

theorem Closed.handleAll (h : Closed window) (frontEnd : FrontEnd)
    (events : List (Moment × LoopEvent)) :
    SameUpToInputs window (window.handleAll frontEnd events) := by
  induction events generalizing window with
  | nil => exact .refl window
  | cons entry events ih =>
    have hsame := h.handle frontEnd entry.1 entry.2
    exact hsame.trans (ih (h.same hsame))

end PreviewWindow

/-- A closed window that does not watch its shader reacts to no event, whatever happened before. -/
theorem closed_inert (frontEnd : FrontEnd) (backend : B.State) (request : RenderRequest)
    (opened : Moment) (events : List (Moment × LoopEvent)) (moment : Moment) (closing : Closing)
    (later : List (Moment × LoopEvent)) :
    let window := (PreviewWindow.start frontEnd backend request none opened).handleAll frontEnd
      events
    let closed := (window.handle frontEnd moment closing.event).1
    let after := closed.handleAll frontEnd later
    closed.Closed ∧ after.Closed ∧ after.loop.trace = closed.loop.trace ∧
      after.loop.backend = closed.loop.backend ∧ after.loop.host = closed.loop.host ∧
      after.loop.tokens = closed.loop.tokens := by
  intro window closed after
  have hreached : window.Reached frontEnd backend :=
    (PreviewWindow.reached_start frontEnd backend request none opened).handleAll events
  have hwatcher : window.watcher = none := PreviewWindow.watcher_handleAll rfl frontEnd events
  have hclosed : closed.Closed := PreviewWindow.closed_closing hreached hwatcher moment closing
  have hsame : PreviewWindow.SameUpToInputs closed after := hclosed.handleAll frontEnd later
  refine ⟨hclosed, hclosed.same hsame, ?_⟩
  obtain ⟨_, _, hafter⟩ := hsame
  rw [hafter]
  exact ⟨rfl, rfl, rfl, rfl⟩

end ShaderPreview
