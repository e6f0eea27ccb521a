import ShaderPreview.Proofs.Window.Slots
import ShaderPreview.Window.Preview

/-!
# Windows and their loops

Slots and session are updated independently. Every window event performs at most one loop operation,
and between two events the slots contain what the session waits for.
-/

namespace ShaderPreview

variable {B : Backend}

namespace PreviewWindow

def handleAll (frontEnd : FrontEnd) :
    List (Moment × LoopEvent) → PreviewWindow B → PreviewWindow B
  | [], window => window
  | (moment, event) :: events, window =>
    handleAll frontEnd events (window.handle frontEnd moment event).1

/-! ### Events as operations -/

def operation? (moment : Moment) (window : PreviewWindow B) : LoopEvent → Option Operation
  | .window .closeRequested | .window .destroyed | .window (.key .escape true) => some .stop
  | .window (.resized size) =>
    some (if FrameSlots.isObserved window.loop.host then .resize size moment.now
      else .setCanvas size)
  | .window (.pointerMoved x y) => some (.pointerMoved (.ofDouble x) (.ofDouble y))
  | .window (.pointerButton .left pressed) => some (.pointerButton pressed)
  | .window .redrawRequested =>
    (FrameSlots.takeDue window.loop.tokens window.loop.host).1.map (.frame · moment.now)
  | .aboutToWait => window.watcher.bind fun watcher =>
    (watcher.poll moment.files moment.now).1.map (.reload · moment.now)
  | .window (.pointerButton _ _) | .window (.key _ _) | .window .focused | .resumed
  | .otherWindow _ => none

section

variable {drawn : List FrameId} {window : PreviewWindow B}

theorem due_cases (h : Orderly FrameSlots.ledger drawn window.loop) :
    (window.loop.session = none ∧
      FrameSlots.takeDue window.loop.tokens window.loop.host = (none, window.loop.host)) ∨
    ∃ session frame, window.loop.session = some session ∧ session.frame = some frame ∧
      FrameSlots.takeDue window.loop.tokens window.loop.host =
        (some frame, FrameSlots.ledger.deliver frame window.loop.host) := by
  cases h.settled with
  | idle absent state =>
    have hfree := RenderLoop.slot_free (h.pending_idle absent)
    exact .inl ⟨absent, FrameSlots.takeDue_free _ hfree⟩
  | @running session frame present state waits =>
    obtain ⟨hheld, htaken⟩ := RenderLoop.deliver_slots h present waits
    refine .inr ⟨session, frame, present, waits, ?_⟩
    rw [htaken]
    exact FrameSlots.takeDue_wanted hheld (h.isCancelled_session present)

theorem redraw_due {frame : FrameId} {slots : FrameSlots} (now : Nat)
    (h : FrameSlots.takeDue window.loop.tokens window.loop.host = (some frame, slots)) :
    (window.redraw now).loop = RenderLoop.onFrame frame now { window.loop with host := slots } := by
  simp only [redraw, h, modifyLoop]

theorem redraw_idle (now : Nat)
    (h : FrameSlots.takeDue window.loop.tokens window.loop.host = (none, window.loop.host)) :
    window.redraw now = window := by
  simp only [redraw, h, modifyLoop]

theorem handle_loop (h : Orderly FrameSlots.ledger drawn window.loop) (frontEnd : FrontEnd)
    (moment : Moment) (event : LoopEvent) :
    (window.handle frontEnd moment event).1.loop =
      window.loop.run frontEnd FrameSlots.ledger (window.operation? moment event).toList := by
  cases event with
  | resumed => rfl
  | otherWindow event => rfl
  | aboutToWait =>
    cases hwatcher : window.watcher with
    | none => simp only [handle, watchShader, operation?, hwatcher]; rfl
    | some watcher =>
      cases hsource : (watcher.poll moment.files moment.now).1 <;>
        simp only [handle, watchShader, operation?, hwatcher, hsource, modifyLoop,
          Option.bind_some, Option.map_none, Option.map_some, Option.toList_none,
          Option.toList_some] <;> rfl
  | window event =>
    cases event with
    | closeRequested => rfl
    | destroyed => rfl
    | focused => rfl
    | pointerMoved x y => rfl
    | key key pressed => cases key <;> cases pressed <;> rfl
    | pointerButton button pressed => cases button <;> rfl
    | resized size =>
      cases hobserved : FrameSlots.isObserved window.loop.host <;>
        simp only [handle, handleWindow, resize, operation?, hobserved, modifyLoop, if_true,
          Bool.false_eq_true, if_false] <;> rfl
    | redrawRequested =>
      obtain ⟨_, hdue⟩ | ⟨session, frame, _, _, hdue⟩ := due_cases h
      · simp only [handle, handleWindow, operation?, hdue, redraw_idle _ hdue]
        rfl
      · simp only [handle, handleWindow, operation?, hdue, redraw_due _ hdue]
        rfl

def Reached (frontEnd : FrontEnd) (backend : B.State) (window : PreviewWindow B) : Prop :=
  ∃ operations, window.loop =
    (RenderLoop.idle backend FrameSlots.empty).run frontEnd FrameSlots.ledger operations

variable {frontEnd : FrontEnd} {backend : B.State}

theorem Reached.orderly (h : window.Reached frontEnd backend) :
    ∃ drawn, Orderly FrameSlots.ledger drawn window.loop := by
  obtain ⟨operations, hloop⟩ := h
  rw [hloop]
  exact ⟨_, Orderly.reached frontEnd FrameSlots.ledger backend operations⟩

theorem reached_start (frontEnd : FrontEnd) (backend : B.State) (request : RenderRequest)
    (watch : Option Path) (moment : Moment) :
    (start frontEnd backend request watch moment).Reached frontEnd backend :=
  ⟨[.start request moment.now], rfl⟩

theorem Reached.handle (h : window.Reached frontEnd backend) (moment : Moment)
    (event : LoopEvent) : (window.handle frontEnd moment event).1.Reached frontEnd backend := by
  obtain ⟨_, horder⟩ := h.orderly
  obtain ⟨operations, hloop⟩ := h
  refine ⟨operations ++ (window.operation? moment event).toList, ?_⟩
  rw [handle_loop horder, hloop, RenderLoop.run_append]

theorem Reached.handleAll (h : window.Reached frontEnd backend)
    (events : List (Moment × LoopEvent)) :
    (window.handleAll frontEnd events).Reached frontEnd backend := by
  induction events generalizing window with
  | nil => exact h
  | cons entry events ih => exact ih (h.handle entry.1 entry.2)

end

end PreviewWindow

/-! ### What is in the slots between events -/

/-- The slots hold the frame and the observer of the session, and are empty without one. -/
structure Mirrored (loop : RenderLoop B FrameSlots.host) : Prop where
  settled : loop.state = .idle ∨ loop.state = .running
  session : loop.session.isSome = true ↔ loop.state = .running
  pending : FrameSlots.pending loop.host = loop.session.bind fun session =>
    session.frame.map fun frame => (frame, session.token)
  pending_running : (FrameSlots.pending loop.host).isSome = true ↔ loop.state = .running
  wanted {frame : FrameId} {token : Token} : FrameSlots.pending loop.host = some (frame, token) →
    loop.tokens.isCancelled token = false
  observer : FrameSlots.observer loop.host = loop.session.map (·.observer)
  observed_running : FrameSlots.isObserved loop.host = true ↔ loop.state = .running

theorem Orderly.mirrored {drawn : List FrameId} {loop : RenderLoop B FrameSlots.host}
    (h : Orderly FrameSlots.ledger drawn loop) : Mirrored loop := by
  have hsession := h.consistent.running.symm
  have hobserver : FrameSlots.observer loop.host = loop.session.map (·.observer) := by
    have hobservers : (FrameSlots.observer loop.host).toList = _ := h.accounts.observers
    cases hs : loop.session <;> rw [hs] at hobservers
    · exact Option.toList_eq_nil_iff.1 hobservers
    · exact Option.toList_eq_singleton_iff.1 hobservers
  have hobserved : FrameSlots.isObserved loop.host = true ↔ loop.state = .running := by
    rw [← hsession]
    show (FrameSlots.observer loop.host).isSome = true ↔ _
    rw [hobserver, Option.isSome_map]
  cases h.settled with
  | idle absent state =>
    have hfree := RenderLoop.slot_free (h.pending_idle absent)
    refine ⟨.inl state, hsession, ?_, ?_, ?_, hobserver, hobserved⟩
    · rw [hfree, absent]
      rfl
    · rw [hfree, ← hsession, absent]
      rfl
    · intro frame token hheld
      cases hfree.symm.trans hheld
  | @running session frame present state waits =>
    obtain ⟨hheld, _⟩ := RenderLoop.deliver_slots h present waits
    refine ⟨.inr state, hsession, ?_, ?_, ?_, hobserver, hobserved⟩
    · rw [hheld, present, Option.bind_some, waits]
      rfl
    · rw [hheld, ← hsession, present]
      rfl
    · intro other token hother
      cases hheld.symm.trans hother
      exact h.isCancelled_session present

/-! ### Redraws and sizes -/

/-- Effect of a redraw: the due frame, which the loop awaits, is drawn, or there is none. -/
inductive Redrawn (now : Nat) (before : PreviewWindow B) : PreviewWindow B → Prop
  | idle (absent : before.loop.session = none)
      (due : (FrameSlots.takeDue before.loop.tokens before.loop.host).1 = none) :
      Redrawn now before before
  | drawn {session : Session B} {frame : FrameId} {slots : FrameSlots.host.State}
      {after : PreviewWindow B} {later : List (Event B)}
      (present : before.loop.session = some session)
      (due : FrameSlots.takeDue before.loop.tokens before.loop.host = (some frame, slots))
      (awaited : RenderLoop.Awaits frame { before.loop with host := slots })
      (delivered : after.loop = RenderLoop.onFrame frame now { before.loop with host := slots })
      (trace : after.loop.trace = before.loop.trace ++
        ((before.loop.draw session now).events (.draw session.pipeline session.resources
          session.vertices ⟨now - session.startedAt, before.loop.pointer, session.vertexCount⟩) ++
          later)) : Redrawn now before after

/-- Effect of a resize: stored while there is no session; otherwise the session is restarted unless
the size is empty or unchanged. -/
inductive Resized (frontEnd : FrontEnd) (size : CanvasSize) (now : Nat)
    (before : PreviewWindow B) : PreviewWindow B → Prop
  | kept (absent : before.loop.session = none) :
      Resized frontEnd size now before (before.modifyLoop (RenderLoop.setCanvas size))
  | ignored {session : Session B} (present : before.loop.session = some session)
      (same : size.isEmpty = true ∨ session.request.canvas = size) :
      Resized frontEnd size now before before
  | restarted {session : Session B} (present : before.loop.session = some session)
      (area : size.isEmpty = false) (other : session.request.canvas ≠ size) :
      Resized frontEnd size now before (before.modifyLoop
        (RenderLoop.start frontEnd { session.request with canvas := size } now))

theorem RenderLoop.onFrame_trace {H : FrameHost} {loop : RenderLoop B H} {session : Session B}
    {frame : FrameId} (now : Nat) (hsession : loop.session = some session)
    (hwanted : loop.tokens.isCancelled session.token = false) (hdue : session.frame = some frame)
    (hstate : loop.state = .running) : ∃ later, (loop.onFrame frame now).trace =
      loop.trace ++ ((loop.draw session now).events (.draw session.pipeline session.resources
        session.vertices ⟨now - session.startedAt, loop.pointer, session.vertexCount⟩) ++
        later) := by
  rw [onFrame_awaited now hsession hwanted hdue]
  have hnext (failures : Nat) := List.append_assoc loop.trace
    ((loop.draw session now).events (.draw session.pipeline session.resources session.vertices
      ⟨now - session.startedAt, loop.pointer, session.vertexCount⟩))
    [.requestFrame session.token (H.request session.token loop.host).1]
  cases (loop.draw session now).value with
  | ok u => exact ⟨_, hnext 0⟩
  | error failure =>
    rw [answered]
    split
    · have hretired : (loop.drew session now (session.drawFailures + 1)).retire.trace = _ :=
        retire_trace fun _ => hstate
      exact ⟨_, hretired.trans (List.append_assoc _ _ _)⟩
    · exact ⟨_, hnext (session.drawFailures + 1)⟩

namespace Orderly

variable {drawn : List FrameId} {window : PreviewWindow B}

theorem redrawn (h : Orderly FrameSlots.ledger drawn window.loop) (now : Nat) :
    Redrawn now window (window.redraw now) := by
  obtain ⟨habsent, hdue⟩ | ⟨session, frame, hpresent, hwaits, hdue⟩ := PreviewWindow.due_cases h
  · rw [PreviewWindow.redraw_idle now hdue]
    exact .idle habsent (congrArg Prod.fst hdue)
  · let slots : FrameSlots := FrameSlots.ledger.deliver frame window.loop.host
    let taken : RenderLoop B FrameSlots.host := { window.loop with host := slots }
    have hwanted := h.isCancelled_session hpresent
    have hloop : (window.redraw now).loop = taken.onFrame frame now :=
      PreviewWindow.redraw_due now hdue
    have hstate : taken.state = .running :=
      h.settled.state_running (by rw [hpresent]; rfl)
    obtain ⟨later, htrace⟩ := taken.onFrame_trace now hpresent hwanted hwaits hstate
    exact .drawn hpresent hdue ⟨session, hpresent, hwanted, hwaits⟩ hloop (hloop ▸ htrace)

theorem resized (h : Orderly FrameSlots.ledger drawn window.loop) (frontEnd : FrontEnd)
    (size : CanvasSize) (now : Nat) :
    Resized frontEnd size now window (window.resize frontEnd size now) := by
  have hobserved := h.mirrored.observed_running.trans h.mirrored.session.symm
  unfold PreviewWindow.resize
  cases hsession : window.loop.session with
  | none =>
    have hunobserved : FrameSlots.isObserved window.loop.host = false := by
      rw [hsession] at hobserved
      exact Bool.eq_false_iff.2 fun htrue => Bool.noConfusion (hobserved.1 htrue)
    rw [hunobserved]
    exact .kept hsession
  | some session =>
    rw [hobserved.2 (by rw [hsession]; rfl), if_pos rfl]
    unfold PreviewWindow.modifyLoop RenderLoop.onResize
    cases harea : size.isEmpty with
    | true =>
      exact .ignored hsession (.inl harea)
    | false =>
      simp only [hsession, Bool.false_eq_true, if_false]
      by_cases hsame : session.request.canvas = size
      · rw [if_pos hsame]
        exact .ignored hsession (.inr hsame)
      · rw [if_neg hsame]
        exact .restarted hsession harea hsame

end Orderly

/-- For every list of events the slots mirror the session. A frame is requested only when its slot
is free, a redraw draws what is due, and a resize restarts the session if there is one. -/
theorem slots_mirrored (frontEnd : FrontEnd) (backend : B.State) (request : RenderRequest)
    (watch : Option Path) (opened : Moment) (events : List (Moment × LoopEvent)) (moment : Moment)
    (event : LoopEvent) :
    let before := (PreviewWindow.start frontEnd backend request watch opened).handleAll frontEnd
      events
    let after := (before.handle frontEnd moment event).1
    Mirrored before.loop ∧ Mirrored after.loop ∧
    FrameSlots.SlotsAlong FrameSlots.empty after.loop.trace after.loop.host ∧
    (event = .window .redrawRequested → Redrawn moment.now before after) ∧
    ∀ size, event = .window (.resized size) → Resized frontEnd size moment.now before after := by
  intro before after
  have hbefore : before.Reached frontEnd backend :=
    (PreviewWindow.reached_start frontEnd backend request watch opened).handleAll events
  have hafter : after.Reached frontEnd backend := hbefore.handle moment event
  obtain ⟨_, horder⟩ := hbefore.orderly
  obtain ⟨_, horder'⟩ := hafter.orderly
  refine ⟨horder.mirrored, horder'.mirrored, ?_, ?_, ?_⟩
  · obtain ⟨operations, hloop⟩ := hafter
    rw [hloop]
    exact RenderLoop.slotsFollow_run frontEnd backend operations
  · rintro rfl
    exact horder.redrawn moment.now
  · rintro size rfl
    exact horder.resized frontEnd size moment.now

end ShaderPreview
