import ShaderPreview.Proofs.Session.Accounts

/-!
# Invariant between operations

Between operations a loop is idle without a session or running with a pending frame, and its
accounts hold. Preserved by every operation, hence by every run.
-/

namespace ShaderPreview

variable {B : Backend} {H : FrameHost}

namespace RenderLoop

/-- Idle without a session, or running with a session that has a pending frame. -/
inductive Settled (loop : RenderLoop B H) : Prop
  | idle (absent : loop.session = none) (state : loop.state = .idle)
  | running {session : Session B} {frame : FrameId} (present : loop.session = some session)
      (state : loop.state = .running) (waits : session.frame = some frame)

theorem Settled.state_running {loop : RenderLoop B H} (h : loop.Settled)
    (hs : loop.session.isSome = true) : loop.state = .running := by
  cases h with
  | idle absent state =>
    rw [absent] at hs
    cases hs
  | running present state waits => exact state

theorem session_transition (state : LoopState) (loop : RenderLoop B H) :
    (loop.transition state).session = loop.session := by
  unfold transition
  split <;> rfl

theorem tokens_transition (state : LoopState) (loop : RenderLoop B H) :
    (loop.transition state).tokens = loop.tokens := by
  unfold transition
  split <;> rfl

theorem retire_idle {loop : RenderLoop B H} {session : Session B}
    (h : loop.session = some session) (hs : loop.state = .running) :
    loop.retire.session = none ∧ loop.retire.state = .idle := by
  rw [retire_running h hs]
  exact ⟨rfl, rfl⟩

theorem Settled.retire {loop : RenderLoop B H} (h : loop.Settled) :
    loop.retire.session = none ∧ loop.retire.state = .idle := by
  cases h with
  | idle absent state =>
    rw [retire_none absent]
    exact ⟨absent, state⟩
  | running present state waits => exact retire_idle present state

theorem Settled.atAcquire_session {loop : RenderLoop B H} (h : loop.Settled)
    (request : RenderRequest) : (loop.atAcquire request).session = none := by
  rw [atAcquire, session_transition]
  exact h.retire.1

theorem retire_trace {loop : RenderLoop B H}
    (h : loop.session.isSome = true → loop.state = .running) :
    loop.retire.trace = loop.trace ++ loop.session.elim [] Session.retirement := by
  cases hsession : loop.session with
  | none =>
    rw [retire_none hsession]
    exact (List.append_nil _).symm
  | some session =>
    have hstate : loop.state = .running := h (by rw [hsession]; rfl)
    rw [retire_running hsession hstate]
    rfl

theorem Settled.atAcquire_after {loop : RenderLoop B H} (h : loop.Settled)
    (request : RenderRequest) :
    loop.atAcquire request =
      ({ loop.retire with lastRequest := some request } : RenderLoop B H).after .acquiring
        loop.retire.backend [.transition .idle .acquiring] := by
  have hlast : ({ loop.retire with lastRequest := some request } : RenderLoop B H).state = .idle :=
    h.retire.2
  exact transition_after .acquiring hlast (by decide)

theorem Settled.atAcquire_trace {loop : RenderLoop B H} (h : loop.Settled)
    (request : RenderRequest) :
    (loop.atAcquire request).trace = loop.trace ++ loop.session.elim [] Session.retirement ++
      [.transition .idle .acquiring] := by
  rw [← retire_trace h.state_running, h.atAcquire_after]
  rfl

theorem Attempted.apart {frontEnd : FrontEnd} {request : RenderRequest} {now : Nat}
    {moment next : RenderLoop B H} (h : Attempted frontEnd request now moment next) :
    (∃ backend events, hostCalls events = [] ∧ next = moment.after .idle backend events) ∨
      ∃ backend events assembly, hostCalls events = [] ∧
        next = (moment.after .running backend events).connected assembly request now := by
  have hacquire (answer : Answer B.State B.Note Bool) :
      hostCalls (answer.events (.acquire request.canvas)) = [] := hostCalls_answer _ _
  cases h with
  | @unavailable answer asked value =>
    refine .inl ⟨_, _, ?_, rfl⟩
    rw [hostCalls_append, hacquire]
    rfl
  | @stopped answer events stop state backend asked value prepared =>
    refine .inl ⟨_, _, ?_, rfl⟩
    have hend :
        hostCalls (.transition state .idle :: stop.report.toList.map (Event.errors (B := B))) =
          [] := by
      cases stop.report <;> rfl
    rw [hostCalls_append, hostCalls_append, hacquire, hend,
      hostCalls_stage (inner_prepared frontEnd request prepared).1]
    rfl
  | @running answer events assembly state backend asked value prepared =>
    obtain rfl := prepared_running prepared
    refine .inr ⟨_, _, assembly, ?_, rfl⟩
    rw [hostCalls_append, hacquire, hostCalls_stage (inner_prepared frontEnd request prepared).1]
    rfl

end RenderLoop

/-- Invariant between operations. -/
structure Orderly (ledger : Ledger H) (drawn : List FrameId) (loop : RenderLoop B H) : Prop where
  accounts : Accounts ledger drawn loop
  settled : loop.Settled

namespace Orderly

variable {ledger : Ledger H} {drawn : List FrameId} {loop : RenderLoop B H}

theorem retire (h : Orderly ledger drawn loop) : Orderly ledger drawn loop.retire :=
  ⟨h.accounts.retire h.settled.state_running, .idle h.settled.retire.1 h.settled.retire.2⟩

/-- Invariant at the acquisition of the device. -/
theorem atAcquire (h : Orderly ledger drawn loop) (request : RenderRequest) :
    Accounts ledger drawn (loop.atAcquire request) := by
  have hretired : Accounts ledger drawn { loop.retire with lastRequest := some request } :=
    h.retire.accounts.same rfl rfl rfl rfl
  exact hretired.transition .acquiring

theorem start (h : Orderly ledger drawn loop) (frontEnd : FrontEnd) (request : RenderRequest)
    (now : Nat) : Orderly ledger drawn (loop.start frontEnd request now) := by
  have hpoised := h.atAcquire request
  have habsent := h.settled.atAcquire_session request
  obtain ⟨backend, events, hevents, hnext⟩ | ⟨backend, events, assembly, hevents, hnext⟩ :=
    (RenderLoop.start_attempted frontEnd request now loop).apart
  · rw [hnext]
    exact ⟨hpoised.after hevents _ _, .idle habsent rfl⟩
  · rw [hnext]
    exact ⟨(hpoised.after hevents _ backend).connected habsent assembly request now,
      .running rfl rfl rfl⟩

theorem isCancelled_session (h : Orderly ledger drawn loop) {session : Session B}
    (hsession : loop.session = some session) :
    loop.tokens.isCancelled session.token = false :=
  (h.accounts.tokens.kept (by rw [hsession]; rfl)).2

theorem pending_idle (h : Orderly ledger drawn loop) (hsession : loop.session = none) :
    ledger.pending loop.host = [] := by
  have hpending := h.accounts.pending
  rwa [hsession] at hpending

theorem pending_running (h : Orderly ledger drawn loop) {session : Session B} {frame : FrameId}
    (hsession : loop.session = some session) (hframe : session.frame = some frame) :
    ledger.pending loop.host = [(frame, session.token)] := by
  have hpending := h.accounts.pending
  rwa [hsession, Option.bind_some, hframe] at hpending

theorem live_idle (h : Orderly ledger drawn loop) (hsession : loop.session = none) :
    ledger.live loop.tokens loop.host = [] := by
  rw [Ledger.live, h.pending_idle hsession]
  rfl

theorem live_running (h : Orderly ledger drawn loop) {session : Session B} {frame : FrameId}
    (hsession : loop.session = some session) (hframe : session.frame = some frame) :
    ledger.live loop.tokens loop.host = [frame] := by
  have hkept := h.isCancelled_session hsession
  rw [Ledger.live, h.pending_running hsession hframe, List.filter_cons, hkept]
  rfl

/-- The frames that the host may deliver are the pending frame of the session. -/
theorem live_iff (h : Orderly ledger drawn loop) (frame : FrameId) :
    frame ∈ ledger.live loop.tokens loop.host ↔ loop.Awaits frame := by
  cases h.settled with
  | idle absent state =>
    rw [h.live_idle absent]
    refine ⟨nofun, ?_⟩
    rintro ⟨session, hsession, _⟩
    rw [absent] at hsession
    cases hsession
  | @running session held present state waits =>
    rw [h.live_running present waits, List.mem_singleton]
    constructor
    · rintro rfl
      exact ⟨session, present, h.isCancelled_session present, waits⟩
    · rintro ⟨other, hsession, _, hframe⟩
      rw [present] at hsession
      cases hsession
      rw [waits] at hframe
      exact (Option.some.inj hframe).symm

theorem pending_stale (h : Orderly ledger drawn loop) {frame : FrameId}
    (hstale : ¬ loop.Awaits frame) :
    ledger.pending (ledger.deliver frame loop.host) = ledger.pending loop.host := by
  rw [ledger.pending_deliver]
  cases h.settled with
  | idle absent state =>
    rw [h.pending_idle absent]
    rfl
  | @running session held present state waits =>
    have hother : held ≠ frame := fun heq =>
      hstale ⟨session, present, h.isCancelled_session present, heq ▸ waits⟩
    rw [h.pending_running present waits, List.filter_cons]
    simp only [ne_eq, hother, not_false_eq_true, decide_true, if_true, List.filter_nil]

theorem deliver_stale (h : Orderly ledger drawn loop) {frame : FrameId}
    (hstale : ¬ loop.Awaits frame) :
    Orderly ledger drawn { loop with host := ledger.deliver frame loop.host } := by
  have hforget := h.pending_stale hstale
  obtain ⟨⟨hpending, hobservers, htokens, hdraws, hframes, hobserved⟩, hsettled⟩ := h
  have hevolves : Evolves H ledger.deliver loop.host (ledger.deliver frame loop.host) :=
    Evolves.refl.deliver frame
  refine ⟨⟨?_, ?_, htokens, hdraws, ?_, ?_⟩, ?_⟩
  · exact hforget.trans hpending
  · exact (ledger.observers_deliver frame loop.host).trans hobservers
  · exact hframes.later fun other hold => hold.later hevolves
  · exact hobserved.later fun other hold => hold.later hevolves
  · cases hsettled with
    | idle absent state => exact .idle absent state
    | running present state waits => exact .running present state waits

/-- A frame is drawn if and only if it is pending. -/
theorem frame (h : Orderly ledger drawn loop) (frontEnd : FrontEnd) (frame : FrameId)
    (now : Nat) :
    (loop.Awaits frame ∧
      Orderly ledger (drawn ++ [frame]) (loop.perform frontEnd ledger (.frame frame now))) ∨
    (¬ loop.Awaits frame ∧
      Orderly ledger drawn (loop.perform frontEnd ledger (.frame frame now))) := by
  let delivered : RenderLoop B H := { loop with host := ledger.deliver frame loop.host }
  have hdelivered : RenderLoop.Delivered frame now delivered (delivered.onFrame frame now) :=
    RenderLoop.onFrame_delivered frame now delivered
  show (_ ∧ Orderly ledger _ (delivered.onFrame frame now)) ∨
    (_ ∧ Orderly ledger _ (delivered.onFrame frame now))
  generalize delivered.onFrame frame now = next at hdelivered
  cases hdelivered with
  | stale unwanted => exact .inr ⟨unwanted, h.deliver_stale unwanted⟩
  | @drawn session running wanted due _ =>
    have hdrew := h.accounts.drew running due now 0
    refine .inl ⟨⟨session, running, wanted, due⟩, hdrew.requestNext rfl rfl, ?_⟩
    exact .running rfl (h.settled.state_running (by rw [running]; rfl)) rfl
  | @failed session _ running wanted due _ _ =>
    have hdrew := h.accounts.drew running due now (session.drawFailures + 1)
    refine .inl ⟨⟨session, running, wanted, due⟩, hdrew.requestNext rfl rfl, ?_⟩
    exact .running rfl (h.settled.state_running (by rw [running]; rfl)) rfl
  | @exhausted session _ running wanted due _ _ =>
    let last := delivered.drew session now (session.drawFailures + 1)
    have hlast : Accounts ledger (drawn ++ [frame]) last := h.accounts.drew running due now _
    have hpresent : last.session = some (session.drawn (session.drawFailures + 1)) := rfl
    have hstate : last.state = .running := h.settled.state_running (by rw [running]; rfl)
    obtain ⟨habsent, hidle⟩ := RenderLoop.retire_idle hpresent hstate
    exact .inl ⟨⟨session, running, wanted, due⟩, hlast.retire fun _ => hstate,
      .idle habsent hidle⟩

end Orderly

/-! ### Runs -/

namespace RenderLoop

def drawnBy (operation : Operation) (before after : RenderLoop B H) : List FrameId :=
  match operation with
  | .frame frame _ =>
    .replicate ((hostCalls after.trace).count .drew - (hostCalls before.trace).count .drew) frame
  | _ => []

def deliveredBy (ledger : Ledger H) (operation : Operation) (loop : RenderLoop B H) :
    List FrameId :=
  match operation with
  | .frame frame _ => if frame ∈ ledger.live loop.tokens loop.host then [frame] else []
  | _ => []

/-- Frames drawn during a run, with multiplicity. -/
def drawnFrames (frontEnd : FrontEnd) (ledger : Ledger H) :
    List Operation → RenderLoop B H → List FrameId
  | [], _ => []
  | operation :: operations, loop =>
    let next := loop.perform frontEnd ledger operation
    drawnBy operation loop next ++ drawnFrames frontEnd ledger operations next

/-- Frames delivered during a run while the host held them. -/
def deliveredFrames (frontEnd : FrontEnd) (ledger : Ledger H) :
    List Operation → RenderLoop B H → List FrameId
  | [], _ => []
  | operation :: operations, loop =>
    let next := loop.perform frontEnd ledger operation
    deliveredBy ledger operation loop ++ deliveredFrames frontEnd ledger operations next

end RenderLoop

namespace Orderly

variable {ledger : Ledger H} {drawn : List FrameId} {loop : RenderLoop B H}

theorem drawnBy_of_accounts {next : RenderLoop B H} {frames : List FrameId}
    (h : Accounts ledger drawn loop) (hnext : Accounts ledger (drawn ++ frames) next)
    (frame : FrameId) (now : Nat) :
    loop.drawnBy (.frame frame now) next = .replicate frames.length frame := by
  rw [RenderLoop.drawnBy, ← h.draws, ← hnext.draws, List.length_append, Nat.add_sub_cancel_left]

theorem perform (h : Orderly ledger drawn loop) (frontEnd : FrontEnd) (operation : Operation) :
    Orderly ledger
      (drawn ++ loop.drawnBy operation (loop.perform frontEnd ledger operation))
      (loop.perform frontEnd ledger operation) ∧
    loop.drawnBy operation (loop.perform frontEnd ledger operation) =
      loop.deliveredBy ledger operation := by
  -- only the delivery of a frame draws
  by_cases hframe : ∃ frame now, operation = .frame frame now
  · obtain ⟨frame, now, rfl⟩ := hframe
    obtain ⟨hawaits, hnext⟩ | ⟨hstale, hnext⟩ := h.frame frontEnd frame now
    · have hdrawn := drawnBy_of_accounts h.accounts hnext.accounts frame now
      have hdelivered : loop.deliveredBy ledger (.frame frame now) = [frame] :=
        if_pos ((h.live_iff frame).2 hawaits)
      rw [hdrawn]
      exact ⟨hnext, hdelivered.symm⟩
    · rw [← List.append_nil drawn] at hnext
      have hdrawn := drawnBy_of_accounts h.accounts hnext.accounts frame now
      have hdelivered : loop.deliveredBy ledger (.frame frame now) = [] :=
        if_neg fun hlive => hstale ((h.live_iff frame).1 hlive)
      rw [hdrawn]
      exact ⟨hnext, hdelivered.symm⟩
  · have hnone : loop.drawnBy operation (loop.perform frontEnd ledger operation) = [] := by
      cases operation <;> first | rfl | exact absurd ⟨_, _, rfl⟩ hframe
    have hdelivered : loop.deliveredBy ledger operation = [] := by
      cases operation <;> first | rfl | exact absurd ⟨_, _, rfl⟩ hframe
    refine ⟨?_, hnone.trans hdelivered.symm⟩
    rw [hnone, List.append_nil]
    obtain ⟨request, now, _, hstart⟩ | hframe' | rfl | ⟨_, _, lastRequest, pointer, hquiet⟩ :=
      loop.perform_cases frontEnd ledger operation
    · rw [hstart]
      exact h.start frontEnd request now
    · exact absurd hframe' hframe
    · exact h.retire
    · rw [hquiet]
      refine ⟨h.accounts.same rfl rfl rfl rfl, ?_⟩
      cases h.settled with
      | idle absent state => exact .idle absent state
      | running present state waits => exact .running present state waits

theorem run (h : Orderly ledger drawn loop) (frontEnd : FrontEnd) (operations : List Operation) :
    Orderly ledger (drawn ++ loop.drawnFrames frontEnd ledger operations)
      (loop.run frontEnd ledger operations) ∧
    loop.drawnFrames frontEnd ledger operations =
      loop.deliveredFrames frontEnd ledger operations := by
  -- the frames drawn before the run grow from one operation to the next
  induction operations generalizing loop drawn with
  | nil =>
    rw [RenderLoop.drawnFrames, List.append_nil]
    exact ⟨h, rfl⟩
  | cons operation operations ih =>
    obtain ⟨hnext, hby⟩ := h.perform frontEnd operation
    obtain ⟨hrest, hframes⟩ := ih hnext
    rw [List.append_assoc] at hrest
    refine ⟨hrest, ?_⟩
    simp only [RenderLoop.drawnFrames, RenderLoop.deliveredFrames, hby, hframes]

theorem idle (ledger : Ledger H) (backend : B.State) :
    Orderly (B := B) ledger [] (.idle backend ledger.initial) :=
  ⟨.idle ledger backend, .idle rfl rfl⟩

theorem reached (frontEnd : FrontEnd) (ledger : Ledger H) (backend : B.State)
    (operations : List Operation) :
    Orderly ledger
      ((RenderLoop.idle backend ledger.initial).drawnFrames frontEnd ledger operations)
      ((RenderLoop.idle backend ledger.initial).run frontEnd ledger operations) := by
  have hrun := ((idle ledger backend).run frontEnd operations).1
  rwa [List.nil_append] at hrun

end Orderly

end ShaderPreview
