import ShaderPreview.Proofs.Session.Order

/-!
# Agreement of loop and host

The central invariant of SPEC_FULL.md, section 3: the host holds the frame and the observer of the
session and nothing else, and the tokens of earlier sessions are cancelled.
-/

namespace ShaderPreview

variable {B : Backend} {H : FrameHost}

/-! ### Tokens of earlier sessions -/

namespace RenderLoop

theorem issued_retire (loop : RenderLoop B H) :
    loop.retire.tokens.issued = loop.tokens.issued := by
  cases h : loop.session with
  | none => rw [retire_none h]
  | some session =>
    cases hf : session.frame <;>
      simp only [retire, h, hf, tokens_transition, record, Tokens.cancel]

theorem issued_atAcquire (request : RenderRequest) (loop : RenderLoop B H) :
    (loop.atAcquire request).tokens.issued = loop.tokens.issued := by
  rw [atAcquire, tokens_transition]
  exact issued_retire loop

theorem issued_start (frontEnd : FrontEnd) (request : RenderRequest) (now : Nat)
    (loop : RenderLoop B H) :
    loop.tokens.issued ≤ (loop.start frontEnd request now).tokens.issued := by
  have hattempt := start_attempted frontEnd request now loop
  generalize loop.start frontEnd request now = next at hattempt
  rw [← issued_atAcquire request loop]
  cases hattempt with
  | unavailable => exact Nat.le_refl _
  | stopped => exact Nat.le_refl _
  | running => exact Nat.le_succ _

theorem issued_onFrame (frame : FrameId) (now : Nat) (loop : RenderLoop B H) :
    (loop.onFrame frame now).tokens.issued = loop.tokens.issued := by
  have hdelivered := onFrame_delivered frame now loop
  generalize loop.onFrame frame now = next at hdelivered
  cases hdelivered with
  | stale => rfl
  | drawn => rfl
  | failed => rfl
  | exhausted => exact issued_retire _

theorem issued_run (frontEnd : FrontEnd) (ledger : Ledger H) (operations : List Operation)
    (loop : RenderLoop B H) :
    loop.tokens.issued ≤ (loop.run frontEnd ledger operations).tokens.issued := by
  induction operations generalizing loop with
  | nil => exact Nat.le_refl _
  | cons operation operations ih =>
    refine Nat.le_trans ?_ (ih _)
    obtain ⟨request, now, _, hstart⟩ | ⟨frame, now, rfl⟩ | rfl | ⟨_, _, _, _, hquiet⟩ :=
      loop.perform_cases frontEnd ledger operation
    · rw [hstart]
      exact issued_start frontEnd request now loop
    · let delivered : RenderLoop B H := { loop with host := ledger.deliver frame loop.host }
      exact Nat.le_of_eq (issued_onFrame frame now delivered).symm
    · exact Nat.le_of_eq (issued_retire loop).symm
    · have hissued := congrArg (fun next : RenderLoop B H => next.tokens.issued) hquiet
      exact Nat.le_of_eq hissued.symm

end RenderLoop

/-! ### Consistency -/

/-- Agreement of loop and host between operations. -/
structure Consistent (ledger : Ledger H) (loop : RenderLoop B H) : Prop where
  settled : loop.state = .idle ∨ loop.state = .running
  running : loop.state = .running ↔ loop.session.isSome = true
  held {session : Session B} : loop.session = some session → ∃ frame,
    session.frame = some frame ∧
    ledger.pending loop.host = [(frame, session.token)] ∧
    ledger.live loop.tokens loop.host = [frame] ∧
    loop.tokens.isCancelled session.token = false ∧
    ledger.observers loop.host = [session.observer]
  free : loop.state = .idle →
    ledger.live loop.tokens loop.host = [] ∧ ledger.observers loop.host = []
  retired {token : Token} : token.number < loop.tokens.issued →
    loop.session.map (·.token) ≠ some token → loop.tokens.isCancelled token = true

theorem Orderly.consistent {ledger : Ledger H} {drawn : List FrameId} {loop : RenderLoop B H}
    (h : Orderly ledger drawn loop) : Consistent ledger loop where
  settled := by
    cases h.settled with
    | idle absent state => exact .inl state
    | running present state waits => exact .inr state
  running := by
    refine ⟨fun hstate => ?_, h.settled.state_running⟩
    cases h.settled with
    | idle absent state =>
      rw [state] at hstate
      cases hstate
    | running present state waits => rw [present, Option.isSome_some]
  held {session} hsession := by
    have hobservers := h.accounts.observers
    rw [hsession] at hobservers
    cases h.settled with
    | idle absent state =>
      rw [absent] at hsession
      cases hsession
    | @running other frame present state waits =>
      obtain rfl : session = other := Option.some.inj (hsession.symm.trans present)
      exact ⟨frame, waits, h.pending_running present waits, h.live_running present waits,
        h.isCancelled_session present, hobservers⟩
  free hstate := by
    have hobservers := h.accounts.observers
    cases h.settled with
    | idle absent state =>
      rw [absent] at hobservers
      exact ⟨h.live_idle absent, hobservers⟩
    | running present state waits =>
      rw [state] at hstate
      cases hstate
  retired := h.accounts.tokens.retired

/-- Invariant of all runs. A session that was running at any time is still the current one, or its
token is cancelled. -/
theorem run_consistent (frontEnd : FrontEnd) (ledger : Ledger H) (backend : B.State)
    (before after : List Operation) :
    let earlier := (RenderLoop.idle backend ledger.initial).run frontEnd ledger before
    let loop := earlier.run frontEnd ledger after
    Consistent ledger loop ∧ ∀ session, earlier.session = some session →
      loop.session.map (·.token) = some session.token ∨
        loop.tokens.isCancelled session.token = true := by
  intro earlier loop
  have hearlier : Orderly ledger _ earlier := Orderly.reached frontEnd ledger backend before
  have hloop : Orderly ledger _ loop := (hearlier.run frontEnd after).1
  refine ⟨hloop.consistent, fun session hsession => ?_⟩
  have hissued : session.token.number < earlier.tokens.issued :=
    (hearlier.accounts.tokens.kept (by rw [hsession]; rfl)).1
  have hlater : session.token.number < loop.tokens.issued :=
    Nat.lt_of_lt_of_le hissued (RenderLoop.issued_run frontEnd ledger after earlier)
  by_cases hcurrent : loop.session.map (·.token) = some session.token
  · exact .inl hcurrent
  · exact .inr (hloop.consistent.retired hlater hcurrent)

end ShaderPreview
