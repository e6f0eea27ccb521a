import ShaderPreview.Proofs.Session.Consistency

/-!
# Retirement before acquisition

SPEC_FULL.md, section 4.7, *Entry*: an attempt acquires the device once, after the previous session
was retired completely, and no other operation acquires it.
-/

namespace ShaderPreview

variable {B : Backend} {H : FrameHost}

/-! ### Calls for the device -/

def Event.isAcquire : Event B → Bool
  | .acquire .. => true
  | _ => false

def RenderLoop.Unacquired (before after : RenderLoop B H) : Prop :=
  ∃ events, after.trace = before.trace ++ events ∧ ∀ event ∈ events, event.isAcquire = false

theorem isAcquire_stage {event : Event B} (h : event.isStage = true) : event.isAcquire = false := by
  cases event <;> first | rfl | cases h

theorem isAcquire_notes (notes : List B.Note) :
    ∀ event ∈ notes.map (Event.note (B := B)), event.isAcquire = false :=
  fun event he => isAcquire_stage (stage_notes notes event he)

theorem isAcquire_retirement (session : Session B) :
    ∀ event ∈ session.retirement, event.isAcquire = false := by
  unfold Session.retirement
  cases session.frame <;> simp [Event.isAcquire]

namespace RenderLoop

variable {before between after : RenderLoop B H}

theorem Unacquired.of_trace (h : after.trace = before.trace) : before.Unacquired after :=
  ⟨[], by rw [h, List.append_nil], nofun⟩

theorem Unacquired.trans (h₁ : before.Unacquired between) (h₂ : between.Unacquired after) :
    before.Unacquired after := by
  obtain ⟨e₁, ht₁, he₁⟩ := h₁
  obtain ⟨e₂, ht₂, he₂⟩ := h₂
  exact ⟨e₁ ++ e₂, by rw [ht₂, ht₁, List.append_assoc], List.forall_mem_append.2 ⟨he₁, he₂⟩⟩

theorem unacquired_retire {loop : RenderLoop B H}
    (h : loop.session.isSome = true → loop.state = .running) : loop.Unacquired loop.retire := by
  refine ⟨_, retire_trace h, ?_⟩
  cases loop.session with
  | none => exact nofun
  | some session => exact isAcquire_retirement session

theorem unacquired_drew (session : Session B) (now failures : Nat) (loop : RenderLoop B H) :
    loop.Unacquired (loop.drew session now failures) :=
  ⟨_, rfl, List.forall_mem_cons.2 ⟨rfl, isAcquire_notes _⟩⟩

theorem unacquired_requestNext (session : Session B) (loop : RenderLoop B H) :
    loop.Unacquired (loop.requestNext session) :=
  ⟨_, rfl, List.forall_mem_singleton.2 rfl⟩

theorem unacquired_onFrame (frame : FrameId) (now : Nat) {loop : RenderLoop B H}
    (h : loop.session.isSome = true → loop.state = .running) :
    loop.Unacquired (loop.onFrame frame now) := by
  have hdelivered := onFrame_delivered frame now loop
  generalize loop.onFrame frame now = next at hdelivered
  cases hdelivered with
  | stale => exact .of_trace rfl
  | drawn => exact (unacquired_drew ..).trans (unacquired_requestNext ..)
  | failed => exact (unacquired_drew ..).trans (unacquired_requestNext ..)
  | exhausted running =>
    have hstate : loop.state = .running := h (by rw [running]; rfl)
    exact (unacquired_drew ..).trans (unacquired_retire fun _ => hstate)

theorem acquire_start (frontEnd : FrontEnd) (request : RenderRequest) (now : Nat)
    (loop : RenderLoop B H) :
    let moment := loop.atAcquire request
    ∃ later, (loop.start frontEnd request now).trace = moment.trace ++
        .acquire request.canvas (B.acquire request.canvas moment.backend).value :: later ∧
      ∀ event ∈ later, event.isAcquire = false := by
  intro moment
  have hattempt : Attempted frontEnd request now moment (loop.start frontEnd request now) :=
    start_attempted frontEnd request now loop
  generalize loop.start frontEnd request now = next at hattempt
  cases hattempt with
  | @unavailable answer asked value =>
    refine ⟨answer.notes.map .note ++ [.transition .acquiring .idle], ?_, ?_⟩
    · rw [asked]
      rfl
    · exact List.forall_mem_append.2 ⟨isAcquire_notes _, List.forall_mem_singleton.2 rfl⟩
  | @stopped answer events stop state backend asked value prepared =>
    have hevents := (inner_prepared frontEnd request prepared).1
    refine ⟨answer.notes.map .note ++
      (events ++ .transition state .idle :: stop.report.toList.map .errors), ?_, ?_⟩
    · rw [asked]
      rfl
    · refine List.forall_mem_append.2 ⟨isAcquire_notes _, List.forall_mem_append.2
        ⟨fun event he => isAcquire_stage (hevents event he), List.forall_mem_cons.2 ⟨rfl, ?_⟩⟩⟩
      intro event he
      obtain ⟨report, _, rfl⟩ := List.mem_map.1 he
      rfl
  | @running answer events assembly state backend asked value prepared =>
    have hevents := (inner_prepared frontEnd request prepared).1
    let rest : List (Event B) := [.requestFrame moment.tokens.fresh
        (H.request moment.tokens.fresh moment.host).1,
      .observeResize (H.observe (H.request moment.tokens.fresh moment.host).2).1,
      .console successLine, .errors assembly.diagnostics]
    refine ⟨answer.notes.map .note ++ (events ++ rest), ?_, ?_⟩
    · rw [asked]
      show moment.trace ++ (answer.events (.acquire request.canvas) ++ events) ++ rest = _
      simp only [Answer.events, List.append_assoc, List.cons_append]
    · refine List.forall_mem_append.2 ⟨isAcquire_notes _, List.forall_mem_append.2
        ⟨fun event he => isAcquire_stage (hevents event he), ?_⟩⟩
      simp [rest, Event.isAcquire]

theorem unacquired_perform (frontEnd : FrontEnd) (ledger : Ledger H) {operation : Operation}
    {loop : RenderLoop B H} (h : loop.Settled) (hnone : loop.attempt? operation = none) :
    loop.Unacquired (loop.perform frontEnd ledger operation) := by
  obtain ⟨request, now, hsome, _⟩ | ⟨frame, now, rfl⟩ | rfl | ⟨_, _, _, _, hquiet⟩ :=
    loop.perform_cases frontEnd ledger operation
  · rw [hnone] at hsome
    cases hsome
  · let delivered : RenderLoop B H := { loop with host := ledger.deliver frame loop.host }
    have hstate : delivered.session.isSome = true → delivered.state = .running := h.state_running
    exact unacquired_onFrame frame now hstate
  · exact unacquired_retire h.state_running
  · rw [hquiet]
    exact .of_trace rfl

end RenderLoop

/-! ### What an attempt finds retired -/

/-- State at the acquisition: the previous session is retired, its frame and observer were given
back once, every token is cancelled, and the host holds nothing. -/
structure Retired (ledger : Ledger H) (drawn : List FrameId) (before moment : RenderLoop B H) :
    Prop where
  trace : moment.trace = before.trace ++ before.session.elim [] Session.retirement ++
    [.transition .idle .acquiring]
  previous {session : Session B} : before.session = some session → ∃ frame,
    session.frame = some frame ∧
    (hostCalls moment.trace).count (.cancelled frame) = 1 ∧
    (hostCalls moment.trace).count (.disconnected session.observer) = 1 ∧
    moment.tokens.isCancelled session.token = true
  tokens {token : Token} : token.number < moment.tokens.issued →
    moment.tokens.isCancelled token = true
  live : ledger.live moment.tokens moment.host = []
  observers : ledger.observers moment.host = []
  frames {frame : FrameId} : 0 < (hostCalls moment.trace).count (.requested frame) →
    drawn.count frame + (hostCalls moment.trace).count (.cancelled frame) = 1
  observed {observer : ObserverId} : 0 < (hostCalls moment.trace).count (.observed observer) →
    (hostCalls moment.trace).count (.disconnected observer) = 1

namespace Orderly

variable {ledger : Ledger H} {drawn : List FrameId} {loop : RenderLoop B H}

theorem retirement_counts (h : Orderly ledger drawn loop) {session : Session B} {frame : FrameId}
    (hsession : loop.session = some session) (hframe : session.frame = some frame) :
    (hostCalls (loop.trace ++ session.retirement)).count (.cancelled frame) = 1 ∧
      (hostCalls (loop.trace ++ session.retirement)).count
        (.disconnected session.observer) = 1 := by
  have hparted := retirementCalls_retirement loop.trace session
  have hframes := h.accounts.frames
  have hobserved := h.accounts.observed
  rw [hsession] at hframes hobserved
  rw [Option.bind_some, hframe] at hframes
  have hframe0 : drawn.count frame + (hostCalls loop.trace).count (.cancelled frame) = 0 :=
    hframes.back_eq_zero
  have hobserver0 : (hostCalls loop.trace).count (.disconnected session.observer) = 0 :=
    hobserved.back_eq_zero
  rw [hparted.cancelled, hparted.disconnected, if_pos hframe, if_pos rfl]
  omega

theorem retired (h : Orderly ledger drawn loop) (request : RenderRequest) :
    Retired ledger drawn loop (loop.atAcquire request) := by
  have hpoised := h.atAcquire request
  have hnone := h.settled.atAcquire_session request
  have htrace := h.settled.atAcquire_trace request
  obtain ⟨hpending, hobservers, htokens, hdraws, hframes, hobserved⟩ := hpoised
  rw [hnone] at hpending hobservers htokens hframes hobserved
  have htoken {token : Token} (hissued : token.number < (loop.atAcquire request).tokens.issued) :
      (loop.atAcquire request).tokens.isCancelled token = true := htokens.retired hissued nofun
  refine ⟨htrace, fun {session} hsession => ?_, htoken, ?_, hobservers,
    fun hpos => hframes.back_eq_one hpos nofun, fun hpos => hobserved.back_eq_one hpos nofun⟩
  · cases h.settled with
    | idle absent state =>
      rw [absent] at hsession
      cases hsession
    | @running other frame present state waits =>
      obtain rfl : session = other := Option.some.inj (hsession.symm.trans present)
      obtain ⟨hcancelled, hdisconnected⟩ := h.retirement_counts present waits
      have hcalls : hostCalls (loop.atAcquire request).trace =
          hostCalls (loop.trace ++ session.retirement) := by
        rw [htrace, present]
        exact (hostCalls_append _ _).trans (List.append_nil _)
      have hissued : session.token.number < loop.tokens.issued :=
        (h.accounts.tokens.kept (by rw [hsession]; rfl)).1
      have hpoised := RenderLoop.issued_atAcquire request loop
      rw [hcalls]
      exact ⟨frame, waits, hcancelled, hdisconnected, htoken (hpoised ▸ hissued)⟩
  · rw [Ledger.live, hpending]
    rfl

end Orderly

/-! ### Nothing is given back twice -/

/-- No frame and no observer is given back twice, no frame is both drawn and cancelled, and whatever
the current session does not hold was given back. -/
structure GivenBack (drawn delivered : List FrameId) (loop : RenderLoop B H) : Prop where
  drawn_delivered : drawn = delivered
  draws : drawn.length = (hostCalls loop.trace).count .drew
  frame_once (frame : FrameId) :
    delivered.count frame + (hostCalls loop.trace).count (.cancelled frame) ≤ 1
  frame_gone {frame : FrameId} : 0 < (hostCalls loop.trace).count (.requested frame) →
    loop.session.bind (·.frame) ≠ some frame →
    delivered.count frame + (hostCalls loop.trace).count (.cancelled frame) = 1
  observer_once (observer : ObserverId) :
    (hostCalls loop.trace).count (.disconnected observer) ≤ 1
  observer_gone {observer : ObserverId} :
    0 < (hostCalls loop.trace).count (.observed observer) →
    loop.session.map (·.observer) ≠ some observer →
    (hostCalls loop.trace).count (.disconnected observer) = 1

theorem Orderly.givenBack {ledger : Ledger H} {drawn delivered : List FrameId}
    {loop : RenderLoop B H} (h : Orderly ledger drawn loop) (hd : drawn = delivered) :
    GivenBack drawn delivered loop := by
  subst hd
  exact ⟨rfl, h.accounts.draws, h.accounts.frames.back_le_one,
    fun hpos hheld => h.accounts.frames.back_eq_one hpos hheld,
    h.accounts.observed.back_le_one,
    fun hpos hheld => h.accounts.observed.back_eq_one hpos hheld⟩

/-- After any run, an operation that makes an attempt acquires the device exactly once, with the
previous session retired; no other operation acquires it. -/
theorem retired_before_acquire (frontEnd : FrontEnd) (ledger : Ledger H) (backend : B.State)
    (operations : List Operation) (operation : Operation) :
    let start := RenderLoop.idle backend ledger.initial
    let before := start.run frontEnd ledger operations
    let after := before.perform frontEnd ledger operation
    let drawn := start.drawnFrames frontEnd ledger operations
    GivenBack drawn (start.deliveredFrames frontEnd ledger operations) before ∧
    match before.attempt? operation with
    | none => before.Unacquired after
    | some request =>
      let moment := before.atAcquire request
      Retired ledger drawn before moment ∧
      ∃ later, after.trace = moment.trace ++
          .acquire request.canvas (B.acquire request.canvas moment.backend).value :: later ∧
        ∀ event ∈ later, event.isAcquire = false := by
  intro start before after drawn
  have hbefore : Orderly ledger drawn before :=
    Orderly.reached frontEnd ledger backend operations
  refine ⟨hbefore.givenBack ((Orderly.idle ledger backend).run frontEnd operations).2, ?_⟩
  cases hattempt : before.attempt? operation with
  | none => exact RenderLoop.unacquired_perform frontEnd ledger hbefore.settled hattempt
  | some request =>
    obtain ⟨now, hstart⟩ := before.perform_attempt frontEnd ledger hattempt
    have hacquire := before.acquire_start frontEnd request now
    rw [← hstart] at hacquire
    exact ⟨hbefore.retired request, hacquire⟩

end ShaderPreview
