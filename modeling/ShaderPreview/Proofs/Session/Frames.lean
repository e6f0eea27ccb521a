import ShaderPreview.Proofs.Session.Retirement

/-!
# Frame loop

A pending frame is drawn and the next one is requested (SPEC_FULL.md, section 5). Consecutive
failures are counted per session. The invariant relates the counter to the draws in the trace.
-/

namespace ShaderPreview

variable {B : Backend} {H : FrameHost}

/-! ### Failures in a row -/

def failuresInARow (results : List Bool) : Nat := (results.reverse.takeWhile (!·)).length

theorem failuresInARow_success (results : List Bool) :
    failuresInARow (results ++ [true]) = 0 := by
  simp [failuresInARow]

theorem failuresInARow_failure (results : List Bool) :
    failuresInARow (results ++ [false]) = failuresInARow results + 1 := by
  simp [failuresInARow]

theorem replicate_isPrefix_iff (n : Nat) (results : List Bool) :
    List.replicate n false <+: results ↔ n ≤ (results.takeWhile (!·)).length := by
  induction results generalizing n with
  | nil =>
    rw [List.prefix_nil, List.replicate_eq_nil_iff]
    exact Nat.le_zero.symm
  | cons result results ih =>
    cases n with
    | zero => simp
    | succ n => cases result <;> simp [List.replicate_succ, ih]

/-- The last `limit` results were failures. -/
def Exhausted (results : List Bool) : Prop := List.replicate maxDrawFailures false <:+ results

theorem exhausted_iff (results : List Bool) :
    Exhausted results ↔ maxDrawFailures ≤ failuresInARow results := by
  rw [Exhausted, ← List.reverse_prefix, List.reverse_replicate, replicate_isPrefix_iff]
  rfl

/-! ### The draws of a session -/

/-- Results of the draws of one session, which starts with the connection of its observer. -/
structure DrawRecord where
  observer : ObserverId
  results : List Bool

def DrawRecord.next (record : Option DrawRecord) : Event B → Option DrawRecord
  | .observeResize observer => some ⟨observer, []⟩
  | .draw _ _ _ _ result =>
    record.map fun record => ⟨record.observer, record.results ++ [result.isOk]⟩
  | _ => record

/-- Results of the draws of the latest session in a trace. -/
def drawRecord (trace : List (Event B)) : Option DrawRecord := trace.foldl DrawRecord.next none

def Event.isDraw : Event B → Bool
  | .draw .. => true
  | _ => false

/-- The event does not affect the draw records. -/
def Event.isAside : Event B → Bool
  | .draw .. | .observeResize _ => false
  | _ => true

theorem drawRecord_aside {trace events : List (Event B)}
    (h : ∀ event ∈ events, event.isAside = true) :
    drawRecord (trace ++ events) = drawRecord trace := by
  rw [drawRecord, List.foldl_append, ← drawRecord]
  generalize drawRecord trace = record
  induction events with
  | nil => rfl
  | cons event events ih =>
    obtain ⟨hevent, hevents⟩ := List.forall_mem_cons.1 h
    have hnext : DrawRecord.next record event = record := by
      cases event <;> first | rfl | cases hevent
    rw [List.foldl_cons, hnext]
    exact ih hevents

theorem drawRecord_cons (trace : List (Event B)) (event : Event B) {rest : List (Event B)}
    (h : ∀ event ∈ rest, event.isAside = true) :
    drawRecord (trace ++ event :: rest) = DrawRecord.next (drawRecord trace) event := by
  rw [List.append_cons, drawRecord_aside h, drawRecord, List.foldl_append]
  rfl

theorem aside_notes (notes : List B.Note) :
    ∀ event ∈ notes.map (Event.note (B := B)), event.isAside = true :=
  List.forall_mem_map.2 fun _ _ => rfl

theorem aside_retirement (session : Session B) :
    ∀ event ∈ session.retirement, event.isAside = true := by
  unfold Session.retirement
  cases session.frame <;> simp [Event.isAside]

/-- The failure counter is the number of failures at the end of the session's draws and below the
limit, and the pending frame was requested with the session's token. -/
structure FailuresCounted (loop : RenderLoop B H) : Prop where
  counted {session : Session B} : loop.session = some session → ∃ results,
    drawRecord loop.trace = some ⟨session.observer, results⟩ ∧
    session.drawFailures = failuresInARow results ∧ session.drawFailures < maxDrawFailures
  requested {session : Session B} {frame : FrameId} : loop.session = some session →
    session.frame = some frame → .requestFrame session.token frame ∈ loop.trace

theorem FailuresCounted.absent {loop : RenderLoop B H} (h : loop.session = none) :
    FailuresCounted loop := by
  constructor
  · intro session hsession
    rw [h] at hsession
    cases hsession
  · intro session frame hsession
    rw [h] at hsession
    cases hsession

theorem FailuresCounted.same {loop next : RenderLoop B H} (h : FailuresCounted loop)
    (hsession : next.session = loop.session) (htrace : next.trace = loop.trace) :
    FailuresCounted next := by
  constructor
  · intro session hs
    rw [htrace]
    exact h.counted (hsession.symm.trans hs)
  · intro session frame hs hf
    rw [htrace]
    exact h.requested (hsession.symm.trans hs) hf

theorem FailuresCounted.requestNext {loop : RenderLoop B H} {session : Session B}
    {results : List Bool} (hrecord : drawRecord loop.trace = some ⟨session.observer, results⟩)
    (hcount : session.drawFailures = failuresInARow results)
    (hfew : session.drawFailures < maxDrawFailures) :
    FailuresCounted (loop.requestNext session) := by
  have htrace : (loop.requestNext session).trace = loop.trace ++
      [.requestFrame session.token (H.request session.token loop.host).1] := rfl
  constructor
  · rintro other ⟨rfl⟩
    refine ⟨results, ?_, hcount, hfew⟩
    rw [htrace, drawRecord_aside (List.forall_mem_singleton.2 rfl)]
    exact hrecord
  · rintro other frame ⟨rfl⟩ ⟨rfl⟩
    rw [htrace]
    exact List.mem_append_right _ (List.mem_singleton_self _)

theorem drawRecord_drew {loop : RenderLoop B H} {session : Session B} {results : List Bool}
    (h : drawRecord loop.trace = some ⟨session.observer, results⟩) (now failures : Nat) :
    drawRecord (loop.drew session now failures).trace =
      some ⟨session.observer, results ++ [(loop.draw session now).value.isOk]⟩ := by
  have hnext := drawRecord_cons loop.trace (.draw session.pipeline session.resources
    session.vertices ⟨now - session.startedAt, loop.pointer, session.vertexCount⟩
    (loop.draw session now).value) (aside_notes (loop.draw session now).notes)
  rw [h] at hnext
  exact hnext

/-! ### Deliveries -/

/-- Effect of delivering the pending frame after draws with the given results: one draw, then either
the next frame is requested with the same token, or the session is retired and no frame is
requested. -/
inductive FrameOutcome (session : Session B) (results : List Bool) (after : RenderLoop B H) :
    List (Event B) → Prop
  | continued {input : FrameInput} {result : Except Failure Unit} {notes : List B.Note}
      {next : FrameId} (few : ¬ Exhausted (results ++ [result.isOk]))
      (running : after.state = .running)
      (waits : after.session = some { session with
        frame := some next
        drawFailures := failuresInARow (results ++ [result.isOk]) }) :
      FrameOutcome session results after
        (.draw session.pipeline session.resources session.vertices input result ::
          (notes.map .note ++ [.requestFrame session.token next]))
  | retired {input : FrameInput} {result : Except Failure Unit} {notes : List B.Note}
      (many : Exhausted (results ++ [result.isOk])) (idle : after.state = .idle)
      (gone : after.session = none) :
      FrameOutcome session results after
        (.draw session.pipeline session.resources session.vertices input result ::
          (notes.map .note ++ [.transition .running .retiring,
            .disconnectResize session.observer, .transition .retiring .idle]))

/-- Effect of delivering any frame: it is drawn if it is pending and ignored otherwise. The session
is retired after too many consecutive failures. -/
structure SingleFlight (frame : FrameId) (before after : RenderLoop B H)
    (events : List (Event B)) : Prop where
  trace : after.trace = before.trace ++ events
  draws : (∃ event ∈ events, event.isDraw = true) ↔ before.session.bind (·.frame) = some frame
  ignored : before.session.bind (·.frame) ≠ some frame →
    events = [] ∧ after.session = before.session ∧ after.state = before.state
  drawn {session : Session B} : before.session = some session → session.frame = some frame →
    ∃ results, drawRecord before.trace = some ⟨session.observer, results⟩ ∧
      FrameOutcome session results after events
  ended {session : Session B} : before.session = some session → ∃ results,
    drawRecord after.trace = some ⟨session.observer, results⟩ ∧
    (after.session = none ↔ Exhausted results)

theorem FrameOutcome.draws {session : Session B} {results : List Bool} {after : RenderLoop B H}
    {events : List (Event B)} (h : FrameOutcome session results after events) :
    ∃ event ∈ events, event.isDraw = true := by
  cases h with
  | continued => exact ⟨_, List.mem_cons_self, rfl⟩
  | retired => exact ⟨_, List.mem_cons_self, rfl⟩

theorem SingleFlight.of_frameOutcome {frame : FrameId} {before after : RenderLoop B H}
    {session : Session B} {results : List Bool} {events : List (Event B)}
    (hsession : before.session = some session) (hframe : session.frame = some frame)
    (hrecord : drawRecord before.trace = some ⟨session.observer, results⟩)
    (htrace : after.trace = before.trace ++ events)
    (h : FrameOutcome session results after events) : SingleFlight frame before after events := by
  have hpending : before.session.bind (·.frame) = some frame := by
    rw [hsession]
    exact hframe
  refine ⟨htrace, iff_of_true h.draws hpending, fun hstale => absurd hpending hstale, ?_, ?_⟩
  · intro other hother _
    obtain rfl : session = other := Option.some.inj (hsession.symm.trans hother)
    exact ⟨results, hrecord, h⟩
  · intro other hother
    obtain rfl : session = other := Option.some.inj (hsession.symm.trans hother)
    rw [htrace]
    cases h with
    | @continued _ result notes next few _ waits =>
      refine ⟨results ++ [result.isOk], ?_, ?_⟩
      · have hrest := List.forall_mem_append.2 ⟨aside_notes notes, List.forall_mem_singleton.2
          (rfl : (Event.requestFrame (B := B) session.token next).isAside = true)⟩
        rw [drawRecord_cons _ _ hrest, hrecord]
        rfl
      · rw [waits]
        exact iff_of_false nofun few
    | @retired _ result notes many _ gone =>
      refine ⟨results ++ [result.isOk], ?_, iff_of_true gone many⟩
      have hrest := List.forall_mem_append.2
        ⟨aside_notes notes, aside_retirement (session.drawn session.drawFailures)⟩
      refine (drawRecord_cons _ _ hrest).trans ?_
      rw [hrecord]
      rfl

section

variable {loop : RenderLoop B H} {session : Session B} {results : List Bool}

theorem FailuresCounted.continued {frame : FrameId} {failures : Nat} (now : Nat)
    (hsession : loop.session = some session) (hframe : session.frame = some frame)
    (hstate : loop.state = .running)
    (hrecord : drawRecord loop.trace = some ⟨session.observer, results⟩)
    (hcount : failures = failuresInARow (results ++ [(loop.draw session now).value.isOk]))
    (hfew : failures < maxDrawFailures) :
    let next := (loop.drew session now failures).requestNext (session.drawn failures)
    FailuresCounted next ∧ ∃ events, SingleFlight frame loop next events := by
  intro next
  have hdrew := drawRecord_drew hrecord now failures
  refine ⟨.requestNext hdrew hcount hfew, _, .of_frameOutcome hsession hframe hrecord
    (List.append_assoc _ _ _) (.continued ?_ hstate ?_)⟩
  · rw [exhausted_iff, ← hcount]
    exact Nat.not_le_of_lt hfew
  · rw [← hcount]
    rfl

theorem FailuresCounted.exhausted {frame : FrameId} {failures : Nat} (now : Nat)
    (hsession : loop.session = some session) (hframe : session.frame = some frame)
    (hstate : loop.state = .running)
    (hrecord : drawRecord loop.trace = some ⟨session.observer, results⟩)
    (hcount : failures = failuresInARow (results ++ [(loop.draw session now).value.isOk]))
    (hmany : maxDrawFailures ≤ failures) :
    let next := (loop.drew session now failures).retire
    FailuresCounted next ∧ ∃ events, SingleFlight frame loop next events := by
  intro next
  let answer := loop.draw session now
  let flight : List (Event B) := .draw session.pipeline session.resources session.vertices
    ⟨now - session.startedAt, loop.pointer, session.vertexCount⟩ answer.value ::
      (answer.notes.map .note ++ [.transition .running .retiring,
        .disconnectResize session.observer, .transition .retiring .idle])
  obtain ⟨habsent, hidle⟩ : next.session = none ∧ next.state = .idle :=
    RenderLoop.retire_idle rfl hstate
  have hretire := @RenderLoop.retire_running B H (loop.drew session now failures) _ rfl hstate
  have htrace : next.trace = loop.trace ++ flight :=
    (congrArg RenderLoop.trace hretire).trans (List.append_assoc _ _ _)
  have hflown : FrameOutcome session results next flight := by
    refine .retired ?_ hidle habsent
    rw [exhausted_iff, ← hcount]
    exact hmany
  exact ⟨.absent habsent, flight, .of_frameOutcome hsession hframe hrecord htrace hflown⟩

theorem FailuresCounted.onFrame (h : FailuresCounted loop) (frame : FrameId) (now : Nat)
    (hstate : loop.session.isSome = true → loop.state = .running)
    (hwanted : ∀ session, loop.session = some session →
      loop.tokens.isCancelled session.token = false) :
    FailuresCounted (loop.onFrame frame now) ∧
      ∃ events, SingleFlight frame loop (loop.onFrame frame now) events := by
  have hrunning {session : Session B} (hsession : loop.session = some session) :
      loop.state = .running := hstate (by rw [hsession]; rfl)
  have hdelivered := RenderLoop.onFrame_delivered frame now loop
  generalize loop.onFrame frame now = next at hdelivered
  cases hdelivered with
  | stale unwanted =>
    have hstale : loop.session.bind (·.frame) ≠ some frame := by
      intro hpending
      obtain ⟨session, hsession, hframe⟩ := Option.bind_eq_some_iff.1 hpending
      exact unwanted ⟨session, hsession, hwanted session hsession, hframe⟩
    refine ⟨h, [], (List.append_nil _).symm, ?_, fun _ => ⟨rfl, rfl, rfl⟩, ?_, ?_⟩
    · refine iff_of_false ?_ hstale
      rintro ⟨event, he, _⟩
      cases he
    · intro session hsession hframe
      refine absurd ?_ hstale
      rw [hsession]
      exact hframe
    · intro session hsession
      obtain ⟨results, hrecord, hcount, hfew⟩ := h.counted hsession
      refine ⟨results, hrecord, iff_of_false ?_ ?_⟩
      · rw [hsession]
        exact nofun
      · rw [exhausted_iff, ← hcount]
        exact Nat.not_le_of_lt hfew
  | @drawn session running wanted due value =>
    obtain ⟨results, hrecord, hcount, hfew⟩ := h.counted running
    refine FailuresCounted.continued now running due (hrunning running) hrecord ?_ (by decide)
    rw [value]
    exact (failuresInARow_success results).symm
  | @failed session failure running wanted due value few =>
    obtain ⟨results, hrecord, hcount, _⟩ := h.counted running
    refine FailuresCounted.continued now running due (hrunning running) hrecord ?_ few
    rw [value, hcount]
    exact (failuresInARow_failure results).symm
  | @exhausted session failure running wanted due value many =>
    obtain ⟨results, hrecord, hcount, _⟩ := h.counted running
    refine FailuresCounted.exhausted now running due (hrunning running) hrecord ?_ many
    rw [value, hcount]
    exact (failuresInARow_failure results).symm

end

/-! ### Runs -/

section

variable {ledger : Ledger H} {drawn : List FrameId} {loop : RenderLoop B H}

theorem FailuresCounted.frame (h : FailuresCounted loop) (horder : Orderly ledger drawn loop)
    (frontEnd : FrontEnd) (frame : FrameId) (now : Nat) :
    FailuresCounted (loop.perform frontEnd ledger (.frame frame now)) ∧
      ∃ events, SingleFlight frame loop (loop.perform frontEnd ledger (.frame frame now))
        events := by
  have hdelivered : FailuresCounted { loop with host := ledger.deliver frame loop.host } :=
    h.same rfl rfl
  obtain ⟨hnext, events, hflight⟩ := hdelivered.onFrame frame now horder.settled.state_running
    fun session hsession => horder.isCancelled_session hsession
  exact ⟨hnext, events, hflight.trace, hflight.draws, hflight.ignored, hflight.drawn,
    hflight.ended⟩

theorem failuresCounted_start (horder : Orderly ledger drawn loop) (frontEnd : FrontEnd)
    (request : RenderRequest) (now : Nat) : FailuresCounted (loop.start frontEnd request now) := by
  have habsent := horder.settled.atAcquire_session request
  have hattempt := RenderLoop.start_attempted frontEnd request now loop
  generalize loop.start frontEnd request now = next at hattempt
  cases hattempt with
  | unavailable => exact .absent habsent
  | stopped => exact .absent habsent
  | @running answer events assembly state backend asked value prepared =>
    let moment := (loop.atAcquire request).after state backend
      (answer.events (.acquire request.canvas) ++ events)
    let token := moment.tokens.fresh
    let requested := H.request token moment.host
    let observer := (H.observe requested.2).1
    have htrace : (moment.connected assembly request now).trace =
        moment.trace ++ [.requestFrame token requested.1] ++ .observeResize observer ::
          [.console successLine, .errors assembly.diagnostics] := by
      rw [List.append_assoc]
      rfl
    constructor
    · rintro session ⟨rfl⟩
      refine ⟨[], ?_, rfl, (by decide : 0 < maxDrawFailures)⟩
      show drawRecord (moment.connected assembly request now).trace = _
      rw [htrace, drawRecord_cons _ _ (by simp [Event.isAside])]
      rfl
    · rintro session frame ⟨rfl⟩ ⟨rfl⟩
      show _ ∈ (moment.connected assembly request now).trace
      rw [htrace]
      exact List.mem_append_left _ (List.mem_append_right _ (List.mem_singleton_self _))

theorem FailuresCounted.perform (h : FailuresCounted loop) (horder : Orderly ledger drawn loop)
    (frontEnd : FrontEnd) (operation : Operation) :
    FailuresCounted (loop.perform frontEnd ledger operation) := by
  obtain ⟨request, now, _, hstart⟩ | ⟨frame, now, rfl⟩ | rfl | ⟨_, _, _, _, hquiet⟩ :=
    loop.perform_cases frontEnd ledger operation
  · rw [hstart]
    exact failuresCounted_start horder frontEnd request now
  · exact (h.frame horder frontEnd frame now).1
  · exact .absent horder.settled.retire.1
  · rw [hquiet]
    exact h.same rfl rfl

theorem FailuresCounted.run (h : FailuresCounted loop) (horder : Orderly ledger drawn loop)
    (frontEnd : FrontEnd) (operations : List Operation) :
    FailuresCounted (loop.run frontEnd ledger operations) := by
  induction operations generalizing loop drawn with
  | nil => exact h
  | cons operation operations ih =>
    exact ih (h.perform horder frontEnd operation) (horder.perform frontEnd operation).1

end

/-! ### Frames that are gone -/

namespace RenderLoop

theorem run_append (frontEnd : FrontEnd) (ledger : Ledger H) (earlier later : List Operation)
    (loop : RenderLoop B H) : loop.run frontEnd ledger (earlier ++ later) =
      (loop.run frontEnd ledger earlier).run frontEnd ledger later := by
  induction earlier generalizing loop with
  | nil => rfl
  | cons operation earlier ih => exact ih _

theorem trace_perform (frontEnd : FrontEnd) (ledger : Ledger H) (operation : Operation)
    {loop : RenderLoop B H} (h : loop.Settled) :
    loop.trace <+: (loop.perform frontEnd ledger operation).trace := by
  cases hattempt : loop.attempt? operation with
  | none =>
    obtain ⟨events, htrace, _⟩ := unacquired_perform frontEnd ledger h hattempt
    exact ⟨events, htrace.symm⟩
  | some request =>
    obtain ⟨now, hstart⟩ := loop.perform_attempt frontEnd ledger hattempt
    obtain ⟨later, hlater, _⟩ := loop.acquire_start frontEnd request now
    rw [hstart, hlater, h.atAcquire_trace, List.append_assoc, List.append_assoc]
    exact List.prefix_append _ _

end RenderLoop

section

variable {ledger : Ledger H} {drawn : List FrameId} {loop : RenderLoop B H} {frame : FrameId}

theorem Orderly.trace_run (h : Orderly ledger drawn loop) (frontEnd : FrontEnd)
    (operations : List Operation) :
    loop.trace <+: (loop.run frontEnd ledger operations).trace := by
  induction operations generalizing loop drawn with
  | nil => exact List.prefix_refl _
  | cons operation operations ih =>
    exact (loop.trace_perform frontEnd ledger operation h.settled).trans
      (ih (h.perform frontEnd operation).1)

theorem requested_pos {trace : List (Event B)} {token : Token}
    (h : .requestFrame token frame ∈ trace) :
    0 < (hostCalls trace).count (.requested frame) :=
  List.count_pos_iff.2 (List.mem_filterMap.2 ⟨_, h, rfl⟩)

/-- A frame id is requested with only one token. -/
theorem requested_once {trace : List (Event B)} {first second : Token}
    (h : (hostCalls trace).count (.requested frame) ≤ 1)
    (hfirst : .requestFrame first frame ∈ trace) (hsecond : .requestFrame second frame ∈ trace) :
    first = second := by
  obtain ⟨before, after, rfl⟩ := List.append_of_mem hfirst
  rw [hostCalls_append, List.count_append] at h
  have hhead : (hostCalls (.requestFrame first frame :: after)).count (.requested frame) =
      (hostCalls after).count (.requested frame) + 1 := List.count_cons_self
  rw [hhead] at h
  obtain hbefore | hafter := List.mem_append.1 hsecond
  · have hpos := requested_pos hbefore
    omega
  · obtain heq | hafter := List.mem_cons.1 hafter
    · cases heq
      rfl
    · have hpos := requested_pos hafter
      omega

theorem FailuresCounted.foreign (h : FailuresCounted loop) (horder : Orderly ledger drawn loop)
    {token : Token} (hrequested : .requestFrame token frame ∈ loop.trace)
    (hforeign : loop.session.map (·.token) ≠ some token) :
    loop.session.bind (·.frame) ≠ some frame := by
  intro hpending
  obtain ⟨session, hsession, hframe⟩ := Option.bind_eq_some_iff.1 hpending
  have htoken := requested_once (horder.accounts.frames.once frame)
    (h.requested hsession hframe) hrequested
  refine hforeign ?_
  rw [hsession, ← htoken]
  rfl

/-- The frame was drawn or cancelled. -/
def Gone (drawn : List FrameId) (trace : List (Event B)) (frame : FrameId) : Prop :=
  0 < drawn.count frame + (hostCalls trace).count (.cancelled frame)

theorem Gone.later {trace later : List (Event B)} (h : Gone drawn trace frame)
    (more : List FrameId) (htrace : trace <+: later) : Gone (drawn ++ more) later frame := by
  obtain ⟨events, rfl⟩ := htrace
  unfold Gone at h ⊢
  rw [hostCalls_append, List.count_append, List.count_append]
  omega

theorem Orderly.not_pending (h : Orderly ledger drawn loop) (hgone : Gone drawn loop.trace frame) :
    loop.session.bind (·.frame) ≠ some frame := by
  intro hpending
  have hframes := h.accounts.frames
  rw [hpending] at hframes
  exact Nat.ne_of_gt hgone hframes.back_eq_zero

theorem Orderly.gone_delivered (h : Orderly ledger drawn loop) (frontEnd : FrontEnd) (now : Nat)
    {token : Token} (hrequested : .requestFrame token frame ∈ loop.trace) :
    ∃ more, Orderly ledger (drawn ++ more) (loop.perform frontEnd ledger (.frame frame now)) ∧
      Gone (drawn ++ more) (loop.perform frontEnd ledger (.frame frame now)).trace frame := by
  obtain ⟨_, hnext⟩ | ⟨hstale, hnext⟩ := h.frame frontEnd frame now
  · refine ⟨[frame], hnext, ?_⟩
    unfold Gone
    rw [List.count_append, List.count_singleton_self]
    omega
  · rw [← List.append_nil drawn] at hnext
    refine ⟨[], hnext, Gone.later ?_ [] (loop.trace_perform frontEnd ledger _ h.settled)⟩
    have hheld : loop.session.bind (·.frame) ≠ some frame := by
      intro hpending
      obtain ⟨session, hsession, hframe⟩ := Option.bind_eq_some_iff.1 hpending
      exact hstale ⟨session, hsession, h.isCancelled_session hsession, hframe⟩
    have hback := h.accounts.frames.back_eq_one (requested_pos hrequested) hheld
    exact Nat.lt_of_lt_of_eq Nat.one_pos hback.symm

end

/-- For all runs: the failure counter is exact and below the limit, a pending frame is drawn on
delivery, and a frame of an earlier session or one delivered before is ignored. -/
theorem run_single_flight (frontEnd : FrontEnd) (ledger : Ledger H) (backend : B.State)
    (operations : List Operation) (frame : FrameId) (now : Nat) :
    let start := RenderLoop.idle backend ledger.initial
    let before := start.run frontEnd ledger operations
    let after := before.perform frontEnd ledger (.frame frame now)
    FailuresCounted before ∧ (∃ events, SingleFlight frame before after events) ∧
    (∀ token, .requestFrame token frame ∈ before.trace →
      before.session.map (·.token) ≠ some token → after.trace = before.trace) ∧
    ∀ earlier time later token, operations = earlier ++ .frame frame time :: later →
      .requestFrame token frame ∈ (start.run frontEnd ledger earlier).trace →
      after.trace = before.trace := by
  intro start before after
  have horder : Orderly ledger _ before := Orderly.reached frontEnd ledger backend operations
  have htallied : FailuresCounted before :=
    (FailuresCounted.absent rfl : FailuresCounted start).run (.idle ledger backend) frontEnd
      operations
  obtain ⟨_, events, hflight⟩ := htallied.frame horder frontEnd frame now
  have hignored (hstale : before.session.bind (·.frame) ≠ some frame) :
      after.trace = before.trace := by
    have htrace := hflight.trace
    rw [(hflight.ignored hstale).1, List.append_nil] at htrace
    exact htrace
  refine ⟨htallied, ⟨events, hflight⟩, fun token hrequested hforeign => ?_, ?_⟩
  · exact hignored (htallied.foreign horder hrequested hforeign)
  · intro earlier time later token hoperations hrequested
    have hearlier : Orderly ledger _ (start.run frontEnd ledger earlier) :=
      Orderly.reached frontEnd ledger backend earlier
    obtain ⟨more, hnext, hgone⟩ := hearlier.gone_delivered frontEnd time hrequested
    obtain ⟨hlater, _⟩ := hnext.run frontEnd later
    have hlast : before = ((start.run frontEnd ledger earlier).perform frontEnd ledger
        (.frame frame time)).run frontEnd ledger later := by
      show start.run frontEnd ledger operations = _
      rw [hoperations, RenderLoop.run_append]
      rfl
    refine hignored ?_
    rw [hlast]
    exact hlater.not_pending (hgone.later _ (hnext.trace_run frontEnd later))

end ShaderPreview
