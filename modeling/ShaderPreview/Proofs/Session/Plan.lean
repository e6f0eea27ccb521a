import ShaderPreview.Proofs.Session.Textures
import ShaderPreview.Proofs.Session.Verdict

/-!
# Attempts follow their plan

The calls of an attempt after retirement are a prefix of its plan; the diagnostics are delivered
once, at the end.
-/

namespace ShaderPreview

variable {B : Backend} {H : FrameHost}

/-! ### The events of an attempt -/

/-- Executions of an attempt from the acquisition on, with the final state. -/
inductive AttemptEnds (frontEnd : FrontEnd) (request : RenderRequest) (backend : B.State) :
    List (Event B) → LoopState → Prop
  | unavailable {answer : Answer B.State B.Note Bool}
      (asked : B.acquire request.canvas backend = answer) (value : answer.value = false) :
      AttemptEnds frontEnd request backend
        (answer.events (.acquire request.canvas) ++ [.transition .acquiring .idle]) .idle
  | stopped {answer : Answer B.State B.Note Bool} {events : List (Event B)} {stop : Stop}
      {state : LoopState} {after : B.State}
      (asked : B.acquire request.canvas backend = answer) (value : answer.value = true)
      (prepared : Prepared frontEnd request answer.state events (.error stop) state after) :
      AttemptEnds frontEnd request backend
        (answer.events (.acquire request.canvas) ++
          (events ++ .transition state .idle :: stop.report.toList.map .errors)) .idle
  | running {answer : Answer B.State B.Note Bool} {events : List (Event B)}
      {assembly : Assembly B} {state : LoopState} {after : B.State} (token : Token)
      (frame : FrameId) (observer : ObserverId)
      (asked : B.acquire request.canvas backend = answer) (value : answer.value = true)
      (prepared : Prepared frontEnd request answer.state events (.ok assembly) state after) :
      AttemptEnds frontEnd request backend
        (answer.events (.acquire request.canvas) ++ (events ++
          [.requestFrame token frame, .observeResize observer, .console successLine,
            .errors assembly.diagnostics])) .running

def Turns (events : List (Event B)) : Prop :=
  ∀ event ∈ events, ∃ before, event = .transition before .acquiring

namespace RenderLoop

theorem backend_transition (state : LoopState) (loop : RenderLoop B H) :
    (loop.transition state).backend = loop.backend := by
  unfold transition
  split <;> rfl

theorem backend_retire (loop : RenderLoop B H) : loop.retire.backend = loop.backend := by
  cases h : loop.session with
  | none => rw [retire_none h]
  | some session =>
    cases hf : session.frame <;>
      simp only [retire, h, hf, backend_transition, record]

theorem atAcquire_turns (request : RenderRequest) (loop : RenderLoop B H) :
    ∃ turn, Turns turn ∧ (loop.atAcquire request).trace = loop.retire.trace ++ turn ∧
      (loop.atAcquire request).backend = loop.backend := by
  have hbackend : (loop.atAcquire request).backend = loop.backend := by
    rw [atAcquire, backend_transition]
    exact backend_retire loop
  let retired : RenderLoop B H := { loop.retire with lastRequest := some request }
  by_cases hs : retired.state = .acquiring
  · refine ⟨[], List.forall_mem_nil _, ?_, hbackend⟩
    have hstay : loop.atAcquire request = retired := if_pos hs
    rw [List.append_nil, hstay]
  · refine ⟨[.transition retired.state .acquiring], ?_, ?_, hbackend⟩
    · exact List.forall_mem_singleton.2 ⟨_, rfl⟩
    · exact congrArg RenderLoop.trace (transition_after .acquiring rfl hs)

theorem Attempted.ends {frontEnd : FrontEnd} {request : RenderRequest} {now : Nat}
    {moment next : RenderLoop B H} (h : Attempted frontEnd request now moment next) :
    ∃ events, next.trace = moment.trace ++ events ∧
      AttemptEnds frontEnd request moment.backend events next.state := by
  cases h with
  | unavailable asked value => exact ⟨_, rfl, .unavailable asked value⟩
  | stopped asked value prepared => exact ⟨_, rfl, .stopped asked value prepared⟩
  | @running answer events assembly state backend asked value prepared =>
    let token := moment.tokens.fresh
    let requested := H.request token moment.host
    let connection : List (Event B) := [.requestFrame token requested.1,
      .observeResize (H.observe requested.2).1, .console successLine,
      .errors assembly.diagnostics]
    have hstate : ((moment.after state backend
        (answer.events (.acquire request.canvas) ++ events)).connected assembly request now).state =
        .running := prepared_running prepared
    rw [hstate]
    refine ⟨answer.events (.acquire request.canvas) ++ (events ++ connection), ?_,
      .running token requested.1 (H.observe requested.2).1 asked value prepared⟩
    show moment.trace ++ (answer.events (.acquire request.canvas) ++ events) ++ connection = _
    rw [List.append_assoc, List.append_assoc]

theorem start_ends (frontEnd : FrontEnd) (request : RenderRequest) (now : Nat)
    (loop : RenderLoop B H) : ∃ turn events, Turns turn ∧
      (loop.start frontEnd request now).trace = loop.retire.trace ++ (turn ++ events) ∧
      AttemptEnds frontEnd request loop.backend events
        (loop.start frontEnd request now).state := by
  obtain ⟨turn, hturn, htrace, hbackend⟩ := loop.atAcquire_turns request
  obtain ⟨events, hevents, hends⟩ := (start_attempted frontEnd request now loop).ends
  rw [htrace, List.append_assoc] at hevents
  rw [hbackend] at hends
  exact ⟨turn, events, hturn, hevents, hends⟩

end RenderLoop

/-! ### What the stages called -/

section

variable {frontEnd : FrontEnd} {request : RenderRequest} {before after : B.State}
  {events : List (Event B)} {state : LoopState}

theorem prepared_unrenderable {outcome : Except Stop (Assembly B)}
    (hrefused : (frontEnd.classify request.source).isRenderable = false)
    (h : Prepared frontEnd request before events outcome state after) : calls events = [] := by
  cases h with
  | stopped stops => exact calls_silent (silent_examined stops)
  | continued goes on =>
    cases goes with
    | accepted _ renderable entries =>
      rw [hrefused] at renderable
      cases renderable

theorem prepared_unpopulated {outcome : Except Stop (Assembly B)} (hempty : request.Unpopulated)
    (h : Prepared frontEnd request before events outcome state after) :
    calls events <+: compileCalls (frontEnd.classify request.source).kind request.source := by
  cases h with
  | stopped stops =>
    rw [calls_silent (silent_examined stops)]
    exact List.nil_prefix
  | continued goes on =>
    cases goes with
    | accepted _ renderable entries =>
      rw [calls_append, calls_silent (silent_examined (.accepted before renderable entries)),
        List.nil_append]
      exact assembled_unpopulated renderable hempty on

theorem prepared_done {assembly : Assembly B}
    (h : Prepared frontEnd request before events (.ok assembly) state after) :
    calls events = request.stageCalls (frontEnd.classify request.source).kind ∧ Sound events ∧
      (frontEnd.classify request.source).isRenderable = true ∧ ¬ request.Unpopulated := by
  cases h with
  | continued goes on =>
    cases goes with
    | accepted _ renderable entries =>
      have hsilent := silent_examined (B := B) (.accepted before renderable entries)
      obtain ⟨hcalls, hsound, hmet⟩ := (makes_assembled request renderable _ _).done on
      refine ⟨?_, sound_append hsilent.sound hsound, renderable, hmet⟩
      rw [calls_append, calls_silent hsilent, hcalls, List.nil_append]

theorem prepared_halted {stop : Stop}
    (h : Prepared frontEnd request before events (.error stop) state after) :
    calls events <+: request.stageCalls (frontEnd.classify request.source).kind ∧
      events.Pairwise Halts ∧
      ¬ ((frontEnd.classify request.source).isRenderable = true ∧ ¬ request.Unpopulated ∧
        Sound events) ∧
      ∃ report, stop.report = some report := by
  cases h with
  | stopped stops =>
    have hsilent := silent_examined stops
    refine ⟨?_, halts_silent List.Pairwise.nil hsilent, ?_, ?_⟩
    · rw [calls_silent hsilent]
      exact List.nil_prefix
    · cases stops with
      | refused _ unrenderable =>
        rintro ⟨hrenderable, _⟩
        rw [unrenderable] at hrenderable
        cases hrenderable
    · cases stops with
      | refused => exact ⟨_, rfl⟩
  | continued goes on =>
    cases goes with
    | accepted _ renderable entries =>
      have hsilent := silent_examined (B := B) (.accepted before renderable entries)
      obtain ⟨hinitial, hhalts, hwhy, hreport⟩ :=
        (makes_assembled request renderable _ _).stopped on
      refine ⟨?_, halts_sound hsilent.sound hhalts, ?_, hreport⟩
      · rw [calls_append, calls_silent hsilent, List.nil_append]
        exact hinitial
      · rintro ⟨_, hmet, hsound⟩
        obtain ⟨event, he, hfailed⟩ | hunmet := hwhy
        · rw [hsound event (List.mem_append_right _ he)] at hfailed
          cases hfailed
        · exact hmet hunmet

end

/-! ### The plan -/

/-- Specification of the calls and reports of an attempt: `available` tells whether there is a
device, `running` whether it ends with a session. -/
structure Planned (request : RenderRequest) (classification : Classification) (available : Bool)
    (events : List (Event B)) (running : Prop) : Prop where
  acquired : ∃ turn rest, events = turn ++ .acquire request.canvas available :: rest ∧
    Silent turn
  initial : calls events <+: request.plan classification.kind
  complete : calls events = request.plan classification.kind ↔ running
  halts : events.Pairwise Halts
  succeeds : running ↔
    classification.isRenderable = true ∧ ¬ request.Unpopulated ∧ Sound events
  unrenderable : classification.isRenderable = false → calls events = [.acquire request.canvas]
  unpopulated : request.Unpopulated →
    calls events <+: .acquire request.canvas :: compileCalls classification.kind request.source
  hosted : RenderCall.requestFrame ∈ calls events ∨ RenderCall.observeResize ∈ calls events →
    running
  uploads {channel : Fin channelCount} {image : ChannelImage} :
    (channel, image) ∈ request.uploads ↔
      needsTextures request.source = true ∧ request.channels channel = some image
  ascending : request.uploads.Pairwise fun first second => first.1 < second.1
  bound : BindsLoaded events
  reported : available = true →
    ∃ said batch, events = said ++ [.errors batch] ∧ batches said = []
  unreported : available = false → batches events = []

theorem Turns.silent {events : List (Event B)} (h : Turns events) : Silent events := by
  intro event he
  obtain ⟨before, rfl⟩ := h event he
  rfl

theorem Turns.batches {events : List (Event B)} (h : Turns events) :
    ShaderPreview.batches events = [] := by
  refine batches_stage fun event he => ?_
  obtain ⟨before, rfl⟩ := h event he
  rfl

theorem stageCalls_host (request : RenderRequest) (kind : ShaderKind) :
    RenderCall.requestFrame ∉ request.stageCalls kind ∧
      RenderCall.observeResize ∉ request.stageCalls kind := by
  by_cases hk : kind = .fragmentOnly <;>
    simp [RenderRequest.stageCalls, compileCalls, RenderRequest.bindCalls, hk]

section

variable {frontEnd : FrontEnd} {request : RenderRequest} {turn : List (Event B)}

theorem calls_acquired (hturn : Turns turn) (answer : Answer B.State B.Note Bool)
    (canvas : CanvasSize) (rest : List (Event B)) :
    calls (turn ++ (answer.events (.acquire canvas) ++ rest)) = .acquire canvas :: calls rest := by
  rw [calls_append, calls_append, calls_silent hturn.silent, calls_answer]
  rfl

theorem ends_calls {backend : B.State} {events : List (Event B)} {state : LoopState}
    (hturn : Turns turn) (h : AttemptEnds frontEnd request backend events state) :
    .acquire request.canvas ∈ calls (turn ++ events) ∧
      calls (turn ++ events) <+: request.plan (frontEnd.classify request.source).kind := by
  have hplan : request.plan (frontEnd.classify request.source).kind = .acquire request.canvas ::
      (request.stageCalls (frontEnd.classify request.source).kind ++
        [.requestFrame, .observeResize]) := rfl
  cases h with
  | unavailable =>
    rw [calls_acquired hturn, hplan]
    exact ⟨List.mem_cons_self, (List.prefix_cons_inj _).2 List.nil_prefix⟩
  | @stopped answer stages stop mid after asked value prepared =>
    have htail : Silent (.transition mid .idle :: stop.report.toList.map (Event.errors (B := B))) :=
      List.forall_mem_cons.2 ⟨rfl, silent_reports _⟩
    have hstages := (prepared_halted prepared).1
    rw [calls_acquired hturn, calls_append, calls_silent htail, List.append_nil, hplan]
    exact ⟨List.mem_cons_self,
      (List.prefix_cons_inj _).2 (hstages.trans (List.prefix_append _ _))⟩
  | running token frame observer asked value prepared =>
    have hstages := (prepared_done prepared).1
    rw [calls_acquired hturn, calls_append, hstages]
    exact ⟨List.mem_cons_self, List.prefix_refl _⟩

theorem batches_acquired (hturn : Turns turn) (answer : Answer B.State B.Note Bool)
    (canvas : CanvasSize) (rest : List (Event B)) :
    batches (turn ++ (answer.events (.acquire canvas) ++ rest)) = batches rest := by
  rw [batches_append, batches_append, hturn.batches, batches_acquire]
  rfl

theorem planned_idle {classification : Classification} (hturn : Turns turn)
    (answer : Answer B.State B.Note Bool) (stages tail : List (Event B))
    (hhead : (answer.events (.acquire request.canvas) ++ stages).Pairwise Halts)
    (hcalls : calls stages <+: request.stageCalls classification.kind) (htail : Silent tail)
    (hrefused : classification.isRenderable = false → calls stages = [])
    (hempty : request.Unpopulated →
      calls stages <+: compileCalls classification.kind request.source)
    (hwhy : ¬ (classification.isRenderable = true ∧ ¬ request.Unpopulated ∧
      Sound (answer.events (.acquire request.canvas) ++ stages)))
    (hbound : BindsLoaded stages)
    (hreported : answer.value = true →
      ∃ said batch, stages ++ tail = said ++ [.errors batch] ∧ batches said = [])
    (hunreported : answer.value = false → batches (stages ++ tail) = []) :
    Planned request classification answer.value
      (turn ++ (answer.events (.acquire request.canvas) ++ (stages ++ tail))) False := by
  have hall : calls (turn ++ (answer.events (.acquire request.canvas) ++ (stages ++ tail))) =
      .acquire request.canvas :: calls stages := by
    rw [calls_acquired hturn, calls_append, calls_silent htail, List.append_nil]
  have hplan : request.plan classification.kind = .acquire request.canvas ::
      (request.stageCalls classification.kind ++ [.requestFrame, .observeResize]) := rfl
  have hhost := stageCalls_host request classification.kind
  refine ⟨⟨turn, _, rfl, hturn.silent⟩, ?_, ?_, ?_, ?_, ?_, ?_, ?_, RenderRequest.mem_uploads,
    request.uploads_ascending, ?_, ?_, ?_⟩
  · rw [hall, hplan]
    exact (List.prefix_cons_inj _).2 (hcalls.trans (List.prefix_append _ _))
  · rw [hall, hplan]
    refine iff_false_intro fun heq => hhost.1 (hcalls.subset ?_)
    rw [(List.cons.inj heq).2]
    exact List.mem_append_right _ List.mem_cons_self
  · rw [← List.append_assoc _ stages tail]
    exact halts_sound hturn.silent.sound (halts_silent hhead htail)
  · refine iff_of_false not_false fun hwell => hwhy ⟨hwell.1, hwell.2.1, fun event he => ?_⟩
    refine hwell.2.2 event (List.mem_append_right _ ?_)
    rw [← List.append_assoc]
    exact List.mem_append_left _ he
  · intro hr
    rw [hall, hrefused hr]
  · intro hu
    rw [hall]
    exact (List.prefix_cons_inj _).2 (hempty hu)
  · rw [hall]
    rintro (hmem | hmem)
    · obtain heq | hmem := List.mem_cons.1 hmem
      · cases heq
      · exact hhost.1 (hcalls.subset hmem)
    · obtain heq | hmem := List.mem_cons.1 hmem
      · cases heq
      · exact hhost.2 (hcalls.subset hmem)
  · rw [← List.append_assoc, ← List.append_assoc]
    refine hbound.around _ _ ?_ (isTexture_silent htail)
    exact List.forall_mem_append.2 ⟨isTexture_silent hturn.silent, isTexture_answer rfl⟩
  · intro havailable
    obtain ⟨said, batch, heq, hnone⟩ := hreported havailable
    refine ⟨turn ++ (answer.events (.acquire request.canvas) ++ said), batch, ?_, ?_⟩
    · rw [heq]
      simp only [List.append_assoc]
    · rw [batches_acquired hturn, hnone]
  · intro hmissing
    rw [batches_acquired hturn, hunreported hmissing]

theorem planned_running {classification : Classification} (hturn : Turns turn)
    (answer : Answer B.State B.Note Bool) (havailable : answer.value = true)
    {stages : List (Event B)} (token : Token) (frame : FrameId) (observer : ObserverId)
    (batch : List Diagnostic)
    (hcalls : calls stages = request.stageCalls classification.kind) (hsound : Sound stages)
    (hrenderable : classification.isRenderable = true) (hmet : ¬ request.Unpopulated)
    (hbound : BindsLoaded stages) (hstages : batches stages = []) :
    Planned request classification answer.value
      (turn ++ (answer.events (.acquire request.canvas) ++ (stages ++
        [.requestFrame token frame, .observeResize observer, .console successLine,
          .errors batch]))) True := by
  have hacquire : Sound (answer.events (.acquire request.canvas)) := by
    refine sound_answer ?_
    rw [havailable]
    rfl
  have hconnection : Sound [Event.requestFrame (B := B) token frame, .observeResize observer,
      .console successLine, .errors batch] := by
    intro event he
    simp only [List.mem_cons, List.not_mem_nil, or_false] at he
    obtain rfl | rfl | rfl | rfl := he <;> rfl
  have hwell := sound_append hturn.silent.sound
    (sound_append hacquire (sound_append hsound hconnection))
  have hall : calls (turn ++ (answer.events (.acquire request.canvas) ++ (stages ++
      [.requestFrame token frame, .observeResize observer, .console successLine,
        .errors batch]))) = request.plan classification.kind := by
    rw [calls_acquired hturn, calls_append, hcalls]
    rfl
  refine ⟨⟨turn, _, rfl, hturn.silent⟩, ?_, iff_true_intro hall, ?_, ?_, ?_, ?_,
    fun _ => trivial, RenderRequest.mem_uploads, request.uploads_ascending, ?_, ?_, ?_⟩
  · exact hall ▸ List.prefix_refl _
  · have hhalts := halts_sound hwell (List.Pairwise.nil (R := Halts (B := B)))
    rwa [List.append_nil] at hhalts
  · exact iff_of_true trivial ⟨hrenderable, hmet, hwell⟩
  · intro hrefused
    rw [hrenderable] at hrefused
    cases hrefused
  · exact fun hempty => absurd hempty hmet
  · rw [← List.append_assoc, ← List.append_assoc]
    refine hbound.around _ _ ?_ ?_
    · exact List.forall_mem_append.2 ⟨isTexture_silent hturn.silent, isTexture_answer rfl⟩
    · intro event he
      simp only [List.mem_cons, List.not_mem_nil, or_false] at he
      obtain rfl | rfl | rfl | rfl := he <;> rfl
  · intro _
    refine ⟨turn ++ (answer.events (.acquire request.canvas) ++ (stages ++
      [.requestFrame token frame, .observeResize observer, .console successLine])), batch, ?_, ?_⟩
    · simp only [List.append_assoc, List.cons_append, List.nil_append]
    · rw [batches_acquired hturn, batches_append, hstages]
      rfl
  · intro hmissing
    rw [havailable] at hmissing
    cases hmissing

end

/-- The calls of an attempt after retirement are a prefix of the plan, and the whole plan exactly if
the session is running at the end. It stops early only for an invalid shader, a missing channel 0 or
a failed call, and no call follows a failed stage. Diagnostics are delivered once, at the end, if
and only if there is a device. -/
theorem attempt_planned (frontEnd : FrontEnd) (request : RenderRequest) (now : Nat)
    (loop : RenderLoop B H) :
    let next := loop.start frontEnd request now
    ∃ events, next.trace = loop.retire.trace ++ events ∧
      Planned request (frontEnd.classify request.source)
        (B.acquire request.canvas loop.backend).value events (next.state = .running) := by
  intro next
  obtain ⟨turn, events, hturn, htrace, hends⟩ := loop.start_ends frontEnd request now
  refine ⟨turn ++ events, htrace, ?_⟩
  have hidle : (LoopState.idle = .running) = False := eq_false (by decide)
  have hstate : (loop.start frontEnd request now).state = next.state := rfl
  rw [hstate] at hends
  generalize next.state = state at hends
  cases hends with
  | @unavailable answer asked value =>
    have hfailed : (Event.acquire (B := B) request.canvas answer.value).failed = true := by
      rw [value]
      rfl
    have hnot : ¬ Sound (answer.events (.acquire request.canvas) ++ []) := by
      intro hsound
      rw [hsound _ (List.mem_append_left _ List.mem_cons_self)] at hfailed
      cases hfailed
    rw [asked, hidle]
    refine planned_idle hturn answer [] [.transition .acquiring .idle] ?_ List.nil_prefix
      (List.forall_mem_singleton.2 rfl) (fun _ => rfl) (fun _ => List.nil_prefix)
      (fun hwell => hnot hwell.2.2) (bindsLoaded_none nofun) ?_ (fun _ => rfl)
    · rw [List.append_nil]
      exact halts_answer _ _
    · intro havailable
      rw [value] at havailable
      cases havailable
  | @stopped answer stages stop mid after asked value prepared =>
    obtain ⟨hcalls, hhalts, hwhy, report, hreport⟩ := prepared_halted prepared
    have hacquire : Sound (answer.events (.acquire request.canvas)) := by
      refine sound_answer ?_
      rw [value]
      rfl
    have hstages := batches_stage (inner_prepared frontEnd request prepared).1
    rw [asked, hreport, hidle]
    refine planned_idle hturn answer stages [.transition mid .idle, .errors report]
      (halts_sound hacquire hhalts) hcalls
      (List.forall_mem_cons.2 ⟨rfl, silent_reports [report]⟩)
      (fun hrefused => prepared_unrenderable hrefused prepared)
      (fun hempty => prepared_unpopulated hempty prepared) ?_
      (binds_prepared frontEnd request prepared) ?_ ?_
    · rintro ⟨hrenderable, hmet, hsound⟩
      exact hwhy ⟨hrenderable, hmet, fun event he => hsound event (List.mem_append_right _ he)⟩
    · refine fun _ => ⟨stages ++ [.transition mid .idle], report, ?_, ?_⟩
      · simp only [List.append_assoc, List.cons_append, List.nil_append]
      · rw [batches_append, hstages]
        rfl
    · intro hmissing
      rw [value] at hmissing
      cases hmissing
  | @running answer stages assembly mid after token frame observer asked value prepared =>
    obtain ⟨hcalls, hsound, hrenderable, hmet⟩ := prepared_done prepared
    rw [asked, eq_self]
    exact planned_running hturn answer value token frame observer assembly.diagnostics hcalls
      hsound hrenderable hmet (binds_prepared frontEnd request prepared)
      (batches_stage (inner_prepared frontEnd request prepared).1)

end ShaderPreview
