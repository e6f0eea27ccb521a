import ShaderPreview.Proofs.Session.Memory
import ShaderPreview.Proofs.Session.Plan

/-!
# State transitions

The transitions of every run form a path of the state machine of SPEC_FULL.md, section 4.7, composed
from the paths of the operations and of the stages.
-/

namespace ShaderPreview

variable {B : Backend} {H : FrameHost}

/-! ### The machine -/

inductive LoopState.Step : LoopState → LoopState → Prop
  | begun : Step .idle .acquiring
  | acquired : Step .acquiring .compiling
  | unavailable : Step .acquiring .idle
  | compiled : Step .compiling .binding
  | refused : Step .compiling .idle
  | bound : Step .binding .running
  | unbound : Step .binding .idle
  | aborted : Step .running .idle
  | retiring : Step .running .retiring
  | retired : Step .retiring .idle

/-- Transitions of the stages. -/
inductive LoopState.Ascent : LoopState → LoopState → Prop
  | acquired : Ascent .acquiring .compiling
  | compiled : Ascent .compiling .binding
  | bound : Ascent .binding .running

theorem LoopState.Ascent.step {before after : LoopState} (h : Ascent before after) :
    Step before after := by
  cases h with
  | acquired => exact .acquired
  | compiled => exact .compiled
  | bound => exact .bound

def Event.isChange : Event B → Bool
  | .transition .. => true
  | _ => false

/-- The transitions among the events form a path of the state machine between two states. -/
inductive Leads (Step : LoopState → LoopState → Prop) :
    LoopState → List (Event B) → LoopState → Prop
  | done (state : LoopState) : Leads Step state [] state
  | change {before between after : LoopState} {events : List (Event B)}
      (step : Step before between) (rest : Leads Step between events after) :
      Leads Step before (.transition before between :: events) after
  | other {before after : LoopState} {event : Event B} {events : List (Event B)}
      (still : event.isChange = false) (rest : Leads Step before events after) :
      Leads Step before (event :: events) after

section

variable {Step Other : LoopState → LoopState → Prop} {before between after : LoopState}
  {events later : List (Event B)}

theorem Leads.append (h₁ : Leads Step before events between) (h₂ : Leads Step between later after) :
    Leads Step before (events ++ later) after := by
  induction h₁ with
  | done => exact h₂
  | change step _ ih => exact .change step (ih h₂)
  | other still _ ih => exact .other still (ih h₂)

theorem Leads.mono (h : Leads Step before events after)
    (hmono : ∀ {s t}, Step s t → Other s t) : Leads Other before events after := by
  induction h with
  | done state => exact .done state
  | change step _ ih => exact .change (hmono step) ih
  | other still _ ih => exact .other still ih

theorem Leads.step_of_mem (h : Leads Step before events after) {s t : LoopState}
    (hmem : .transition s t ∈ events) : Step s t := by
  induction h with
  | done => cases hmem
  | change step _ ih =>
    obtain heq | hrest := List.mem_cons.1 hmem
    · cases heq
      exact step
    · exact ih hrest
  | other still _ ih =>
    obtain rfl | hrest := List.mem_cons.1 hmem
    · cases still
    · exact ih hrest

theorem leads_still (state : LoopState) (h : ∀ event ∈ events, event.isChange = false) :
    Leads Step state events state := by
  induction events with
  | nil => exact .done state
  | cons event events ih =>
    obtain ⟨hevent, hevents⟩ := List.forall_mem_cons.1 h
    exact .other hevent (ih hevents)

theorem still_lines (lines : List String) :
    ∀ event ∈ lines.map (Event.console (B := B)), event.isChange = false :=
  List.forall_mem_map.2 fun _ _ => rfl

theorem still_answer {α : Type} {answer : Answer B.State B.Note α} {call : α → Event B}
    (h : (call answer.value).isChange = false) :
    ∀ event ∈ answer.events call, event.isChange = false :=
  List.forall_mem_cons.2 ⟨h, List.forall_mem_map.2 fun _ _ => rfl⟩

theorem still_reports (stop : Stop) :
    ∀ event ∈ stop.report.toList.map (Event.errors (B := B)), event.isChange = false :=
  List.forall_mem_map.2 fun _ _ => rfl

end

/-! ### The path of an attempt -/

/-- From this state on, all transitions are stage transitions. -/
def Ascends {α : Type} (start : LoopState) (course : Course B α) : Prop :=
  ∀ ⦃before events outcome state after⦄, course before events outcome state after →
    Leads LoopState.Ascent start events state

section

variable {α β : Type} {start middle : LoopState}

theorem ascends_then {first : Course B α} {second : α → Course B β} (h₁ : Ascends start first)
    (hmiddle : ∀ {before events a state after}, first before events (.ok a) state after →
      state = middle)
    (h₂ : ∀ a, Ascends middle (second a)) : Ascends start (Then first second) := by
  intro before events outcome state after h
  cases h with
  | stopped stops => exact h₁ stops
  | continued goes on =>
    have hfirst := h₁ goes
    rw [hmiddle goes] at hfirst
    exact hfirst.append (h₂ _ on)

theorem ascends_mapped {f : α → β} {course : Course B α} (h : Ascends start course) :
    Ascends start (Mapped f course) := by
  intro before events outcome state after hm
  obtain ⟨result, hcourse, _⟩ := hm
  exact h hcourse

theorem ascends_examined (frontEnd : FrontEnd) (source : String) :
    Ascends .acquiring (Examined (B := B) frontEnd source) := by
  intro before events outcome state after h
  cases h with
  | accepted => exact .change .acquired (leads_still _ (still_lines _))
  | refused => exact .change .acquired (leads_still _ (still_lines _))

theorem still_judged {user : Compilation B.Module} {fullscreen : Option (Compilation B.Module)}
    {events : List (Event B)} {outcome : Except Stop (B.Module × B.Module × List Diagnostic)}
    (h : Judged user fullscreen events outcome) : ∀ event ∈ events, event.isChange = false := by
  cases h with
  | refused => exact still_lines ["Shader compilation failed."]
  | missing => exact still_lines []
  | passed => exact still_lines []

theorem ascends_compiled (kind : ShaderKind) (source : String) :
    Ascends .compiling (Compiled (B := B) kind source) := by
  intro before events outcome state after h
  cases h with
  | own _ _ judged =>
    exact leads_still _ (List.forall_mem_append.2 ⟨still_answer rfl, still_judged judged⟩)
  | supplied _ _ _ judged =>
    exact leads_still _ (List.forall_mem_append.2
      ⟨List.forall_mem_append.2 ⟨still_answer rfl, still_answer rfl⟩, still_judged judged⟩)

theorem still_loaded {images : List (Fin channelCount × ChannelImage)}
    {textures : PerChannel (Option B.Texture)} {before after : B.State} {events : List (Event B)}
    {outcome : Except Stop (PerChannel (Option B.Texture))}
    (h : Loaded images textures before events outcome after) :
    ∀ event ∈ events, event.isChange = false := by
  induction h with
  | done => exact still_lines []
  | failed => exact still_answer rfl
  | next _ _ _ ih => exact List.forall_mem_append.2 ⟨still_answer rfl, ih⟩

theorem ascends_bound (request : RenderRequest) (diagnostics : List Diagnostic) :
    Ascends .compiling (Bound (B := B) request diagnostics) := by
  intro before events outcome state after h
  cases h with
  | unpopulated => exact .change .compiled (leads_still _ (still_lines [missingFirstChannel]))
  | unloaded _ loaded => exact .change .compiled (leads_still _ (still_loaded loaded))
  | bound _ loaded _ =>
    exact .change .compiled
      (leads_still _ (List.forall_mem_append.2 ⟨still_loaded loaded, still_answer rfl⟩))

theorem ascends_uploaded (vertices : Option VertexData) :
    Ascends .binding (Uploaded (B := B) vertices) := by
  intro before events outcome state after h
  cases h with
  | absent => exact .done _
  | present => exact leads_still _ (still_answer rfl)

theorem ascends_built (stages : PipelineStages B.Module) (resources : B.Resources) :
    Ascends .binding (Built stages resources) := by
  intro before events outcome state after h
  cases h with
  | failed => exact .change .bound (leads_still _ (still_answer rfl))
  | invalid =>
    exact .change .bound
      (leads_still _ (List.forall_mem_append.2 ⟨still_answer rfl, still_answer rfl⟩))
  | built =>
    exact .change .bound
      (leads_still _ (List.forall_mem_append.2 ⟨still_answer rfl, still_answer rfl⟩))

theorem ascends_prepared (frontEnd : FrontEnd) (request : RenderRequest) :
    Ascends .acquiring (Prepared (B := B) frontEnd request) := by
  refine ascends_then (ascends_examined _ _) examined_state fun examined => ?_
  refine ascends_then (ascends_compiled _ _) compiled_state fun compiled => ?_
  refine ascends_then (ascends_bound _ _) bound_state fun resources => ?_
  exact ascends_then (ascends_uploaded _) uploaded_state fun vertices =>
    ascends_mapped (ascends_built _ _)

end

/-- A failed pipeline creation or a captured validation error. -/
def Event.isPipelineFault : Event B → Bool
  | .buildPipeline _ _ (.error _) | .takeValidationError (some _) => true
  | _ => false

theorem built_fault {stages : PipelineStages B.Module} {resources : B.Resources}
    {before after : B.State} {events : List (Event B)} {stop : Stop} {state : LoopState}
    (h : Built stages resources before events (.error stop) state after) :
    ∃ fault ∈ events, fault.isPipelineFault = true := by
  cases h with
  | @failed answer failure called value =>
    refine ⟨.buildPipeline stages resources (.error failure), ?_, rfl⟩
    rw [Answer.events, value]
    exact List.mem_cons_of_mem _ List.mem_cons_self
  | @invalid answer pipeline check error called value checked noted =>
    refine ⟨.takeValidationError (some error), List.mem_append_right _ ?_, rfl⟩
    rw [Answer.events, noted]
    exact List.mem_cons_self

theorem prepared_fault {frontEnd : FrontEnd} {request : RenderRequest} {before after : B.State}
    {events : List (Event B)} {stop : Stop}
    (h : Prepared frontEnd request before events (.error stop) .running after) :
    ∃ fault ∈ events, fault.isPipelineFault = true := by
  have hlater {earlier later : List (Event B)}
      (hfault : ∃ fault ∈ later, fault.isPipelineFault = true) :
      ∃ fault ∈ earlier ++ later, fault.isPipelineFault = true := by
    obtain ⟨fault, hmem, hkind⟩ := hfault
    exact ⟨fault, List.mem_append_right _ hmem, hkind⟩
  obtain stops | ⟨_, hassembled⟩ := h
  · cases examined_state stops
  obtain stops | ⟨_, hbinds⟩ := hassembled
  · cases compiled_state stops
  obtain stops | ⟨_, huploads⟩ := hbinds
  · cases bound_state stops
  obtain stops | ⟨_, hbuilds⟩ := huploads
  · cases uploaded_state stops
  obtain ⟨outcome, hbuilt, hmapped⟩ := hbuilds
  cases outcome with
  | ok pipeline => cases hmapped
  | error other => exact hlater (hlater (hlater (hlater (built_fault hbuilt))))

/-! ### The path of an operation -/

/-- Transitions of an attempt after acquisition. -/
def LoopState.AttemptStep (before after : LoopState) : Prop :=
  before.Step after ∧ after ≠ .retiring

section

variable {frontEnd : FrontEnd} {request : RenderRequest} {backend : B.State}
  {events earlier later : List (Event B)} {state : LoopState}

theorem LoopState.Ascent.attemptStep {before after : LoopState} (h : Ascent before after) :
    AttemptStep before after := by
  refine ⟨h.step, ?_⟩
  cases h <;> decide

theorem fall_of_ascent (h : Leads LoopState.Ascent .acquiring events state) :
    state.AttemptStep .idle := by
  have hlast {before after : LoopState} {events : List (Event B)}
      (h : Leads LoopState.Ascent before events after) (hbefore : before.AttemptStep .idle) :
      after.AttemptStep .idle := by
    induction h with
    | done => exact hbefore
    | change step _ ih =>
      refine ih ?_
      cases step with
      | acquired => exact ⟨.refused, nofun⟩
      | compiled => exact ⟨.unbound, nofun⟩
      | bound => exact ⟨.aborted, nofun⟩
    | other _ _ ih => exact ih hbefore
  exact hlast h ⟨.unavailable, nofun⟩

theorem ends_leads (h : AttemptEnds frontEnd request backend events state) :
    Leads LoopState.AttemptStep .acquiring events state := by
  cases h with
  | unavailable =>
    exact (leads_still _ (still_answer rfl)).append (.change ⟨.unavailable, nofun⟩ (.done _))
  | stopped _ _ prepared =>
    have hclimbs := ascends_prepared frontEnd request prepared
    refine (leads_still _ (still_answer rfl)).append ?_
    refine (hclimbs.mono LoopState.Ascent.attemptStep).append ?_
    exact .change (fall_of_ascent hclimbs) (leads_still _ (still_reports _))
  | running _ _ _ _ _ prepared =>
    have hclimbs := ascends_prepared frontEnd request prepared
    rw [prepared_running prepared] at hclimbs
    refine (leads_still _ (still_answer rfl)).append ?_
    refine (hclimbs.mono LoopState.Ascent.attemptStep).append (leads_still _ ?_)
    simp [Event.isChange]

theorem ends_rest (h : AttemptEnds frontEnd request backend events state) :
    state = .idle ∨ state = .running := by
  cases h with
  | unavailable => exact .inl rfl
  | stopped => exact .inl rfl
  | running => exact .inr rfl

theorem split_later {α : Type} {first second earlier later : List α} {a : α} (hfirst : a ∉ first)
    (h : first ++ second = earlier ++ a :: later) :
    ∃ between, earlier = first ++ between ∧ second = between ++ a :: later := by
  obtain ⟨between, hearlier, hsecond⟩ | ⟨between, hsplit, hlater⟩ := List.append_eq_append_iff.1 h
  · exact ⟨between, hearlier, hsecond⟩
  · cases between with
    | nil => exact ⟨[], by simpa using hsplit.symm, hlater.symm⟩
    | cons b between =>
      obtain ⟨rfl, _⟩ := List.cons.inj hlater
      exact absurd (hsplit ▸ List.mem_append_cons_self) hfirst

theorem not_mem_of_still {before after : LoopState}
    (h : ∀ event ∈ events, event.isChange = false) : .transition before after ∉ events :=
  fun hmem => Bool.noConfusion (h _ hmem)

theorem ends_aborted (h : AttemptEnds frontEnd request backend events state)
    (hsplit : events = earlier ++ .transition .running .idle :: later) :
    ∃ available attempt, earlier = .acquire request.canvas available :: attempt ∧
      ∃ fault ∈ attempt, fault.isPipelineFault = true := by
  have hanswer (answer : Answer B.State B.Note Bool) : (.transition .running .idle : Event B) ∉
      answer.events (.acquire request.canvas) := not_mem_of_still (still_answer rfl)
  have hpart {part : List (Event B)} {outcome : Except Stop (Assembly B)} {before after : B.State}
      {top : LoopState} (prepared : Prepared frontEnd request before part outcome top after) :
      (.transition .running .idle : Event B) ∉ part := fun hmem =>
    nomatch (ascends_prepared frontEnd request prepared).step_of_mem hmem
  cases h with
  | @unavailable answer =>
    obtain ⟨between, _, hsecond⟩ := split_later (hanswer answer) hsplit
    have hmem : (.transition .running .idle : Event B) ∈ [.transition .acquiring .idle] :=
      hsecond ▸ List.mem_append_cons_self
    cases List.mem_singleton.1 hmem
  | @stopped answer part stop top after _ _ prepared =>
    obtain ⟨between, hearlier, hsecond⟩ := split_later (hanswer answer) hsplit
    obtain ⟨inner, hbetween, htail⟩ := split_later (hpart prepared) hsecond
    -- the fall is the change of state right behind the stages, as reports change no state
    cases inner with
    | cons event inner =>
      have hmem : (.transition .running .idle : Event B) ∈
          stop.report.toList.map (Event.errors (B := B)) := by
        rw [(List.cons.inj htail).2]
        exact List.mem_append_cons_self
      exact absurd hmem (not_mem_of_still (still_reports stop))
    | nil =>
      obtain ⟨heq, _⟩ := List.cons.inj htail
      cases heq
      obtain ⟨fault, hmem, hfault⟩ := prepared_fault prepared
      rw [List.append_nil] at hbetween
      subst hbetween
      exact ⟨_, _, hearlier, fault, List.mem_append_right _ hmem, hfault⟩
  | @running answer part assembly top after token frame observer _ _ prepared =>
    obtain ⟨between, _, hsecond⟩ := split_later (hanswer answer) hsplit
    obtain ⟨inner, _, htail⟩ := split_later (hpart prepared) hsecond
    have hmem : (.transition .running .idle : Event B) ∈ [.requestFrame token frame,
        .observeResize observer, .console successLine, .errors assembly.diagnostics] :=
      htail ▸ List.mem_append_cons_self
    simp at hmem

theorem leads_retirement (session : Session B) :
    Leads LoopState.Step .running session.retirement .idle := by
  refine .change .retiring ?_
  have hgiven : ∀ event ∈ session.frame.toList.map (Event.cancelFrame (B := B)),
      event.isChange = false := List.forall_mem_map.2 fun _ _ => rfl
  exact (leads_still _ hgiven).append (.other rfl (.change .retired (.done _)))

theorem not_mem_retirement (session : Session B) :
    (.transition .running .idle : Event B) ∉ session.retirement := by
  cases hf : session.frame <;> simp [Session.retirement, hf]

theorem retirement_split {session : Session B} {rest : List (Event B)}
    (hrest : ∀ before, .transition before .retiring ∉ rest)
    (h : session.retirement ++ rest = earlier ++ .transition state .retiring :: later) :
    .transition state .retiring :: later = session.retirement ++ rest := by
  cases earlier with
  | nil => exact h.symm
  | cons event earlier =>
    obtain ⟨_, htail⟩ := List.cons.inj h
    have hmem : (.transition state .retiring : Event B) ∈
        earlier ++ .transition state .retiring :: later :=
      List.mem_append_cons_self
    rw [show earlier ++ _ :: later = _ from htail.symm] at hmem
    obtain hmem | hmem := List.mem_append.1 hmem
    · cases hf : session.frame <;> simp [hf] at hmem
    · exact absurd hmem (hrest state)

end

/-- State changes of one operation: a fall from `running` to `idle` only in an attempt whose
pipeline failed, and `retiring` only for an existing session. -/
structure Disciplined (operation : Operation) (before after : RenderLoop B H)
    (events : List (Event B)) : Prop where
  trace : after.trace = before.trace ++ events
  leads : Leads LoopState.Step before.state events after.state
  rests : after.state = .idle ∨ after.state = .running
  aborted {earlier later : List (Event B)} :
    events = earlier ++ .transition .running .idle :: later →
    ∃ request turn available attempt, before.attempt? operation = some request ∧
      earlier = turn ++ .acquire request.canvas available :: attempt ∧
      ∃ fault ∈ attempt, fault.isPipelineFault = true
  retiring {state : LoopState} {earlier later : List (Event B)} :
    events = earlier ++ .transition state .retiring :: later →
    ∃ session frame rest, before.session = some session ∧
      .transition state .retiring :: later =
        Session.retirement { session with frame := frame } ++ rest

namespace Disciplined

variable {operation : Operation} {before after : RenderLoop B H} {events : List (Event B)}

theorem of_still (htrace : after.trace = before.trace ++ events)
    (hevents : ∀ event ∈ events, event.isChange = false) (hstate : after.state = before.state)
    (hsettled : before.Settled) : Disciplined operation before after events where
  trace := htrace
  leads := by
    rw [hstate]
    exact leads_still _ hevents
  rests := by
    rw [hstate]
    cases hsettled with
    | idle absent state => exact .inl state
    | running present state waits => exact .inr state
  aborted hsplit :=
    absurd (hsplit ▸ List.mem_append_cons_self) (not_mem_of_still hevents)
  retiring hsplit :=
    absurd (hsplit ▸ List.mem_append_cons_self) (not_mem_of_still hevents)

theorem of_retirement {session : Session B} (frame : Option FrameId) {draws : List (Event B)}
    (hsession : before.session = some session) (hsettled : before.Settled)
    (hdraws : ∀ event ∈ draws, event.isChange = false)
    (htrace : after.trace = before.trace ++
      (draws ++ Session.retirement { session with frame := frame }))
    (hstate : after.state = .idle) :
    Disciplined operation before after
      (draws ++ Session.retirement { session with frame := frame }) where
  trace := htrace
  leads := by
    rw [hstate, hsettled.state_running (by rw [hsession]; rfl)]
    exact (leads_still _ hdraws).append (leads_retirement _)
  rests := .inl hstate
  aborted {earlier later} hsplit := by
    have hmem : (.transition .running .idle : Event B) ∈
        draws ++ Session.retirement { session with frame := frame } :=
      hsplit ▸ List.mem_append_cons_self
    obtain hmem | hmem := List.mem_append.1 hmem
    · exact absurd hmem (not_mem_of_still hdraws)
    · exact absurd hmem (not_mem_retirement _)
  retiring {state earlier later} hsplit := by
    obtain ⟨between, _, hsecond⟩ := split_later (not_mem_of_still hdraws) hsplit
    refine ⟨session, frame, [], hsession, ?_⟩
    rw [← List.append_nil (Session.retirement _)] at hsecond
    exact retirement_split nofun hsecond

theorem stop (hsettled : before.Settled) :
    ∃ events, Disciplined operation before before.retire events := by
  cases hsession : before.session with
  | none =>
    rw [RenderLoop.retire_none hsession]
    exact ⟨[], .of_still (List.append_nil _).symm nofun rfl hsettled⟩
  | some session =>
    have hstate := hsettled.state_running (by rw [hsession]; rfl)
    have hnone : ∀ event ∈ ([] : List (Event B)), event.isChange = false := nofun
    refine ⟨_, of_retirement session.frame hsession hsettled hnone ?_ hsettled.retire.2⟩
    rw [RenderLoop.retire_running hsession hstate]
    rfl

theorem start (hsettled : before.Settled) (frontEnd : FrontEnd) {request : RenderRequest}
    (hattempt : before.attempt? operation = some request) (now : Nat) :
    ∃ events, Disciplined operation before (before.start frontEnd request now) events := by
  obtain ⟨events, htrace, hends⟩ :=
    (RenderLoop.start_attempted frontEnd request now before).ends
  have hleads := ends_leads hends
  have hmono : Leads LoopState.Step .acquiring events (before.start frontEnd request now).state :=
    hleads.mono fun hstep => hstep.1
  rw [hsettled.atAcquire_trace, List.append_assoc, List.append_assoc] at htrace
  have hunretired (state : LoopState) : .transition state .retiring ∉
      (.transition .idle .acquiring :: events : List (Event B)) := by
    rintro (_ | ⟨_, hmem⟩)
    exact (hleads.step_of_mem hmem).2 rfl
  have haborted {earlier later : List (Event B)}
      (hsplit : .transition .idle .acquiring :: events =
        earlier ++ .transition .running .idle :: later) :
      ∃ available attempt,
        earlier = .transition .idle .acquiring :: .acquire request.canvas available :: attempt ∧
        ∃ fault ∈ attempt, fault.isPipelineFault = true := by
    cases earlier with
    | nil => cases (List.cons.inj hsplit).1
    | cons event earlier =>
      obtain ⟨rfl, htail⟩ := List.cons.inj hsplit
      obtain ⟨available, attempt, rfl, hfault⟩ := ends_aborted hends htail
      exact ⟨available, attempt, rfl, hfault⟩
  cases hsession : before.session with
  | none =>
    rw [hsession] at htrace
    refine ⟨.transition .idle .acquiring :: events, htrace, ?_, ends_rest hends, ?_, ?_⟩
    · cases hsettled with
      | idle absent state =>
        rw [state]
        exact .change .begun hmono
      | running present state waits => cases hsession.symm.trans present
    · intro earlier later hsplit
      obtain ⟨available, attempt, hearlier, hfault⟩ := haborted hsplit
      exact ⟨request, [_], available, attempt, hattempt, hearlier, hfault⟩
    · intro state earlier later hsplit
      exact absurd (hsplit ▸ List.mem_append_cons_self) (hunretired state)
  | some session =>
    rw [hsession] at htrace
    refine ⟨session.retirement ++ .transition .idle .acquiring :: events, htrace, ?_,
      ends_rest hends, ?_, ?_⟩
    · rw [hsettled.state_running (by rw [hsession]; rfl)]
      exact (leads_retirement session).append (.change .begun hmono)
    · intro earlier later hsplit
      obtain ⟨between, rfl, hsecond⟩ := split_later (not_mem_retirement _) hsplit
      obtain ⟨available, attempt, rfl, hfault⟩ := haborted hsecond
      refine ⟨request, session.retirement ++ [.transition .idle .acquiring], available, attempt,
        hattempt, ?_, hfault⟩
      rw [List.append_assoc]
      rfl
    · intro state earlier later hsplit
      exact ⟨session, session.frame, _, hsession, retirement_split hunretired hsplit⟩

theorem frame (hsettled : before.Settled) (frame : FrameId) (now : Nat)
    (host : H.State) : ∃ events, Disciplined operation before
      (RenderLoop.onFrame frame now { before with host := host }) events := by
  let given : RenderLoop B H := { before with host := host }
  have hdelivered : RenderLoop.Delivered frame now given (given.onFrame frame now) :=
    RenderLoop.onFrame_delivered frame now given
  show ∃ events, Disciplined operation before (given.onFrame frame now) events
  generalize given.onFrame frame now = next at hdelivered
  have hdraw (session : Session B) : ∀ event ∈ (given.draw session now).events
      (.draw session.pipeline session.resources session.vertices
        ⟨now - session.startedAt, given.pointer, session.vertexCount⟩), event.isChange = false :=
    still_answer rfl
  have hrequest (token : Token) (frame : FrameId) :
      (Event.requestFrame (B := B) token frame).isChange = false := rfl
  have hnext (session : Session B) (token : Token) (frame : FrameId) :=
    List.forall_mem_append.2
      ⟨hdraw session, List.forall_mem_singleton.2 (hrequest token frame)⟩
  cases hdelivered with
  | stale => exact ⟨[], .of_still (List.append_nil _).symm nofun rfl hsettled⟩
  | @drawn session running =>
    exact ⟨_, .of_still (List.append_assoc _ _ _) (hnext session _ _) rfl hsettled⟩
  | @failed session _ running =>
    exact ⟨_, .of_still (List.append_assoc _ _ _) (hnext session _ _) rfl hsettled⟩
  | @exhausted session _ running =>
    let last := given.drew session now (session.drawFailures + 1)
    have hpresent : last.session = some (session.drawn (session.drawFailures + 1)) := rfl
    have hrunning : last.state = .running := hsettled.state_running (by
      show given.session.isSome = true
      rw [running]
      rfl)
    refine ⟨_, of_retirement none running hsettled (hdraw session) ?_
      (RenderLoop.retire_idle hpresent hrunning).2⟩
    rw [RenderLoop.retire_running hpresent hrunning]
    exact List.append_assoc _ _ _

theorem perform (hsettled : before.Settled) (frontEnd : FrontEnd) (ledger : Ledger H)
    (operation : Operation) :
    ∃ events, Disciplined operation before (before.perform frontEnd ledger operation) events := by
  obtain ⟨request, now, hattempt, hstart⟩ | ⟨frame, now, rfl⟩ | rfl | ⟨_, _, _, _, hquiet⟩ :=
    before.perform_cases frontEnd ledger operation
  · rw [hstart]
    exact Disciplined.start hsettled frontEnd hattempt now
  · exact Disciplined.frame hsettled frame now _
  · exact Disciplined.stop hsettled
  · rw [hquiet]
    exact ⟨[], .of_still (List.append_nil _).symm nofun rfl hsettled⟩

end Disciplined

/-- The transitions of a run form a path of the state machine from `idle`, and every operation is
disciplined. -/
theorem run_disciplined (frontEnd : FrontEnd) (ledger : Ledger H) (backend : B.State)
    (operations : List Operation) (operation : Operation) :
    let start := RenderLoop.idle backend ledger.initial
    let before := start.run frontEnd ledger operations
    let after := before.perform frontEnd ledger operation
    Leads LoopState.Step .idle before.trace before.state ∧
    Leads LoopState.Step .idle after.trace after.state ∧
    (before.state = .idle ∨ before.state = .running) ∧
    ∃ events, Disciplined operation before after events := by
  intro start before after
  have hsettled : before.Settled := (Orderly.reached frontEnd ledger backend operations).settled
  have hpath : Leads LoopState.Step .idle before.trace before.state := by
    refine RenderLoop.run_induction frontEnd ledger backend
      (fun _ loop => Leads LoopState.Step .idle loop.trace loop.state) (.done _) ?_ operations
    intro _ operation loop _ hsettled hleads
    obtain ⟨events, hevents⟩ := Disciplined.perform hsettled frontEnd ledger operation
    rw [hevents.trace]
    exact hleads.append hevents.leads
  obtain ⟨events, hevents⟩ := Disciplined.perform hsettled frontEnd ledger operation
  refine ⟨hpath, ?_, ?_, events, hevents⟩
  · rw [hevents.trace]
    exact hpath.append hevents.leads
  · cases hsettled with
    | idle absent state => exact .inl state
    | running present state waits => exact .inr state

end ShaderPreview
