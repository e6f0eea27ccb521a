import ShaderPreview.Proofs.Session.Memory
import ShaderPreview.Proofs.Session.Plan

/-!
# Ready backends

A backend is ready after a successful acquisition. The loop calls session operations only in ready
states, so if these do not fail in a ready state, no attempt ends with a failure.
-/

namespace ShaderPreview

variable {B : Backend} {H : FrameHost} {α β : Type}

/-! ### Replaying a trace -/

/-- A backend call with its result and log, between two backend states. -/
inductive Consults : B.State → Event B → List B.Note → B.State → Prop
  | compile {source : ComposedSource} {label : String} {before : B.State}
      {answer : Answer B.State B.Note (Compilation B.Module)}
      (asked : B.compile source label before = answer) :
      Consults before (.compile source label answer.value) answer.notes answer.state
  | loadTexture {channel : Fin channelCount} {image : ChannelImage} {before : B.State}
      {answer : Answer B.State B.Note (Except Failure B.Texture)}
      (asked : B.loadTexture channel image before = answer) :
      Consults before (.loadTexture channel image answer.value) answer.notes answer.state
  | bind {canvas : CanvasSize} {textures : PerChannel (Option B.Texture)} {before : B.State}
      {answer : Answer B.State B.Note (Except Failure B.Resources)}
      (asked : B.bind canvas textures before = answer) :
      Consults before (.bind canvas textures answer.value) answer.notes answer.state
  | uploadVertices {vertices : VertexData} {before : B.State}
      {answer : Answer B.State B.Note (Except Failure B.Vertices)}
      (asked : B.uploadVertices vertices before = answer) :
      Consults before (.uploadVertices vertices answer.value) answer.notes answer.state
  | buildPipeline {stages : PipelineStages B.Module} {resources : B.Resources} {before : B.State}
      {answer : Answer B.State B.Note (Except Failure B.Pipeline)}
      (asked : B.buildPipeline stages resources before = answer) :
      Consults before (.buildPipeline stages resources answer.value) answer.notes answer.state
  | takeValidationError {before : B.State} {answer : Answer B.State B.Note (Option String)}
      (asked : B.takeValidationError before = answer) :
      Consults before (.takeValidationError answer.value) answer.notes answer.state
  | draw {pipeline : B.Pipeline} {resources : B.Resources} {vertices : Option B.Vertices}
      {frame : FrameInput} {before : B.State} {answer : Answer B.State B.Note (Except Failure Unit)}
      (asked : B.draw pipeline resources vertices frame before = answer) :
      Consults before (.draw pipeline resources vertices frame answer.value) answer.notes
        answer.state

def Event.isBackend : Event B → Bool
  | .acquire .. | .compile .. | .loadTexture .. | .bind .. | .uploadVertices .. | .buildPipeline ..
  | .takeValidationError _ | .draw .. | .note _ => true
  | .transition .. | .requestFrame .. | .cancelFrame _ | .observeResize _ | .disconnectResize _
  | .console _ | .errors _ => false

/-- The events are an execution of the backend between two states, in which every call happens in a
ready state and satisfies the given predicate. -/
inductive Replays (Ready : B.State → Prop) (Holds : Event B → List B.Note → Prop) :
    B.State → List (Event B) → B.State → Prop
  | done (state : B.State) : Replays Ready Holds state [] state
  | acquire {before after : B.State} {canvas : CanvasSize} {answer : Answer B.State B.Note Bool}
      {events : List (Event B)} (asked : B.acquire canvas before = answer)
      (rest : Replays Ready Holds answer.state events after) :
      Replays Ready Holds before (answer.events (.acquire canvas) ++ events) after
  | consult {before between after : B.State} {event : Event B} {notes : List B.Note}
      {events : List (Event B)} (consults : Consults before event notes between)
      (ready : Ready before) (holds : Holds event notes)
      (rest : Replays Ready Holds between events after) :
      Replays Ready Holds before (event :: notes.map .note ++ events) after
  | aside {before after : B.State} {event : Event B} {events : List (Event B)}
      (aside : event.isBackend = false) (rest : Replays Ready Holds before events after) :
      Replays Ready Holds before (event :: events) after

section

variable {Ready : B.State → Prop} {Holds : Event B → List B.Note → Prop}
  {before between after : B.State} {events later : List (Event B)}

theorem Replays.append (h₁ : Replays Ready Holds before events between)
    (h₂ : Replays Ready Holds between later after) :
    Replays Ready Holds before (events ++ later) after := by
  induction h₁ with
  | done => exact h₂
  | acquire asked _ ih =>
    rw [List.append_assoc]
    exact .acquire asked (ih h₂)
  | consult consults ready holds _ ih =>
    rw [List.append_assoc]
    exact .consult consults ready holds (ih h₂)
  | aside aside _ ih => exact .aside aside (ih h₂)

theorem replays_aside (state : B.State) (h : ∀ event ∈ events, event.isBackend = false) :
    Replays Ready Holds state events state := by
  induction events with
  | nil => exact .done state
  | cons event events ih =>
    obtain ⟨hevent, hevents⟩ := List.forall_mem_cons.1 h
    exact .aside hevent (ih hevents)

theorem replays_acquire {canvas : CanvasSize} {answer : Answer B.State B.Note Bool}
    (asked : B.acquire canvas before = answer) :
    Replays Ready Holds before (answer.events (.acquire canvas)) answer.state := by
  rw [← List.append_nil (answer.events _)]
  exact .acquire asked (.done _)

theorem aside_lines (lines : List String) :
    ∀ event ∈ lines.map (Event.console (B := B)), event.isBackend = false :=
  List.forall_mem_map.2 fun _ _ => rfl

theorem aside_parting (session : Session B) :
    ∀ event ∈ session.retirement, event.isBackend = false := by
  unfold Session.retirement
  cases session.frame <;> simp [Event.isBackend]

end

/-! ### Reliable backends -/

def Event.failsLaunch : Event B → Bool
  | .compile _ _ result => result.module.isNone && !result.hasErrors
  | .loadTexture _ _ (.error _) | .bind _ _ (.error _) | .uploadVertices _ (.error _)
  | .buildPipeline _ _ (.error _) => true
  | _ => false

theorem sound_compile {source : ComposedSource} {label : String} {result : Compilation B.Module}
    (h : result.module = none → result.hasErrors = true) :
    (Event.compile source label result).failsLaunch = false := by
  show (result.module.isNone && !result.hasErrors) = false
  cases hmodule : result.module with
  | none => rw [h hmodule, Bool.not_true, Bool.and_false]
  | some module => rfl

theorem sound_ok {value : Except Failure α} {a : α} (call : Except Failure α → Event B)
    (hvalue : value = .ok a) (hcall : (call (.ok a)).failsLaunch = false) :
    (call value).failsLaunch = false := by
  rw [hvalue]
  exact hcall

/-- Once acquired, the backend stays ready, and in a ready state the calls of a launch do not
fail. -/
structure Backend.Reliable (B : Backend) (Ready : B.State → Prop)
    (Holds : Event B → List B.Note → Prop) : Prop where
  acquires {canvas : CanvasSize} {before : B.State} :
    (B.acquire canvas before).value = true → Ready (B.acquire canvas before).state
  keeps {before after : B.State} {event : Event B} {notes : List B.Note} :
    Ready before → Consults before event notes after → Ready after
  holds {before after : B.State} {event : Event B} {notes : List B.Note} :
    Ready before → Consults before event notes after → Holds event notes
  sound {event : Event B} {notes : List B.Note} : Holds event notes → event.failsLaunch = false

section

variable {Ready : B.State → Prop} {Holds : Event B → List B.Note → Prop}
  {before after : B.State} {events : List (Event B)} {state : LoopState}

theorem Backend.Reliable.consult (hB : B.Reliable Ready Holds) (hready : Ready before)
    {event : Event B} {notes : List B.Note} (h : Consults before event notes after) :
    Replays Ready Holds before (event :: notes.map .note) after ∧ Ready after ∧
      event.failsLaunch = false := by
  have hholds := hB.holds hready h
  refine ⟨?_, hB.keeps hready h, hB.sound hholds⟩
  rw [← List.append_nil (event :: notes.map .note)]
  exact .consult h hready hholds (.done after)

/-- From a ready state the part ends in a ready state and does not fail. -/
def Unfailing (Ready : B.State → Prop) (Holds : Event B → List B.Note → Prop)
    (course : Course B α) : Prop :=
  ∀ ⦃before events outcome state after⦄, course before events outcome state after →
    Ready before → Replays Ready Holds before events after ∧ Ready after ∧
      ∀ failure, outcome ≠ .error (.failed failure)

theorem unfailing_then {first : Course B α} {second : α → Course B β}
    (h₁ : Unfailing Ready Holds first) (h₂ : ∀ a, Unfailing Ready Holds (second a)) :
    Unfailing Ready Holds (Then first second) := by
  intro before events outcome state after h hready
  cases h with
  | stopped stops =>
    obtain ⟨hreplays, hlater, hunfailed⟩ := h₁ stops hready
    refine ⟨hreplays, hlater, fun failure heq => hunfailed failure ?_⟩
    cases heq
    rfl
  | continued goes on =>
    obtain ⟨hfirst, hbetween, _⟩ := h₁ goes hready
    obtain ⟨hsecond, hlater, hunfailed⟩ := h₂ _ on hbetween
    exact ⟨hfirst.append hsecond, hlater, hunfailed⟩

theorem unfailing_mapped {f : α → β} {course : Course B α} (h : Unfailing Ready Holds course) :
    Unfailing Ready Holds (Mapped f course) := by
  intro before events outcome state after hm hready
  obtain ⟨result, hcourse, rfl⟩ := hm
  obtain ⟨hreplays, hlater, hunfailed⟩ := h hcourse hready
  refine ⟨hreplays, hlater, fun failure heq => ?_⟩
  cases result with
  | ok value => cases heq
  | error stop =>
    cases heq
    exact hunfailed failure rfl

theorem unfailing_examined (frontEnd : FrontEnd) (source : String) :
    Unfailing Ready Holds (Examined (B := B) frontEnd source) := by
  intro before events outcome state after h hready
  cases h with
  | accepted => exact ⟨.aside rfl (replays_aside _ (aside_lines _)), hready, nofun⟩
  | refused => exact ⟨.aside rfl (replays_aside _ (aside_lines _)), hready, nofun⟩

theorem judged_unfailed {source : ComposedSource} {label : String} {user : Compilation B.Module}
    {fullscreen : Option (Compilation B.Module)}
    {outcome : Except Stop (B.Module × B.Module × List Diagnostic)}
    (hsound : (Event.compile source label user).failsLaunch = false)
    (h : Judged user fullscreen events outcome) :
    (∀ event ∈ events, event.isBackend = false) ∧
      ∀ failure, outcome ≠ .error (.failed failure) := by
  cases h with
  | refused => exact ⟨aside_lines ["Shader compilation failed."], nofun⟩
  | missing clean absent =>
    have herrors := (Bool.or_eq_false_iff.1 clean).1
    simp [Event.failsLaunch, absent, herrors] at hsound
  | passed => exact ⟨nofun, nofun⟩

theorem unfailing_compiled (hB : B.Reliable Ready Holds) (kind : ShaderKind) (source : String) :
    Unfailing Ready Holds (Compiled (B := B) kind source) := by
  intro before events outcome state after h hready
  cases h with
  | own both compiled judged =>
    obtain ⟨huser, hlater, hsound⟩ := hB.consult hready (.compile compiled)
    obtain ⟨haside, hunfailed⟩ := judged_unfailed hsound judged
    exact ⟨huser.append (replays_aside _ haside), hlater, hunfailed⟩
  | supplied fragment compiled covered judged =>
    obtain ⟨huser, hbetween, hsound⟩ := hB.consult hready (.compile compiled)
    obtain ⟨hcover, hlater, _⟩ := hB.consult hbetween (.compile covered)
    obtain ⟨haside, hunfailed⟩ := judged_unfailed hsound judged
    exact ⟨(huser.append hcover).append (replays_aside _ haside), hlater, hunfailed⟩

theorem loaded_unfailed (hB : B.Reliable Ready Holds)
    {images : List (Fin channelCount × ChannelImage)}
    {textures : PerChannel (Option B.Texture)}
    {outcome : Except Stop (PerChannel (Option B.Texture))}
    (h : Loaded images textures before events outcome after) (hready : Ready before) :
    Replays Ready Holds before events after ∧ Ready after ∧
      ∀ failure, outcome ≠ .error (.failed failure) := by
  induction h with
  | done => exact ⟨.done _, hready, nofun⟩
  | failed loaded value =>
    obtain ⟨_, _, hsound⟩ := hB.consult hready (.loadTexture loaded)
    rw [value] at hsound
    cases hsound
  | next loaded _ _ ih =>
    obtain ⟨hfirst, hbetween, _⟩ := hB.consult hready (.loadTexture loaded)
    obtain ⟨hrest, hlater, hunfailed⟩ := ih hbetween
    exact ⟨hfirst.append hrest, hlater, hunfailed⟩

theorem mapError_unfailed {answer : Answer B.State B.Note (Except Failure α)}
    {call : Except Failure α → Event B}
    (hcall : ∀ failure, (call (.error failure)).failsLaunch = true)
    (hsound : (call answer.value).failsLaunch = false) : ∃ a, answer.value = .ok a := by
  cases hvalue : answer.value with
  | ok a => exact ⟨a, rfl⟩
  | error failure =>
    rw [hvalue, hcall failure] at hsound
    cases hsound

theorem unfailing_bound (hB : B.Reliable Ready Holds) (request : RenderRequest)
    (diagnostics : List Diagnostic) :
    Unfailing Ready Holds (Bound (B := B) request diagnostics) := by
  intro before events outcome state after h hready
  cases h with
  | unpopulated =>
    exact ⟨.aside rfl (replays_aside _ (aside_lines [missingFirstChannel])), hready, nofun⟩
  | unloaded _ loaded =>
    obtain ⟨hloads, hlater, hunfailed⟩ := loaded_unfailed hB loaded hready
    refine ⟨.aside rfl hloads, hlater, fun failure heq => hunfailed failure ?_⟩
    cases heq
    rfl
  | bound _ loaded called =>
    obtain ⟨hloads, hbetween, _⟩ := loaded_unfailed hB loaded hready
    obtain ⟨hbinds, hlater, hsound⟩ := hB.consult hbetween (.bind called)
    obtain ⟨resources, hvalue⟩ := mapError_unfailed (fun _ => rfl) hsound
    rw [hvalue]
    exact ⟨.aside rfl (hloads.append hbinds), hlater, nofun⟩

theorem unfailing_uploaded (hB : B.Reliable Ready Holds) (vertices : Option VertexData) :
    Unfailing Ready Holds (Uploaded (B := B) vertices) := by
  intro before events outcome state after h hready
  cases h with
  | absent => exact ⟨.done _, hready, nofun⟩
  | present called =>
    obtain ⟨huploads, hlater, hsound⟩ := hB.consult hready (.uploadVertices called)
    obtain ⟨buffer, hvalue⟩ := mapError_unfailed (fun _ => rfl) hsound
    rw [hvalue]
    exact ⟨huploads, hlater, nofun⟩

theorem unfailing_built (hB : B.Reliable Ready Holds) (stages : PipelineStages B.Module)
    (resources : B.Resources) : Unfailing Ready Holds (Built stages resources) := by
  intro before events outcome state after h hready
  cases h with
  | failed called value =>
    obtain ⟨_, _, hsound⟩ := hB.consult hready (.buildPipeline called)
    rw [value] at hsound
    cases hsound
  | invalid called _ checked =>
    obtain ⟨hbuilds, hbetween, _⟩ := hB.consult hready (.buildPipeline called)
    obtain ⟨hchecks, hlater, _⟩ := hB.consult hbetween (.takeValidationError checked)
    exact ⟨.aside rfl (hbuilds.append hchecks), hlater, nofun⟩
  | built called _ checked =>
    obtain ⟨hbuilds, hbetween, _⟩ := hB.consult hready (.buildPipeline called)
    obtain ⟨hchecks, hlater, _⟩ := hB.consult hbetween (.takeValidationError checked)
    exact ⟨.aside rfl (hbuilds.append hchecks), hlater, nofun⟩

theorem unfailing_prepared (hB : B.Reliable Ready Holds) (frontEnd : FrontEnd)
    (request : RenderRequest) : Unfailing Ready Holds (Prepared (B := B) frontEnd request) := by
  refine unfailing_then (unfailing_examined _ _) fun examined => ?_
  refine unfailing_then (unfailing_compiled hB _ _) fun compiled => ?_
  refine unfailing_then (unfailing_bound hB _ _) fun resources => ?_
  exact unfailing_then (unfailing_uploaded hB _) fun vertices =>
    unfailing_mapped (unfailing_built hB _ _)

end

/-! ### Launches -/

namespace RenderLoop

/-- The loop after the device was requested, and whether it is available. -/
def asked (request : RenderRequest) (loop : RenderLoop B H) : Bool × RenderLoop B H :=
  (loop.atAcquire request).take (B.acquire request.canvas (loop.atAcquire request).backend)
    (.acquire request.canvas)

def launched? (frontEnd : FrontEnd) (request : RenderRequest) (now : Nat)
    (loop : RenderLoop B H) : Option (Except Stop (Session B × List Diagnostic)) :=
  if (loop.asked request).1 then
    some ((Attempt.launch frontEnd request now).exec (loop.asked request).2).1
  else none

theorem start_launched (frontEnd : FrontEnd) (request : RenderRequest) (now : Nat)
    (loop : RenderLoop B H) : loop.start frontEnd request now =
      match loop.launched? frontEnd request now with
      | none => (loop.asked request).2.transition .idle
      | some outcome =>
        ((Attempt.launch frontEnd request now).exec (loop.asked request).2).2.settle outcome := by
  have hstart : loop.start frontEnd request now =
      if (loop.asked request).1 then
        ((Attempt.launch frontEnd request now).exec (loop.asked request).2).2.settle
          ((Attempt.launch frontEnd request now).exec (loop.asked request).2).1
      else (loop.asked request).2.transition .idle := rfl
  rw [hstart, launched?]
  cases (loop.asked request).1 <;> rfl

variable {Ready : B.State → Prop} {Holds : Event B → List B.Note → Prop}

theorem launch_unfailed (hB : B.Reliable Ready Holds) (frontEnd : FrontEnd)
    (request : RenderRequest) (now : Nat) {loop : RenderLoop B H} (hstate : loop.state = .acquiring)
    (hready : Ready loop.backend) (failure : Failure) :
    ((Attempt.launch frontEnd request now).exec loop).1 ≠ .error (.failed failure) := by
  obtain ⟨events, outcome, state, backend, hprepared, hrun⟩ :=
    Attempt.follows_prepare frontEnd request loop hstate
  obtain ⟨_, _, hunfailed⟩ := unfailing_prepared hB frontEnd request hprepared hready
  rw [Attempt.launch_eq, Attempt.exec_bind, hrun]
  cases outcome with
  | error stop =>
    intro heq
    cases heq
    exact hunfailed failure rfl
  | ok assembly => exact nofun

theorem launched_unfailed (hB : B.Reliable Ready Holds) (frontEnd : FrontEnd)
    (request : RenderRequest) (now : Nat) (loop : RenderLoop B H) (failure : Failure) :
    loop.launched? frontEnd request now ≠ some (.error (.failed failure)) := by
  unfold launched?
  split
  · rename_i havailable
    have hstate : (loop.asked request).2.state = .acquiring := transition_state ..
    intro heq
    exact launch_unfailed hB frontEnd request now hstate (hB.acquires havailable) failure
      (Option.some.inj heq)
  · exact nofun

/-! ### Runs -/

structure Replayed (Ready : B.State → Prop) (Holds : Event B → List B.Note → Prop)
    (initial : B.State) (loop : RenderLoop B H) : Prop where
  replays : Replays Ready Holds initial loop.trace loop.backend
  ready : loop.session.isSome = true → Ready loop.backend

variable {initial : B.State} {loop next : RenderLoop B H}

theorem Replayed.later (h : loop.Replayed Ready Holds initial) {events : List (Event B)}
    (htrace : next.trace = loop.trace ++ events)
    (hreplays : Replays Ready Holds loop.backend events next.backend)
    (hready : next.session.isSome = true → Ready next.backend) :
    next.Replayed Ready Holds initial := by
  refine ⟨?_, hready⟩
  rw [htrace]
  exact h.replays.append hreplays

theorem Replayed.retire (h : loop.Replayed Ready Holds initial)
    (hsettled : loop.session.isSome = true → loop.state = .running) :
    loop.retire.Replayed Ready Holds initial := by
  cases hsession : loop.session with
  | none =>
    rw [retire_none hsession]
    exact h
  | some session =>
    rw [retire_running hsession (hsettled (by rw [hsession]; rfl))]
    exact h.later rfl (replays_aside _ (aside_parting session)) nofun

theorem Replayed.atAcquire (h : loop.Replayed Ready Holds initial) (hsettled : loop.Settled)
    (request : RenderRequest) : (loop.atAcquire request).Replayed Ready Holds initial := by
  have hretired := h.retire hsettled.state_running
  rw [hsettled.atAcquire_after]
  exact hretired.later rfl (.aside rfl (.done _)) hretired.ready

theorem Replayed.start (h : loop.Replayed Ready Holds initial) (hB : B.Reliable Ready Holds)
    (hsettled : loop.Settled) (frontEnd : FrontEnd) (request : RenderRequest) (now : Nat) :
    (loop.start frontEnd request now).Replayed Ready Holds initial := by
  have hpoised := h.atAcquire hsettled request
  have habsent := hsettled.atAcquire_session request
  have hattempt := start_attempted frontEnd request now loop
  generalize loop.start frontEnd request now = next at hattempt
  -- whatever the backend was before, the stages of an attempt begin in a ready state
  have hacquires {answer : Answer B.State B.Note Bool}
      (asked : B.acquire request.canvas (loop.atAcquire request).backend = answer)
      (value : answer.value = true) : Ready answer.state := by
    rw [← asked] at value ⊢
    exact hB.acquires value
  cases hattempt with
  | unavailable asked value =>
    refine hpoised.later rfl ((replays_acquire asked).append (.aside rfl (.done _))) ?_
    exact fun hsome => absurd hsome (by rw [after, habsent]; exact Bool.false_ne_true)
  | @stopped answer events stop state backend asked value prepared =>
    obtain ⟨hreplays, _, _⟩ :=
      unfailing_prepared hB frontEnd request prepared (hacquires asked value)
    have hreports : ∀ event ∈ stop.report.toList.map (Event.errors (B := B)),
        event.isBackend = false := List.forall_mem_map.2 fun _ _ => rfl
    refine hpoised.later rfl ((replays_acquire asked).append
      (hreplays.append (.aside rfl (replays_aside _ hreports)))) ?_
    exact fun hsome => absurd hsome (by rw [after, habsent]; exact Bool.false_ne_true)
  | @running answer events assembly state backend asked value prepared =>
    obtain ⟨hreplays, hready, _⟩ :=
      unfailing_prepared hB frontEnd request prepared (hacquires asked value)
    have hstages : ((loop.atAcquire request).after state backend
        (answer.events (.acquire request.canvas) ++ events)).Replayed Ready Holds initial :=
      hpoised.later rfl ((replays_acquire asked).append hreplays) fun _ => hready
    refine hstages.later rfl ?_ fun _ => hready
    exact replays_aside _ (by simp [Event.isBackend])

theorem Replayed.drew (h : loop.Replayed Ready Holds initial) (hB : B.Reliable Ready Holds)
    {session : Session B} (hsession : loop.session = some session) (now failures : Nat) :
    (loop.drew session now failures).Replayed Ready Holds initial := by
  have hready := h.ready (by rw [hsession]; rfl)
  obtain ⟨hdraws, hlater, _⟩ := hB.consult hready (.draw rfl)
  exact h.later rfl hdraws fun _ => hlater

theorem Replayed.onFrame (h : loop.Replayed Ready Holds initial) (hB : B.Reliable Ready Holds)
    (hsettled : loop.session.isSome = true → loop.state = .running) (frame : FrameId) (now : Nat) :
    (loop.onFrame frame now).Replayed Ready Holds initial := by
  have hdelivered := onFrame_delivered frame now loop
  generalize loop.onFrame frame now = next at hdelivered
  have hnext {session : Session B} (running : loop.session = some session) (failures : Nat) :
      ((loop.drew session now failures).requestNext
        (session.drawn failures)).Replayed Ready Holds initial := by
    have hdrew := h.drew hB running now failures
    exact hdrew.later rfl (.aside rfl (.done _)) fun _ => hdrew.ready rfl
  cases hdelivered with
  | stale => exact h
  | drawn running => exact hnext running 0
  | failed running => exact hnext running _
  | exhausted running =>
    refine (h.drew hB running now _).retire fun _ => hsettled ?_
    rw [running]
    rfl

theorem Replayed.perform (h : loop.Replayed Ready Holds initial) (hB : B.Reliable Ready Holds)
    (hsettled : loop.Settled) (frontEnd : FrontEnd) (ledger : Ledger H) (operation : Operation) :
    (loop.perform frontEnd ledger operation).Replayed Ready Holds initial := by
  obtain ⟨request, now, _, hstart⟩ | ⟨frame, now, rfl⟩ | rfl | ⟨_, _, _, _, hquiet⟩ :=
    loop.perform_cases frontEnd ledger operation
  · rw [hstart]
    exact h.start hB hsettled frontEnd request now
  · have hdelivered : ({ loop with host := ledger.deliver frame loop.host } :
        RenderLoop B H).Replayed Ready Holds initial := ⟨h.replays, h.ready⟩
    exact hdelivered.onFrame hB hsettled.state_running frame now
  · exact h.retire hsettled.state_running
  · rw [hquiet]
    exact ⟨h.replays, h.ready⟩

/-- For a reliable backend every trace is an execution of the backend from its initial state. -/
theorem replayed_run (hB : B.Reliable Ready Holds) (frontEnd : FrontEnd) (ledger : Ledger H)
    (backend : B.State) (operations : List Operation) :
    ((idle backend ledger.initial).run frontEnd ledger operations).Replayed Ready Holds
      backend := by
  refine run_induction frontEnd ledger backend (fun _ loop => loop.Replayed Ready Holds backend)
    ⟨.done _, nofun⟩ ?_ operations
  intro _ operation loop _ hsettled hreplayed
  exact hreplayed.perform hB hsettled frontEnd ledger operation

end RenderLoop

end ShaderPreview
