import ShaderPreview.Proofs.Graphics.Scope
import ShaderPreview.Proofs.Session.Draws

/-!
# Attribution of validation errors

An attempt is rejected for the first validation error captured in it and for no other. The kept
error is preserved by every stage up to the check after the pipeline, is reset by the acquisition,
and no attempt stops between a captured error and the check.
-/

namespace ShaderPreview

variable {B : Backend} {H : FrameHost} {α β : Type}

/-! ### Stages that stop for failures only -/

theorem loaded_stops {images : List (Fin channelCount × ChannelImage)}
    {textures : PerChannel (Option B.Texture)} {before after : B.State} {events : List (Event B)}
    {stop : Stop} (h : Loaded images textures before events (.error stop) after) :
    ∃ failure, stop = .failed failure := by
  generalize houtcome : Except.error stop = outcome at h
  induction h with
  | done => cases houtcome
  | failed =>
    cases houtcome
    exact ⟨_, rfl⟩
  | next _ _ _ ih => exact ih houtcome

theorem bound_stops {request : RenderRequest} (hmet : ¬ request.Unpopulated)
    {diagnostics : List Diagnostic} {before after : B.State} {events : List (Event B)} {stop : Stop}
    {state : LoopState} (h : Bound request diagnostics before events (.error stop) state after) :
    ∃ failure, stop = .failed failure := by
  generalize houtcome : Except.error stop = outcome at h
  cases h with
  | unpopulated textured missing => exact absurd ⟨textured, missing⟩ hmet
  | unloaded _ loaded =>
    cases houtcome
    exact loaded_stops loaded
  | bound =>
    obtain ⟨failure, _, hstop⟩ := failed_of_mapError houtcome.symm
    exact ⟨failure, hstop⟩

theorem uploaded_stops {mesh : Option VertexData} {before after : B.State}
    {events : List (Event B)} {stop : Stop} {state : LoopState}
    (h : Uploaded mesh before events (.error stop) state after) :
    ∃ failure, stop = .failed failure := by
  generalize houtcome : Except.error stop = outcome at h
  cases h with
  | absent => cases houtcome
  | @present _ _ answer =>
    cases hvalue : answer.value with
    | error failure =>
      rw [hvalue] at houtcome
      cases houtcome
      exact ⟨failure, rfl⟩
    | ok buffer =>
      rw [hvalue] at houtcome
      cases houtcome

/-! ### Stages without a check -/

theorem checks_of_makes {course : Course B α} {plan : List RenderCall} {unmet : Prop}
    (h : Makes course plan unmet) (hplan : RenderCall.takeValidationError ∉ plan)
    {before after : B.State} {events : List (Event B)} {outcome : Except Stop α} {state : LoopState}
    (hcourse : course before events outcome state after) : checks events = [] := by
  refine checks_eq_nil fun event he => ?_
  cases event with
  | takeValidationError result => exact absurd he (not_mem_of_makes h rfl hplan hcourse)
  | _ => rfl

theorem touchesError_silent {events : List (Event B)} (h : Silent events) :
    ∀ event ∈ events, event.touchesError = false := by
  intro event he
  have hcall := h event he
  cases event <;> first | rfl | cases hcall

theorem touchesError_compiled {kind : ShaderKind} {source : String} {before after : B.State}
    {events : List (Event B)} {outcome : Except Stop (B.Module × B.Module × List Diagnostic)}
    {state : LoopState} (h : Compiled kind source before events outcome state after) :
    ∀ event ∈ events, event.touchesError = false := by
  cases h with
  | own _ _ judged =>
    exact List.forall_mem_append.2
      ⟨touchesError_answer rfl, touchesError_silent (silent_judged judged)⟩
  | supplied _ _ _ judged =>
    exact List.forall_mem_append.2
      ⟨List.forall_mem_append.2 ⟨touchesError_answer rfl, touchesError_answer rfl⟩,
        touchesError_silent (silent_judged judged)⟩

/-! ### Between attempts -/

theorem touchesError_retirement (session : Option (Session B)) :
    ∀ event ∈ session.elim [] Session.retirement, event.touchesError = false := by
  cases session with
  | none => exact nofun
  | some session =>
    show ∀ event ∈ session.retirement, event.touchesError = false
    unfold Session.retirement
    cases session.frame <;> simp [Event.touchesError]

namespace RenderLoop

theorem untouched_onFrame (frame : FrameId) (now : Nat) {loop : RenderLoop B H}
    (h : loop.session.isSome = true → loop.state = .running) :
    ∃ events, (loop.onFrame frame now).trace = loop.trace ++ events ∧
      ∀ event ∈ events, event.touchesError = false := by
  have hdelivered := onFrame_delivered frame now loop
  generalize loop.onFrame frame now = next at hdelivered
  have hdraw (session : Session B) :
      ∀ event ∈ (loop.draw session now).events (loop.drawEvent session now),
        event.touchesError = false := touchesError_answer rfl
  cases hdelivered with
  | stale => exact ⟨[], (List.append_nil _).symm, nofun⟩
  | @drawn session =>
    exact ⟨_, List.append_assoc _ _ _,
      List.forall_mem_append.2 ⟨hdraw session, List.forall_mem_singleton.2 rfl⟩⟩
  | @failed session =>
    exact ⟨_, List.append_assoc _ _ _,
      List.forall_mem_append.2 ⟨hdraw session, List.forall_mem_singleton.2 rfl⟩⟩
  | @exhausted session failure running =>
    -- the retirement after the last failed draw asks nothing either
    have hstate : loop.state = .running := h (by rw [running]; rfl)
    let last := loop.drew session now (session.drawFailures + 1)
    have hretire : last.retire.trace = last.trace ++ _ := retire_trace fun _ => hstate
    exact ⟨_, hretire.trans (List.append_assoc _ _ _),
      List.forall_mem_append.2 ⟨hdraw session, touchesError_retirement _⟩⟩

/-! ### What the backend was before -/

variable {loop : RenderLoop B H}

def withBackend (backend : B.State) (loop : RenderLoop B H) : RenderLoop B H :=
  { loop with backend := backend }

theorem Settled.withBackend (h : loop.Settled) (backend : B.State) :
    (loop.withBackend backend).Settled := by
  cases h with
  | idle absent state => exact .idle absent state
  | running present state waits => exact .running present state waits

theorem Settled.retire_withBackend (h : loop.Settled) (backend : B.State) :
    (loop.withBackend backend).retire = loop.retire.withBackend backend := by
  cases h with
  | idle absent state =>
    rw [retire_none absent]
    exact retire_none absent
  | running present state waits =>
    rw [retire_running present state]
    exact retire_running present state

/-- An attempt depends on the previous backend state only through the acquisition. -/
theorem Settled.start_withBackend (h : loop.Settled) (frontEnd : FrontEnd)
    {request : RenderRequest} (now : Nat) {backend : B.State}
    (hsame : B.acquire request.canvas backend = B.acquire request.canvas loop.backend) :
    (loop.withBackend backend).start frontEnd request now = loop.start frontEnd request now := by
  have hasked : (loop.withBackend backend).asked request = loop.asked request := by
    rw [asked, asked, (h.withBackend backend).atAcquire_after, h.atAcquire_after,
      h.retire_withBackend]
    have hbackend : loop.retire.backend = loop.backend := backend_retire loop
    simp only [RenderLoop.after, RenderLoop.withBackend, hsame, hbackend, take]
  rw [start_launched, start_launched, launched?, launched?, hasked]

end RenderLoop

end ShaderPreview

namespace ShaderPreview.Graphics

variable {frontEnd : FrontEnd} {H : FrameHost} {α β : Type}

/-! ### From the scopes to the check -/

/-- Outcome in terms of the first error, kept from before or captured in the events. -/
inductive Decided (kept : Option String) (events : List (Event (backend frontEnd))) :
    Except Stop α → Prop
  | rejected {error : String} (checked : checks events = [some error])
      (first : kept.or (captured events).head? = some error) :
      Decided kept events (.error (.rejected (some [.general s!"GPU validation error: {error}"])))
  | passed {a : α} (checked : checks events = [none])
      (first : kept.or (captured events).head? = none) : Decided kept events (.ok a)

theorem Decided.prepend {kept between : Option String}
    {earlier later : List (Event (backend frontEnd))} {outcome : Except Stop α}
    (h : Decided between later outcome) (hchecks : checks earlier = [])
    (hkept : between = kept.or (captured earlier).head?) (hlead : leadingNotes later = []) :
    Decided kept (earlier ++ later) outcome := by
  have hall : checks (earlier ++ later) = checks later := by
    rw [checks_append, hchecks, List.nil_append]
  have hfirst : kept.or (captured (earlier ++ later)).head? =
      between.or (captured later).head? := by
    rw [captured_append earlier hlead, List.head?_append, hkept, Option.or_assoc]
  cases h with
  | rejected checked first => exact .rejected (hall.trans checked) (hfirst.trans first)
  | passed checked first => exact .passed (hall.trans checked) (hfirst.trans first)

/-- The part of an attempt keeps the first error: it does not read it, and from a ready screen it
does not stop. -/
structure Forwards (course : Course (backend frontEnd) α) : Prop where
  unfailing : Unfailing Screen.Ready Unexceptional course
  inner : Inner course
  unchecked ⦃before after : (backend frontEnd).State⦄ ⦃events : List (Event (backend frontEnd))⦄
    ⦃outcome : Except Stop α⦄ ⦃state : LoopState⦄ :
    course before events outcome state after → checks events = []
  stops ⦃before after : (backend frontEnd).State⦄ ⦃events : List (Event (backend frontEnd))⦄
    ⦃stop : Stop⦄ ⦃state : LoopState⦄ :
    course before events (.error stop) state after → ∃ failure, stop = .failed failure

/-- The part of an attempt ends as the first error decides. -/
structure Decides (course : Course (backend frontEnd) α) : Prop where
  unfailing : Unfailing Screen.Ready Unexceptional course
  decided ⦃before after : (backend frontEnd).State⦄ ⦃events : List (Event (backend frontEnd))⦄
    ⦃outcome : Except Stop α⦄ ⦃state : LoopState⦄ :
    course before events outcome state after → Screen.Ready before →
      Decided (Screen.validationError before) events outcome

theorem decides_then {first : Course (backend frontEnd) α}
    {second : α → Course (backend frontEnd) β} (h₁ : Forwards first)
    (h₂ : ∀ a, Decides (second a)) : Decides (Then first second) where
  unfailing := unfailing_then h₁.unfailing fun a => (h₂ a).unfailing
  decided before after events outcome state h hready := by
    cases h with
    | stopped stops =>
      -- only a failure could stop it, and a ready screen has none
      obtain ⟨failure, rfl⟩ := h₁.stops stops
      exact absurd rfl ((h₁.unfailing stops hready).2.2 failure)
    | continued goes on =>
      obtain ⟨hreplays, hbetween, _⟩ := h₁.unfailing goes hready
      have hchecks := h₁.unchecked goes
      have hkept := replays_latched hreplays (h₁.inner goes).1 hchecks
      have hlead := ((h₂ _).unfailing on hbetween).1.leading
      exact ((h₂ _).decided on hbetween).prepend hchecks hkept hlead

theorem decides_mapped {f : α → β} {course : Course (backend frontEnd) α} (h : Decides course) :
    Decides (Mapped f course) where
  unfailing := unfailing_mapped h.unfailing
  decided before after events outcome state hm hready := by
    obtain ⟨result, hcourse, rfl⟩ := hm
    cases h.decided hcourse hready with
    | rejected checked first => exact .rejected checked first
    | passed checked first => exact .passed checked first

theorem forwards_bound {request : RenderRequest} (hmet : ¬ request.Unpopulated)
    (diagnostics : List Diagnostic) :
    Forwards (Bound (B := backend frontEnd) request diagnostics) where
  unfailing := unfailing_bound (reliable frontEnd) request diagnostics
  inner := inner_bound request diagnostics
  unchecked _ _ _ _ _ h :=
    checks_of_makes (makes_bound request diagnostics) (by simp [RenderRequest.bindCalls]) h
  stops _ _ _ _ _ h := bound_stops hmet h

theorem forwards_uploaded (mesh : Option VertexData) :
    Forwards (Uploaded (B := backend frontEnd) mesh) where
  unfailing := unfailing_uploaded (reliable frontEnd) mesh
  inner := inner_uploaded mesh
  unchecked _ _ _ _ _ h := checks_of_makes (makes_uploaded mesh) (by simp) h
  stops _ _ _ _ _ h := uploaded_stops h

theorem checked_built (stages : PipelineStages ShaderObject) (resources : BoundResources)
    {before : (backend frontEnd).State} (hready : Screen.Ready before) :
    let built := (backend frontEnd).buildPipeline stages resources before
    let check := (backend frontEnd).takeValidationError built.state
    let events : List (Event (backend frontEnd)) := .transition .binding .running ::
      built.events (.buildPipeline stages resources) ++ check.events .takeValidationError
    checks events = [check.value] ∧
      (Screen.validationError before).or (captured events).head? = check.value := by
  intro built check events
  let builds : List (Event (backend frontEnd)) := built.events (.buildPipeline stages resources)
  have hlatched : Screen.validationError built.state =
      (Screen.validationError before).or (captured builds).head? :=
    consults_latched hready (.buildPipeline rfl) rfl rfl
  have hchecks : checks builds = [] := checks_eq_nil
    (List.forall_mem_cons.2 ⟨rfl, List.forall_mem_map.2 fun _ _ => rfl⟩)
  have hevents : events =
      [.transition .binding .running] ++ builds ++ [.takeValidationError check.value] := rfl
  have hcaptured : captured events = captured builds := by
    rw [hevents, captured_append _ rfl, captured_append _ rfl]
    exact List.append_nil _
  refine ⟨?_, ?_⟩
  · rw [hevents, checks_append, checks_append, hchecks]
    rfl
  · rw [hcaptured, ← hlatched]
    rfl

theorem decides_built (stages : PipelineStages ShaderObject) (resources : BoundResources) :
    Decides (Built (B := backend frontEnd) stages resources) where
  unfailing := unfailing_built (reliable frontEnd) stages resources
  decided before after events outcome state h hready := by
    obtain ⟨hchecks, hfirst⟩ := checked_built stages resources hready
    have hunfailed := (unfailing_built (reliable frontEnd) stages resources h hready).2.2
    cases h with
    | failed => exact absurd rfl (hunfailed _)
    | invalid called value checked noted =>
      subst called checked
      rw [noted] at hchecks hfirst
      exact .rejected hchecks hfirst
    | built called value checked unnoted =>
      subst called checked
      rw [unnoted] at hchecks hfirst
      exact .passed hchecks hfirst

/-- The part of an attempt ends as the first error decides, or before any error can be captured. -/
structure Concludes (course : Course (backend frontEnd) α) : Prop where
  unfailing : Unfailing Screen.Ready Unexceptional course
  concluded ⦃before after : (backend frontEnd).State⦄ ⦃events : List (Event (backend frontEnd))⦄
    ⦃outcome : Except Stop α⦄ ⦃state : LoopState⦄ :
    course before events outcome state after → Screen.Ready before →
      (checks events = [] ∧ captured events = []) ∨
        Decided (Screen.validationError before) events outcome

theorem concludes_then {first : Course (backend frontEnd) α}
    {second : α → Course (backend frontEnd) β}
    (hunfailing : Unfailing Screen.Ready Unexceptional first) (hinner : Inner first)
    (hfirst : ∀ ⦃before events outcome state after⦄, first before events outcome state after →
      ∀ event ∈ events, event.touchesError = false)
    (hsecond : ∀ a, Concludes (second a)) : Concludes (Then first second) where
  unfailing := unfailing_then hunfailing fun a => (hsecond a).unfailing
  concluded before after events outcome state h hready := by
    cases h with
    | stopped stops => exact .inl (untouched (hfirst stops))
    | continued goes on =>
      -- nothing is captured in the first part, so what is kept behind it was kept before it
      obtain ⟨hchecks, hcaptured⟩ := untouched (hfirst goes)
      obtain ⟨hreplays, hbetween, _⟩ := hunfailing goes hready
      have hkept := replays_latched hreplays (hinner goes).1 hchecks
      have hlead := ((hsecond _).unfailing on hbetween).1.leading
      obtain ⟨hunchecked, huncaptured⟩ | hdecided := (hsecond _).concluded on hbetween
      · refine .inl ⟨?_, ?_⟩
        · rw [checks_append, hchecks, hunchecked]
          rfl
        · rw [captured_append _ hlead, hcaptured, huncaptured]
          rfl
      · exact .inr (hdecided.prepend hchecks hkept hlead)

theorem concludes_bound (request : RenderRequest) (diagnostics : List Diagnostic)
    {rest : BoundResources → Course (backend frontEnd) α}
    (h : ∀ resources, Decides (rest resources)) :
    Concludes (Then (Bound request diagnostics) rest) where
  unfailing :=
    unfailing_then (unfailing_bound (reliable frontEnd) request diagnostics) fun resources =>
    (h resources).unfailing
  concluded before after events outcome state hcourse hready := by
    obtain hempty | hmet := Classical.em request.Unpopulated
    · have hsilent : Silent events :=
        List.filterMap_eq_nil_iff.1 (unpopulated_calls hempty hcourse)
      exact .inl (untouched (touchesError_silent hsilent))
    · have hdecides := decides_then (forwards_bound hmet diagnostics) h
      exact .inr (hdecides.decided hcourse hready)

theorem concludes_prepared (request : RenderRequest) :
    Concludes (Prepared (B := backend frontEnd) frontEnd request) := by
  refine concludes_then (unfailing_examined _ _) (inner_examined _ _)
    (fun _ _ _ _ _ h => touchesError_silent (silent_examined h)) fun examined => ?_
  refine concludes_then (unfailing_compiled (reliable frontEnd) _ _) (inner_compiled _ _)
    (fun _ _ _ _ _ h => touchesError_compiled h) fun compiled => ?_
  refine concludes_bound request _ fun resources => ?_
  exact decides_then (forwards_uploaded _) fun vertices => decides_mapped (decides_built _ _)

/-! ### Attempts -/

/-- How the errors captured in an attempt relate to its reports and its final state. -/
structure Attributed (events : List (Event (backend frontEnd))) (state : LoopState) : Prop where
  /-- At most one check, which returns the first captured error. -/
  told : checks events = [] ∨ checks events = [(captured events).head?]
  rejected : checks events ≠ [] → ∀ error,
    (state = .idle ∧ batches events = [[.general s!"GPU validation error: {error}"]]) ↔
      (captured events).head? = some error
  running : checks events ≠ [] → (state = .running ↔ captured events = [])
  /-- An attempt does not stop between an error and the check. -/
  reached : captured events ≠ [] → checks events ≠ []

theorem Attributed.unreached {events : List (Event (backend frontEnd))} {state : LoopState}
    (hchecks : checks events = []) (hcaptured : captured events = []) :
    Attributed events state :=
  ⟨.inl hchecks, absurd hchecks, absurd hchecks, absurd hcaptured⟩

theorem validationRecord_inj {error other : String}
    (h : Diagnostic.general s!"GPU validation error: {error}" =
      Diagnostic.general s!"GPU validation error: {other}") : error = other := by
  have hmessage := congrArg Diagnostic.message h
  rw [Diagnostic.general, Diagnostic.general] at hmessage
  simp only [Diagnostic.onLine_message] at hmessage
  exact (String.append_right_inj _).1 hmessage

theorem Attributed.of_rejected {events : List (Event (backend frontEnd))} {error : String}
    (hchecks : checks events = [some error]) (hfirst : (captured events).head? = some error)
    (hbatches : batches events = [[.general s!"GPU validation error: {error}"]]) :
    Attributed events .idle := by
  have hsome : captured events ≠ [] := by
    rintro hnone
    rw [hnone] at hfirst
    cases hfirst
  have hreached : checks events ≠ [] := by
    rw [hchecks]
    exact nofun
  refine ⟨.inr (by rw [hchecks, hfirst]), fun _ other => ?_, fun _ => ?_, fun _ => hreached⟩
  · rw [hbatches, hfirst]
    constructor
    · rintro ⟨_, hrecord⟩
      have hsingle := List.singleton_inj.1 (List.singleton_inj.1 hrecord)
      exact congrArg some (validationRecord_inj hsingle)
    · rintro ⟨⟩
      exact ⟨rfl, rfl⟩
  · exact iff_of_false (by decide) hsome

theorem Attributed.of_passed {events : List (Event (backend frontEnd))}
    (hchecks : checks events = [none]) (hfirst : (captured events).head? = none) :
    Attributed events .running := by
  have hnone : captured events = [] := List.head?_eq_none_iff.1 hfirst
  have hreached : checks events ≠ [] := by
    rw [hchecks]
    exact nofun
  refine ⟨.inr (by rw [hchecks, hfirst]), fun _ error => ?_, fun _ => ?_, fun _ => hreached⟩
  · rw [hfirst]
    exact iff_of_false (fun h => absurd h.1 (by decide)) nofun
  · exact iff_of_true rfl hnone

theorem surrounded {request : RenderRequest} {before after : (backend frontEnd).State}
    {outer stages tail : List (Event (backend frontEnd))}
    {outcome : Except Stop (Assembly (backend frontEnd))} {state : LoopState}
    (h : Prepared frontEnd request before stages outcome state after)
    (hready : Screen.Ready before) (houter : ∀ event ∈ outer, event.touchesError = false)
    (hsaid : batches outer = []) (htail : ∀ event ∈ tail, event.touchesError = false)
    (hlead : leadingNotes tail = []) :
    checks (outer ++ (stages ++ tail)) = checks stages ∧
      captured (outer ++ (stages ++ tail)) = captured stages ∧
      batches (outer ++ (stages ++ tail)) = batches tail := by
  obtain ⟨hchecks, hcaptured⟩ := untouched houter
  obtain ⟨hlater, hunscoped⟩ := untouched htail
  have hsilent := batches_stage (inner_prepared frontEnd request h).1
  have hbegin := ((concludes_prepared request).unfailing h hready).1.leading
  have hrest : leadingNotes (stages ++ tail) = [] := (leadingNotes_append stages hlead).trans hbegin
  refine ⟨?_, ?_, ?_⟩
  · rw [checks_append, checks_append, hchecks, hlater, List.append_nil, List.nil_append]
  · rw [captured_append outer hrest, captured_append stages hlead, hcaptured, hunscoped,
      List.append_nil, List.nil_append]
  · rw [batches_append, batches_append, hsaid, hsilent, List.nil_append, List.nil_append]

theorem acquired_fresh {canvas : CanvasSize} {before : (backend frontEnd).State}
    {answer : Answer (backend frontEnd).State (backend frontEnd).Note Bool}
    (asked : (backend frontEnd).acquire canvas before = answer) (value : answer.value = true) :
    Screen.Ready answer.state ∧ Screen.validationError answer.state = none := by
  subst asked
  exact ⟨(reliable frontEnd).acquires value, Screen.acquire_forgets canvas before _⟩

theorem ends_attributed {request : RenderRequest} {before : (backend frontEnd).State}
    {outer events : List (Event (backend frontEnd))} {state : LoopState}
    (houter : ∀ event ∈ outer, event.touchesError = false) (hsaid : batches outer = [])
    (h : AttemptEnds frontEnd request before events state) :
    Attributed (outer ++ events) state := by
  have hturn (answer : Answer (backend frontEnd).State (backend frontEnd).Note Bool) :
      ∀ event ∈ outer ++ answer.events (.acquire request.canvas), event.touchesError = false :=
    List.forall_mem_append.2 ⟨houter, touchesError_answer rfl⟩
  have hquiet (answer : Answer (backend frontEnd).State (backend frontEnd).Note Bool) :
      batches (outer ++ answer.events (.acquire request.canvas)) = [] := by
    rw [batches_append, hsaid, batches_acquire]
    rfl
  cases h with
  | @unavailable answer asked value =>
    have hidle : ∀ event ∈ [Event.transition (B := backend frontEnd) .acquiring .idle],
        event.touchesError = false := List.forall_mem_singleton.2 rfl
    obtain ⟨hchecks, hcaptured⟩ := untouched (List.forall_mem_append.2 ⟨hturn answer, hidle⟩)
    rw [← List.append_assoc]
    exact .unreached hchecks hcaptured
  | @stopped answer stages stop mid after asked value prepared =>
    obtain ⟨hready, hkept⟩ := acquired_fresh asked value
    have htail : ∀ event ∈ Event.transition (B := backend frontEnd) mid .idle ::
        stop.report.toList.map .errors, event.touchesError = false :=
      List.forall_mem_cons.2 ⟨rfl, List.forall_mem_map.2 fun _ _ => rfl⟩
    obtain ⟨hchecks, hcaptured, hbatches⟩ :=
      surrounded prepared hready (hturn answer) (hquiet answer) htail rfl
    have hconcluded := (concludes_prepared request).concluded prepared hready
    rw [hkept] at hconcluded
    rw [← List.append_assoc]
    obtain ⟨hunchecked, huncaptured⟩ | ⟨checked, first⟩ := hconcluded
    · exact .unreached (hchecks.trans hunchecked) (hcaptured.trans huncaptured)
    · exact .of_rejected (hchecks.trans checked) ((congrArg List.head? hcaptured).trans first)
        hbatches
  | @running answer stages assembly mid after token frame observer asked value prepared =>
    obtain ⟨hready, hkept⟩ := acquired_fresh asked value
    have htail : ∀ event ∈ [Event.requestFrame (B := backend frontEnd) token frame,
        .observeResize observer, .console successLine, .errors assembly.diagnostics],
        event.touchesError = false := by simp [Event.touchesError]
    obtain ⟨hchecks, hcaptured, _⟩ :=
      surrounded prepared hready (hturn answer) (hquiet answer) htail rfl
    have hconcluded := (concludes_prepared request).concluded prepared hready
    rw [hkept] at hconcluded
    rw [← List.append_assoc]
    obtain ⟨hunchecked, huncaptured⟩ | hpassed := hconcluded
    · exact .unreached (hchecks.trans hunchecked) (hcaptured.trans huncaptured)
    · obtain _ | ⟨checked, first⟩ := hpassed
      exact .of_passed (hchecks.trans checked) ((congrArg List.head? hcaptured).trans first)

/-! ### Runs -/

variable {loop : RenderLoop (backend frontEnd) H}

theorem start_attributed (hsettled : loop.Settled) (request : RenderRequest) (now : Nat) :
    ∃ events, (loop.start frontEnd request now).trace = loop.trace ++ events ∧
      Attributed events (loop.start frontEnd request now).state := by
  obtain ⟨turn, events, hturn, htrace, hends⟩ := loop.start_ends frontEnd request now
  let outer : List (Event (backend frontEnd)) := loop.session.elim [] Session.retirement ++ turn
  have houter : ∀ event ∈ outer, event.touchesError = false := by
    refine List.forall_mem_append.2 ⟨touchesError_retirement _, fun event he => ?_⟩
    obtain ⟨state, rfl⟩ := hturn event he
    rfl
  have hsaid : batches outer = [] := by
    rw [batches_append, hturn.batches]
    cases loop.session with
    | none => rfl
    | some session => exact (List.append_nil _).trans (batches_retirement session)
  refine ⟨outer ++ events, ?_, ends_attributed houter hsaid hends⟩
  rw [htrace, RenderLoop.retire_trace hsettled.state_running, List.append_assoc, List.append_assoc]

theorem perform_attributed (hsettled : loop.Settled) (ledger : Ledger H) (operation : Operation) :
    ∃ events, (loop.perform frontEnd ledger operation).trace = loop.trace ++ events ∧
      Attributed events (loop.perform frontEnd ledger operation).state := by
  have hunreached {events : List (Event (backend frontEnd))} {state : LoopState}
      (h : ∀ event ∈ events, event.touchesError = false) : Attributed events state :=
    .unreached (untouched h).1 (untouched h).2
  obtain ⟨request, now, _, hstart⟩ | ⟨frame, now, rfl⟩ | rfl | ⟨_, _, _, _, hquiet⟩ :=
    loop.perform_cases frontEnd ledger operation
  · rw [hstart]
    exact start_attributed hsettled request now
  · let delivered : RenderLoop (backend frontEnd) H :=
      { loop with host := ledger.deliver frame loop.host }
    have hstate : delivered.session.isSome = true → delivered.state = .running :=
      hsettled.state_running
    obtain ⟨events, htrace, hevents⟩ := RenderLoop.untouched_onFrame frame now hstate
    exact ⟨events, htrace, hunreached hevents⟩
  · exact ⟨_, RenderLoop.retire_trace hsettled.state_running,
      hunreached (touchesError_retirement _)⟩
  · rw [hquiet]
    exact ⟨[], (List.append_nil _).symm, hunreached (List.forall_mem_nil _)⟩

/-- In every run, an attempt is rejected with the first error captured in it and nothing else, and
it is running at the end if there is none. The check is reached whenever an error was captured. An
error kept from before does not affect an attempt. -/
theorem run_attributed (frontEnd : FrontEnd) (system : System) (gateway : Gateway)
    (ledger : Ledger H) (operations : List Operation) (operation : Operation) :
    let start : (backend frontEnd).State := Screen.start system gateway
    let loop := (RenderLoop.idle start ledger.initial).run frontEnd ledger operations
    let next := loop.perform frontEnd ledger operation
    (∃ events, next.trace = loop.trace ++ events ∧ Attributed events next.state) ∧
    ∀ kept request now,
      (loop.withBackend { loop.backend with validationError := kept }).start frontEnd request now =
        loop.start frontEnd request now := by
  intro start loop next
  have hsettled := (Orderly.reached frontEnd ledger start operations).settled
  refine ⟨perform_attributed hsettled ledger operation, fun kept request now => ?_⟩
  exact hsettled.start_withBackend frontEnd now
    (Screen.acquire_regardless request.canvas loop.backend kept)

/-- The first of two errors is reported, and the next attempt is not affected by them. -/
example :
    let frontEnd := FrontEnd.lenient [⟨"main", .fragment⟩]
    let answers := { Answers.smooth with
      scopeErrors := [none, none, some "no group", some "no pipeline"] }
    let start : (backend frontEnd).State := Screen.start (.of answers) ⟨none⟩
    let loop : RenderLoop (backend frontEnd) FrameRegister.host := .idle start FrameRegister.empty
    let request : RenderRequest := ⟨"", PerChannel.empty, none, ⟨4, 4⟩⟩
    let rejected := loop.start frontEnd request 0
    captured rejected.trace = ["no group", "no pipeline"] ∧
      checks rejected.trace = [some "no group"] ∧ rejected.state = .idle ∧
      (rejected.start frontEnd request 1).state = .running := by
  decide +kernel

end ShaderPreview.Graphics
