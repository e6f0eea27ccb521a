import ShaderPreview.Proofs.Graphics.Screen

/-!
# Captured errors

Texture uploads, bindings, vertex uploads and pipelines each have their own error scope, whose
result is in the log of the operation. The screen keeps the first error until it is read; shader
compilation has a scope too, but reports its error as a diagnostic.
-/

namespace ShaderPreview

variable {B : Backend}

/-- The call runs in a scope whose error is kept for the check. -/
def Event.isGuarded : Event B → Bool
  | .loadTexture .. | .bind .. | .uploadVertices .. | .buildPipeline .. => true
  | _ => false

/-- Result of the check for a kept error. -/
def Event.check? : Event B → Option (Option String)
  | .takeValidationError result => some result
  | _ => none

def checks (trace : List (Event B)) : List (Option String) := trace.filterMap Event.check?

theorem checks_append (trace events : List (Event B)) :
    checks (trace ++ events) = checks trace ++ checks events := List.filterMap_append

theorem checks_eq_nil {events : List (Event B)} (h : ∀ event ∈ events, event.check? = none) :
    checks events = [] := List.filterMap_eq_nil_iff.2 h

/-- The call may set or read the kept error. -/
def Event.touchesError : Event B → Bool
  | .loadTexture .. | .bind .. | .uploadVertices .. | .buildPipeline .. | .takeValidationError _ =>
    true
  | _ => false

theorem touchesError_answer {α : Type} {answer : Answer B.State B.Note α} {call : α → Event B}
    (h : (call answer.value).touchesError = false) :
    ∀ event ∈ answer.events call, event.touchesError = false :=
  List.forall_mem_cons.2 ⟨h, List.forall_mem_map.2 fun _ _ => rfl⟩

def leadingNotes : List (Event B) → List B.Note
  | .note entry :: events => entry :: leadingNotes events
  | _ => []

theorem leadingNotes_append (earlier : List (Event B)) {later : List (Event B)}
    (h : leadingNotes later = []) : leadingNotes (earlier ++ later) = leadingNotes earlier := by
  induction earlier with
  | nil => exact h
  | cons event earlier ih =>
    cases event with
    | note entry => exact congrArg (List.cons entry) ih
    | _ => rfl

theorem leadingNotes_notes (notes : List B.Note) :
    leadingNotes (notes.map (Event.note (B := B))) = notes := by
  induction notes with
  | nil => rfl
  | cons entry notes ih => exact congrArg (List.cons entry) ih

theorem Replays.leading {Ready : B.State → Prop} {Holds : Event B → List B.Note → Prop}
    {before after : B.State} {events : List (Event B)}
    (h : Replays Ready Holds before events after) : leadingNotes events = [] := by
  cases h with
  | done => rfl
  | acquire => rfl
  | consult consults => cases consults <;> rfl
  | @aside _ _ event _ aside => cases event <;> first | rfl | cases aside

end ShaderPreview

namespace ShaderPreview.Graphics

variable {α β : Type}

/-! ### Steps that end no scope -/

def Call.scopeError? : Call → Option String
  | .device _ (.popErrorScope error) => error
  | _ => none

def scopeErrors (calls : List Call) : List String := calls.filterMap Call.scopeError?

theorem scopeErrors_append (first second : List Call) :
    scopeErrors (first ++ second) = scopeErrors first ++ scopeErrors second :=
  List.filterMap_append

/-- No scope captures an error in the step. -/
def Unscoped (step : GraphicsM α) : Prop :=
  ∀ system, scopeErrors (step.run system).2.calls = scopeErrors system.calls

theorem unscoped_pure (a : α) : Unscoped (pure a) := fun _ => rfl

theorem unscoped_bind {step : GraphicsM α} {f : α → GraphicsM β} (h : Unscoped step)
    (hf : ∀ a, Unscoped (f a)) : Unscoped (step >>= f) :=
  fun system => (hf _ _).trans (h system)

theorem unscoped_note {call : Call} (h : call.scopeError? = none) : Unscoped (note call) := by
  intro system
  show scopeErrors (system.calls ++ [call]) = _
  rw [scopeErrors_append, scopeErrors, scopeErrors, List.filterMap_cons_none h, List.filterMap_nil,
    List.append_nil]

theorem unscoped_create (device : Device) (make : Nat → α) {call : α → DeviceCall}
    (h : ∀ object, (Call.device device (call object)).scopeError? = none) :
    Unscoped (device.create make call) :=
  unscoped_bind (fun _ => rfl) fun _ =>
    unscoped_bind (unscoped_note (h _)) fun _ => unscoped_pure _

theorem unscoped_loadTexture (device : Device) (channel : Nat) (image : ChannelImage) :
    Unscoped (loadTexture device channel image) :=
  unscoped_bind (unscoped_create _ _ fun _ => rfl) fun _ =>
    unscoped_bind (unscoped_create _ _ fun _ => rfl) fun _ => unscoped_pure _

theorem unscoped_uniforms (device : Device) (canvas : CanvasSize) :
    Unscoped (Uniforms.create device canvas) := by
  have hbuffer (label : String) (contents : List UInt8) :
      Unscoped (Uniforms.createBuffer device label contents) := unscoped_create _ _ fun _ => rfl
  exact unscoped_bind (hbuffer _ _) fun _ => unscoped_bind (hbuffer _ _) fun _ =>
    unscoped_bind (hbuffer _ _) fun _ => unscoped_pure _

theorem unscoped_groups (device : Device) (canvas : CanvasSize)
    (textures : PerChannel (Option ChannelTexture)) : Unscoped (bind device canvas textures) :=
  unscoped_bind (unscoped_uniforms device canvas) fun _ =>
    unscoped_bind (unscoped_create _ _ fun _ => rfl) fun _ =>
      unscoped_bind (unscoped_create _ _ fun _ => rfl) fun _ => unscoped_pure _

theorem unscoped_uploadVertices (device : Device) (vertices : VertexData) :
    Unscoped (uploadVertices device vertices) := unscoped_create _ _ fun _ => rfl

theorem unscoped_buildPipeline (device : Device) (stages : PipelineStages ShaderObject)
    (resources : BoundResources) (target : TextureFormat) :
    Unscoped (buildPipeline device stages resources target) :=
  unscoped_bind (unscoped_create _ _ fun _ => rfl) fun _ => unscoped_create _ _ fun _ => rfl

/-! ### Steps in a scope -/

theorem scopeErrors_pop (device : Device) (system : System) :
    scopeErrors (device.popErrorScope.run system).2.calls =
      scopeErrors system.calls ++ (device.popErrorScope.run system).1.toList := by
  have hpop (error : Option String) :
      scopeErrors (system.calls ++ [.device device (.popErrorScope error)]) =
        scopeErrors system.calls ++ error.toList := by
    rw [scopeErrors_append]
    cases error <;> rfl
  obtain ⟨answers, created, calls⟩ := system
  obtain ⟨_, _, _, scopes, _, _, _, _, _⟩ := answers
  cases scopes with
  | nil => exact hpop none
  | cons error scopes => exact hpop error

theorem scopeErrors_inErrorScope (device : Device) {step : GraphicsM α} (h : Unscoped step)
    (system : System) :
    scopeErrors ((device.inErrorScope step).run system).2.calls =
      scopeErrors system.calls ++ ((device.inErrorScope step).run system).1.2.toList := by
  let opened := ((device.ask (.pushErrorScope .validation)).run system).2
  have hpush : (Call.device device (.pushErrorScope .validation)).scopeError? = none := rfl
  have hopened : scopeErrors opened.calls = scopeErrors system.calls := unscoped_note hpush system
  have hclosed := scopeErrors_pop device (step.run opened).2
  rw [h opened, hopened] at hclosed
  exact hclosed

namespace Screen

variable {screen : Screen} {device : Device}

theorem ensures_bind {system : System} {step : ScreenM α} {f : α → ScreenM β}
    {mid : α → Screen → Prop} {post : β → Screen → List Call → Prop}
    (h : Ensures step screen system fun a later _ => mid a later)
    (hf : ∀ a later between, mid a later → Ensures (f a) later between post) :
    Ensures (step >>= f) screen system post := hf _ _ _ h

theorem guarded_latches (h : screen.device = some device) (label : String)
    {step : Device → GraphicsM α} (hstep : Unscoped (step device)) (system : System) :
    Ensures (guarded label step) screen system fun _ after calls => ∃ error : Option String,
      after.validationError = screen.validationError.or error ∧
        scopeErrors calls = scopeErrors system.calls ++ error.toList := by
  refine ensures_get ?_
  rw [h]
  refine ensures_lift ?_
  have herrors := scopeErrors_inErrorScope device hstep system
  generalize (device.inErrorScope (step device)).run system = result at herrors
  obtain ⟨⟨value, error⟩, later⟩ := result
  cases error with
  | none => exact ensures_pure ⟨none, (Option.or_none ..).symm, herrors⟩
  | some text =>
    have hreport : Unscoped
        (report .warning "GPU validation error" [("error", text), ("label", label)]) :=
      unscoped_note rfl
    exact ensures_lift (ensures_modify (ensures_pure
      ⟨some text, rfl, (hreport later).trans herrors⟩))

theorem buildPipeline_latches {target : TextureFormat} (hdevice : screen.device = some device)
    (htarget : screen.window.bind WindowSurface.format? = some target)
    (stages : PipelineStages ShaderObject) (resources : BoundResources) (system : System) :
    Ensures (buildPipeline stages resources) screen system fun _ after calls =>
      ∃ error : Option String, after.validationError = screen.validationError.or error ∧
        scopeErrors calls = scopeErrors system.calls ++ error.toList := by
  refine ensures_get ?_
  rw [htarget]
  exact guarded_latches hdevice _ (unscoped_buildPipeline _ _ _ _) system

theorem compile_kept (h : screen.device = some device) (frontEnd : FrontEnd)
    (source : ComposedSource) (label : String) (system : System) :
    Ensures (compile frontEnd source label) screen system fun _ after _ =>
      after.validationError = screen.validationError := by
  refine ensures_get ?_
  rw [h]
  dsimp only
  -- the error of a scope around a compilation is made a diagnostic of it
  split
  · exact ensures_pure rfl
  · exact ensures_lifted rfl

theorem ensureSurface_kept (screen : Screen) (system : System) :
    Ensures ensureSurface screen system fun _ after _ =>
      after.validationError = screen.validationError := by
  refine ensures_get ?_
  cases screen.window with
  | some window => exact ensures_pure rfl
  | none =>
    refine ensures_lift ?_
    generalize (Gateway.createSurface.run system).1 = made
    cases made with
    | ok surface => exact ensures_modify (ensures_pure rfl)
    | error failure => exact ensures_lift (ensures_pure rfl)

theorem acquire_forgets (canvas : CanvasSize) (screen : Screen) (system : System) :
    Ensures (acquire canvas) screen system fun _ after _ => after.validationError = none := by
  -- the error is dropped before anything can fail, and nothing behind that keeps one
  refine ensures_modify (ensures_bind (ensureSurface_kept _ system) ?_)
  intro found later between hnone
  cases found with
  | none => exact ensures_pure hnone
  | some window =>
    refine ensures_get (ensures_lift ?_)
    generalize (later.gateway.acquire (some window.surface)).run between = given
    obtain ⟨⟨device, gateway⟩, between⟩ := given
    refine ensures_modify ?_
    cases device with
    | none => exact ensures_pure hnone
    | some device => exact ensures_lift (ensures_modify (ensures_pure hnone))

theorem acquire_regardless (canvas : CanvasSize) (screen : Screen) (kept : Option String) :
    answer (acquire canvas) { screen with validationError := kept } =
      answer (acquire canvas) screen := rfl

theorem answer_latches {step : ScreenM α} {screen : Screen}
    (h : Ensures step screen { screen.system with calls := [] } fun _ after calls =>
      ∃ error : Option String, after.validationError = screen.validationError.or error ∧
        scopeErrors calls = scopeErrors [] ++ error.toList) :
    (answer step screen).state.validationError =
      screen.validationError.or (scopeErrors (answer step screen).notes).head? := by
  obtain ⟨error, hkept, herrors⟩ := h
  have hhead : (scopeErrors (answer step screen).notes).head? = error := by
    refine (congrArg List.head? herrors).trans ?_
    cases error <;> rfl
  rw [hhead]
  exact hkept

end Screen

/-! ### Captured errors -/

section

variable {frontEnd : FrontEnd} {before after : (backend frontEnd).State}
  {event : Event (backend frontEnd)} {events : List (Event (backend frontEnd))}

/-- Errors captured around texture uploads, bindings, vertex uploads and pipelines, in order. -/
def captured : List (Event (backend frontEnd)) → List String
  | [] => []
  | event :: events =>
    (if event.isGuarded then scopeErrors (leadingNotes events) else []) ++ captured events

theorem captured_append (earlier : List (Event (backend frontEnd)))
    {later : List (Event (backend frontEnd))} (h : leadingNotes later = []) :
    captured (earlier ++ later) = captured earlier ++ captured later := by
  induction earlier with
  | nil => rfl
  | cons event earlier ih =>
    rw [List.cons_append, captured, captured, leadingNotes_append earlier h, ih, List.append_assoc]

theorem captured_unguarded (h : ∀ event ∈ events, event.isGuarded = false) :
    captured events = [] := by
  induction events with
  | nil => rfl
  | cons event events ih =>
    obtain ⟨hevent, hevents⟩ := List.forall_mem_cons.1 h
    rw [captured, hevent, ih hevents]
    rfl

theorem untouched (h : ∀ event ∈ events, event.touchesError = false) :
    checks events = [] ∧ captured events = [] := by
  constructor
  · refine checks_eq_nil fun event he => ?_
    have hevent := h event he
    cases event <;> first | rfl | cases hevent
  · refine captured_unguarded fun event he => ?_
    have hevent := h event he
    cases event <;> first | rfl | cases hevent

theorem captured_call (event : Event (backend frontEnd)) (notes : List (backend frontEnd).Note) :
    captured (event :: notes.map .note) = if event.isGuarded then scopeErrors notes else [] := by
  have hnotes : captured (notes.map (Event.note (B := backend frontEnd))) = [] :=
    captured_unguarded (List.forall_mem_map.2 fun _ _ => rfl)
  rw [captured, leadingNotes_notes, hnotes, List.append_nil]

theorem consults_latched {notes : List (backend frontEnd).Note} (h : Screen.Ready before)
    (hconsults : Consults before event notes after) (hstage : event.isStage = true)
    (hcheck : event.check? = none) :
    Screen.validationError after =
      (Screen.validationError before).or (captured (event :: notes.map .note)).head? := by
  obtain ⟨device, window, target, hdevice, hwindow, htarget⟩ := h.found
  rw [captured_call]
  cases hconsults with
  | compile asked =>
    subst asked
    exact (Screen.compile_kept hdevice frontEnd _ _ _).trans (Option.or_none ..).symm
  | loadTexture asked =>
    subst asked
    exact Screen.answer_latches
      (Screen.guarded_latches hdevice _ (unscoped_loadTexture device _ _) _)
  | bind asked =>
    subst asked
    exact Screen.answer_latches (Screen.guarded_latches hdevice _ (unscoped_groups device _ _) _)
  | uploadVertices asked =>
    subst asked
    exact Screen.answer_latches
      (Screen.guarded_latches hdevice _ (unscoped_uploadVertices device _) _)
  | buildPipeline asked =>
    subst asked
    exact Screen.answer_latches (Screen.buildPipeline_latches hdevice htarget _ _ _)
  | takeValidationError => cases hcheck
  | draw => cases hstage

theorem replays_latched (h : Replays Screen.Ready Unexceptional before events after)
    (hstage : ∀ event ∈ events, event.isStage = true) (hchecks : checks events = []) :
    Screen.validationError after =
      (Screen.validationError before).or (captured events).head? := by
  -- on the replay, one call after another: what was kept before a call comes first
  induction h with
  | done => exact (Option.or_none ..).symm
  | acquire => cases hstage _ List.mem_cons_self
  | @consult before between after event notes events consults ready holds rest ih =>
    rw [checks_append, List.append_eq_nil_iff] at hchecks
    obtain ⟨hfirst, hrest⟩ := hchecks
    obtain ⟨hcall, hevents⟩ := List.forall_mem_append.1 hstage
    have hcheck : event.check? = none := List.filterMap_eq_nil_iff.1 hfirst _ List.mem_cons_self
    have hbetween := consults_latched ready consults (hcall _ List.mem_cons_self) hcheck
    rw [ih hevents hrest, hbetween, captured_append _ rest.leading, List.head?_append,
      Option.or_assoc]
  | @aside before after event events aside rest ih =>
    obtain ⟨_, hevents⟩ := List.forall_mem_cons.1 hstage
    have hunguarded : event.isGuarded = false := by
      cases event <;> first | rfl | cases aside
    have hcheck : event.check? = none := by
      cases event <;> first | rfl | cases aside
    rw [checks, List.filterMap_cons_none hcheck] at hchecks
    rw [ih hevents hchecks, captured, hunguarded]
    rfl

end

end ShaderPreview.Graphics
