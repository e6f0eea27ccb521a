import ShaderPreview.Proofs.Graphics.Noted
import ShaderPreview.Proofs.Session.History

/-!
# Error scopes and render targets

Objects are created inside error scopes, which are not nested, and the target of a pipeline is the
format of the surface it is drawn on. The formats of a surface are queried at every configuration,
while a pipeline stores the format in force when it was built. The invariant relates the two by the
last acquisition: the pipeline was built after it, and no later call changes the configuration.
-/

namespace ShaderPreview.Graphics

variable {frontEnd : FrontEnd} {H : FrameHost}

/-! ### Brackets -/

def DeviceCall.isEdge : DeviceCall → Bool
  | .pushErrorScope _ | .popErrorScope _ => true
  | _ => false

def DeviceCall.isCreation : DeviceCall → Bool
  | .createShader _ | .createBuffer _ | .createTexture _ | .createSampler _
  | .createBindGroupLayout _ | .createBindGroup _ | .createPipelineLayout _
  | .createRenderPipeline _ => true
  | _ => false

/-- The call neither opens nor needs a scope. -/
def Call.isPlain : Call → Bool
  | .device _ request => !request.isEdge && !request.isCreation
  | _ => true

/-- Scopes are not nested, every scope is closed, and objects are created only inside scopes. -/
inductive Bracketed : List Call → Prop
  | done : Bracketed []
  | plain {call : Call} {calls : List Call} (plain : call.isPlain = true)
      (rest : Bracketed calls) : Bracketed (call :: calls)
  | inScope (device : Device) {created : List DeviceCall} (error : Option String)
      {calls : List Call} (inner : ∀ request ∈ created, request.isEdge = false)
      (rest : Bracketed calls) : Bracketed (scope device created error ++ calls)

theorem Bracketed.append {first later : List Call} (h₁ : Bracketed first) (h₂ : Bracketed later) :
    Bracketed (first ++ later) := by
  induction h₁ with
  | done => exact h₂
  | plain plain _ ih => exact .plain plain ih
  | inScope device error inner _ ih =>
    rw [List.append_assoc]
    exact .inScope device error inner ih

theorem bracketed_plain {calls : List Call} (h : ∀ call ∈ calls, call.isPlain = true) :
    Bracketed calls := by
  induction calls with
  | nil => exact .done
  | cons call calls ih =>
    obtain ⟨hcall, hcalls⟩ := List.forall_mem_cons.1 h
    exact .plain hcall (ih hcalls)

/-! ### What was set last -/

def Call.pipeline? : Call → Option RenderPipeline
  | .device _ (.setPipeline pipeline) => some pipeline
  | _ => none

def Call.pass? : Call → Option Surface
  | .device _ (.beginPass _ surface _ _ _) => some surface
  | _ => none

/-- Capabilities returned by a query. -/
def Call.offer? : Call → Option (Surface × SurfaceCapabilities)
  | .capabilities surface offered => some (surface, offered)
  | _ => none

def inUse : List Call → Option RenderPipeline := latest Call.pipeline?

def drawnOn : List Call → Option Surface := latest Call.pass?

def inForce : List Call → Option (Surface × SurfaceConfiguration) := latest Call.configuration?

/-- Capabilities of a surface at its last query. -/
def supported : List Call → Option (Surface × SurfaceCapabilities) := latest Call.offer?

theorem latest_silent {α : Type} {tells : Call → Option α} (past : List Call) {asked : List Call}
    (h : ∀ call ∈ asked, tells call = none) : latest tells (past ++ asked) = latest tells past :=
  latest_unchanged past fun call hcall => .inl (h call hcall)

def Screen.configuration? (screen : Screen) : Option (Surface × SurfaceConfiguration) :=
  screen.window.bind fun window => window.configuration.map (window.surface, ·)

/-! ### The chosen format -/

theorem chooseFormat_supported {formats : List TextureFormat} (h : formats ≠ []) :
    chooseFormat formats ∈ formats ∧
    ((∃ format ∈ formats, format.isSrgb = false) → (chooseFormat formats).isSrgb = false) := by
  unfold chooseFormat
  cases hplain : formats.find? fun format => !format.isSrgb with
  | some format =>
    have hfound := List.find?_some hplain
    exact ⟨List.mem_of_find?_eq_some hplain, fun _ => by simpa using hfound⟩
  | none =>
    rw [List.find?_eq_none] at hplain
    obtain ⟨first, rest, rfl⟩ := List.exists_cons_of_ne_nil h
    refine ⟨List.mem_cons_self, fun ⟨format, hformat, hlinear⟩ => ?_⟩
    exact absurd (by rw [hlinear]; rfl) (hplain format hformat)

/-! ### What the calls of a screen are -/

section

variable {before after : Screen} {event : Event (backend frontEnd)} {asked : List Call}

theorem Creates.isCreation {created : List DeviceCall} (h : Creates before event created) :
    ∀ request ∈ created, request.isCreation = true := by
  cases h <;> simp [BoundResources.creations, DeviceCall.isCreation]

theorem DeviceCall.edge_of_creation {request : DeviceCall} (h : request.isCreation = true) :
    request.isEdge = false := by
  cases request <;> first | rfl | cases h

theorem configuration_of_creation {request : DeviceCall} (device : Device)
    (h : request.isCreation = true) : (Call.device device request).configuration? = none := by
  cases request <;> first | rfl | cases h

theorem plain_writes (device : Device) (resources : BoundResources) (frame : FrameInput) :
    ∀ call ∈ uniformWrites device resources frame, call.isPlain = true :=
  List.forall_mem_cons.2 ⟨rfl, List.forall_mem_singleton.2 rfl⟩

theorem plain_frame (device : Device) (surface : Surface) (pipeline : RenderPipeline)
    (resources : BoundResources) (vertices : Option Buffer) (vertexCount : Nat) :
    ∀ call ∈ frameCalls device surface pipeline resources vertices vertexCount,
      call.isPlain = true := by
  cases vertices <;> simp [frameCalls, Call.isPlain, DeviceCall.isEdge, DeviceCall.isCreation]

theorem Notes.plain_or_scope (h : Notes before event asked) :
    (∀ call ∈ asked, call.isPlain = true) ∨
      ∃ device created error, ∃ reports : List Report, Creates before event created ∧
        asked = scope device created error ++ reports.map .report := by
  cases h with
  | nothing => exact .inl (List.forall_mem_nil _)
  | created found creates error reports => exact .inr ⟨_, _, error, reports, creates, rfl⟩
  | skipped found shown same =>
    refine .inl (List.forall_mem_append.2 ⟨plain_writes _ _ _, ?_⟩)
    exact List.forall_mem_cons.2 ⟨rfl, List.forall_mem_map.2 fun _ _ => rfl⟩
  | drawn found shown =>
    refine .inl (List.forall_mem_append.2 ⟨plain_writes _ _ _, ?_⟩)
    exact List.forall_mem_cons.2 ⟨rfl, plain_frame _ _ _ _ _ _⟩

theorem Notes.bracketed (h : Notes before event asked) : Bracketed asked := by
  obtain hplain | ⟨device, created, error, reports, hcreates, rfl⟩ := h.plain_or_scope
  · exact bracketed_plain hplain
  · refine .inScope device error (fun request hrequest => ?_) (bracketed_plain ?_)
    · exact DeviceCall.edge_of_creation (hcreates.isCreation request hrequest)
    · exact List.forall_mem_map.2 fun _ _ => rfl

theorem Acquires.plain {canvas : CanvasSize} {available : Bool}
    (h : Acquires canvas before after available asked) : ∀ call ∈ asked, call.isPlain = true := by
  intro call hcall
  obtain hapart | ⟨device, surface, configuration, rfl⟩ := h.configures call hcall
  · cases call <;> first | rfl | cases hapart
  · rfl

theorem Notes.configuration (h : Notes before event asked) : ∀ call ∈ asked,
    call.configuration? = none ∨ call.configuration? = before.configuration? := by
  cases h with
  | nothing => exact List.forall_mem_nil _
  | @created event device created found creates error reports =>
    refine List.forall_mem_append.2 ⟨List.forall_mem_cons.2 ⟨.inl rfl, ?_⟩, ?_⟩
    · refine List.forall_mem_append.2 ⟨?_, List.forall_mem_singleton.2 (.inl rfl)⟩
      exact List.forall_mem_map.2 fun request hrequest =>
        .inl (configuration_of_creation device (creates.isCreation request hrequest))
    · exact List.forall_mem_map.2 fun _ _ => .inl rfl
  | @skipped pipeline resources vertices frame result device window fault again found shown same =>
    refine List.forall_mem_append.2 ⟨?_, List.forall_mem_cons.2 ⟨.inl rfl, ?_⟩⟩
    · exact List.forall_mem_cons.2 ⟨.inl rfl, List.forall_mem_singleton.2 (.inl rfl)⟩
    · refine List.forall_mem_map.2 fun configuration hconfiguration => .inr ?_
      rw [Screen.configuration?, shown, Option.bind_some, same configuration hconfiguration]
      rfl
  | @drawn pipeline resources vertices frame result device window found shown =>
    refine List.forall_mem_append.2 ⟨?_, List.forall_mem_cons.2 ⟨.inl rfl, ?_⟩⟩
    · exact List.forall_mem_cons.2 ⟨.inl rfl, List.forall_mem_singleton.2 (.inl rfl)⟩
    · cases vertices <;> simp [frameCalls, Call.configuration?]

theorem Notes.force (h : Notes before event asked) {past : List Call}
    (hforce : inForce past = before.configuration?) : inForce (past ++ asked) = inForce past :=
  latest_unchanged past fun call hcall =>
    (h.configuration call hcall).imp_right fun hsame => hsame.trans hforce.symm

theorem Notes.supported (h : Notes before event asked) (past : List Call) :
    supported (past ++ asked) = supported past := by
  refine latest_silent past fun call hcall => ?_
  obtain ⟨device, _, hwithin⟩ := h.within hcall
  cases call with
  | capabilities => exact hwithin.elim
  | _ => rfl

theorem SurfaceFound.configuration {window : Option WindowSurface}
    (h : SurfaceFound before window asked) (hshown : after.window = window) :
    after.configuration? = before.configuration? := by
  unfold Screen.configuration?
  rw [hshown]
  cases h with
  | kept shown => rw [shown]
  | made surface absent =>
    rw [absent]
    rfl
  | refused error report absent => rw [absent]

theorem SurfaceFound.unoffered {window : Option WindowSurface}
    (h : SurfaceFound before window asked) : ∀ call ∈ asked, call.offer? = none := by
  cases h <;> simp [Call.offer?]

theorem DeviceFound.unoffered {gateway : Gateway} {surface : Surface} {given : Option Device}
    (h : DeviceFound gateway surface given asked) : ∀ call ∈ asked, call.offer? = none := by
  cases h <;> simp [Call.offer?]

theorem Acquires.force {canvas : CanvasSize} {available : Bool}
    (h : Acquires canvas before after available asked) (past : List Call) :
    (inForce (past ++ asked) = inForce past ∧ Graphics.supported (past ++ asked) =
      Graphics.supported past ∧ after.configuration? = before.configuration?) ∨
    ∃ surface offered, inForce (past ++ asked) = some (surface, configurationFor offered canvas) ∧
      Graphics.supported (past ++ asked) = some (surface, offered) ∧
      after.configuration? = some (surface, configurationFor offered canvas) := by
  cases h with
  | noSurface found absent =>
    refine .inl ⟨latest_silent past fun call hcall => ?_, latest_silent past found.unoffered,
      found.configuration absent⟩
    exact Call.unconfigured_apart (found.apart call hcall)
  | noDevice found given shown =>
    have hapart := List.forall_mem_append.2 ⟨found.apart, given.apart⟩
    have hunoffered := List.forall_mem_append.2 ⟨found.unoffered, given.unoffered⟩
    refine .inl ⟨latest_silent past fun call hcall => ?_, latest_silent past hunoffered,
      found.configuration shown⟩
    exact Call.unconfigured_apart (hapart call hcall)
  | @configured window device opening requests offered found given shown =>
    let offer : Call := .capabilities window.surface offered
    let configures : Call :=
      .device device (.configure window.surface (configurationFor offered canvas))
    have hcalls : past ++ (opening ++ (requests ++ [offer, configures])) =
        past ++ opening ++ requests ++ [offer] ++ [configures] := by
      simp only [List.append_assoc, List.singleton_append]
    refine .inr ⟨window.surface, offered, ?_, ?_, ?_⟩
    · rw [hcalls]
      exact latest_told _ rfl
    · rw [hcalls, Graphics.supported, latest_untold _ rfl]
      exact latest_told _ rfl
    · rw [Screen.configuration?, shown]
      rfl

end

/-! ### Histories -/

/-- Scopes are well bracketed, and the configuration of the screen is the one in force, with the
format chosen from the capabilities at its last query. -/
structure Fitted (past : List Call) (screen : Screen) : Prop where
  bracketed : Bracketed past
  force : inForce past = screen.configuration?
  chosen {surface : Surface} {configuration : SurfaceConfiguration} :
    inForce past = some (surface, configuration) → ∃ offered,
      supported past = some (surface, offered) ∧
        configuration.format = chooseFormat offered.formats

theorem fitted_start (system : System) (gateway : Gateway) :
    Fitted [] (Screen.start system gateway) := ⟨.done, rfl, nofun⟩

section

variable {past asked : List Call} {before after : Screen}

theorem Fitted.notes (h : Fitted past before) (hsame : Screen.Same before after)
    {event : Event (backend frontEnd)} (hnotes : Notes before event asked) :
    Fitted (past ++ asked) after := by
  have hforce := hnotes.force h.force
  refine ⟨h.bracketed.append hnotes.bracketed, ?_, fun {surface configuration} hthen => ?_⟩
  · rw [hforce, h.force, Screen.configuration?, Screen.configuration?, hsame.window]
  · rw [hforce] at hthen
    rw [hnotes.supported]
    exact h.chosen hthen

theorem Fitted.acquires (h : Fitted past before) {canvas : CanvasSize} {available : Bool}
    (hacquires : Acquires canvas before after available asked) : Fitted (past ++ asked) after := by
  refine ⟨h.bracketed.append (bracketed_plain hacquires.plain), ?_,
    fun {surface configuration} hthen => ?_⟩
  · obtain ⟨hforce, _, hscreen⟩ | ⟨_, _, hforce, _, hscreen⟩ := hacquires.force past
    · rw [hforce, hscreen]
      exact h.force
    · rw [hforce, hscreen]
  · obtain ⟨hforce, hsupported, _⟩ | ⟨_, offered, hforce, hsupported, _⟩ := hacquires.force past
    · rw [hsupported]
      exact h.chosen (hforce.symm.trans hthen)
    · cases hforce.symm.trans hthen
      exact ⟨offered, hsupported, rfl⟩

end

/-- A pipeline built since the last acquisition has the format of the surface. -/
def BuiltForSurface (past : List (Event (backend frontEnd))) (screen : Screen) : Prop :=
  ∀ pipeline, Builds (sinceAcquire past) pipeline →
    screen.window.bind WindowSurface.format? = some pipeline.target

section

variable {past : List (Event (backend frontEnd))} {before after : Screen}

theorem Creates.pipeline_target {stages : PipelineStages ShaderObject} {resources : BoundResources}
    {pipeline : RenderPipeline} {created : List DeviceCall}
    (h : @Creates frontEnd before (.buildPipeline stages resources (.ok pipeline)) created) :
    before.window.bind WindowSurface.format? = some pipeline.target := by
  cases h with
  | pipeline target => exact target

theorem BuiltForSurface.consult (h : BuiltForSurface past before)
    {event : Event (backend frontEnd)} {entries : List (backend frontEnd).Note}
    (hconsults : Consults before event entries after) :
    BuiltForSurface (past ++ event :: entries.map .note) after := by
  obtain ⟨hsame, hnotes⟩ := consults_noted hconsults
  have hunacquired : ∀ other ∈ event :: entries.map .note, other.isAcquire = false :=
    List.forall_mem_cons.2 ⟨hconsults.isAcquire, isAcquire_notes entries⟩
  intro pipeline hbuilds
  rw [sinceAcquire_append past hunacquired] at hbuilds
  rw [hsame.window]
  obtain ⟨stages, resources, he⟩ := hbuilds
  obtain hbefore | hnew := List.mem_append.1 he
  · exact h pipeline ⟨stages, resources, hbefore⟩
  · obtain rfl | hnote := List.mem_cons.1 hnew
    · obtain ⟨_, created, _, hcreates, _⟩ := hnotes.creates rfl
      exact hcreates.pipeline_target
    · obtain ⟨_, _, hnever⟩ := List.mem_map.1 hnote
      cases hnever

theorem builtForSurface_acquire (past : List (Event (backend frontEnd))) (canvas : CanvasSize)
    (answer : Answer (backend frontEnd).State (backend frontEnd).Note Bool) (screen : Screen) :
    BuiltForSurface (past ++ answer.events (.acquire canvas)) screen := by
  intro pipeline hbuilds
  rw [Answer.events, sinceAcquire_acquire past rfl (isAcquire_notes answer.notes)] at hbuilds
  obtain ⟨_, _, he⟩ := hbuilds
  obtain ⟨_, _, hnever⟩ := List.mem_map.1 he
  cases hnever

theorem BuiltForSurface.aside (h : BuiltForSurface past before) {event : Event (backend frontEnd)}
    (haside : event.isBackend = false) : BuiltForSurface (past ++ [event]) before := by
  have hunacquired : ∀ other ∈ [event], other.isAcquire = false := by
    refine List.forall_mem_singleton.2 ?_
    cases event <;> first | rfl | cases haside
  intro pipeline hbuilds
  rw [sinceAcquire_append past hunacquired] at hbuilds
  obtain ⟨stages, resources, he⟩ := hbuilds
  refine h pipeline ⟨stages, resources, (List.mem_append.1 he).resolve_right fun hnew => ?_⟩
  cases List.mem_singleton.1 hnew
  cases haside

end

/-! ### Draws -/

def Call.isDraw : Call → Bool
  | .device _ (.draw _) => true
  | _ => false

/-- The target of the current pipeline is the format in force on the surface, chosen from the
capabilities at its last query. -/
def TargetsSurface (calls : List Call) : Prop :=
  ∃ pipeline surface configuration offered, inUse calls = some pipeline ∧
    drawnOn calls = some surface ∧ inForce calls = some (surface, configuration) ∧
    pipeline.target = configuration.format ∧ supported calls = some (surface, offered) ∧
    configuration.format = chooseFormat offered.formats

/-- At every draw, the target of the current pipeline is the format in force. -/
def DrawsTargetSurface (calls : List Call) : Prop :=
  ∀ earlier draw later, calls = earlier ++ draw :: later → draw.isDraw = true →
    TargetsSurface earlier

section

variable {past asked : List Call} {before : Screen}

theorem drawsTargetSurface_nil : DrawsTargetSurface [] := by
  intro earlier draw later hsplit
  cases (List.append_eq_nil_iff.1 hsplit.symm).2

theorem DrawsTargetSurface.append (h : DrawsTargetSurface past)
    (hasked : ∀ earlier draw later, asked = earlier ++ draw :: later → draw.isDraw = true →
      TargetsSurface (past ++ earlier)) : DrawsTargetSurface (past ++ asked) := by
  intro earlier draw later hsplit hdraw
  -- the draw is among the new calls, or it is the first of them, or it was there before
  obtain ⟨between, rfl, hbetween⟩ | ⟨between, hpast, hbetween⟩ :=
    List.append_eq_append_iff.1 hsplit
  · exact hasked between draw later hbetween hdraw
  · cases between with
    | nil =>
      rw [List.append_nil] at hpast
      have hhere := hasked [] draw later hbetween.symm hdraw
      rwa [List.append_nil, hpast] at hhere
    | cons first between =>
      obtain ⟨rfl, rfl⟩ := List.cons.inj hbetween
      exact h earlier draw between hpast hdraw

theorem DrawsTargetSurface.undrawn (h : DrawsTargetSurface past)
    (hasked : ∀ call ∈ asked, call.isDraw = false) : DrawsTargetSurface (past ++ asked) := by
  refine h.append fun earlier draw later hsplit hdraw => ?_
  have hnever := hasked draw (hsplit ▸ List.mem_append_right _ List.mem_cons_self)
  rw [hnever] at hdraw
  cases hdraw

theorem split_at_draw {earlier later opening closing : List Call} {draw other : Call}
    (h : opening ++ draw :: closing = earlier ++ other :: later) (hother : other.isDraw = true)
    (hopening : ∀ call ∈ opening, call.isDraw = false)
    (hclosing : ∀ call ∈ closing, call.isDraw = false) : earlier = opening := by
  have hnot {calls : List Call} (hcalls : ∀ call ∈ calls, call.isDraw = false) :
      other ∉ calls := not_mem_of_false hother hcalls
  obtain ⟨between, rfl, hbetween⟩ | ⟨between, rfl, hbetween⟩ := List.append_eq_append_iff.1 h
  · cases between with
    | nil => exact List.append_nil _
    | cons first between =>
      have htail := (List.cons.inj hbetween).2
      exact absurd (htail ▸ List.mem_append_right _ List.mem_cons_self) (hnot hclosing)
  · cases between with
    | nil => exact (List.append_nil _).symm
    | cons first between =>
      obtain ⟨rfl, _⟩ := List.cons.inj hbetween
      exact absurd (List.mem_append_right _ List.mem_cons_self) (hnot hopening)

theorem DrawsTargetSurface.frame (h : DrawsTargetSurface past) (hfitted : Fitted past before)
    {window : WindowSurface} (hwindow : before.window = some window) {pipeline : RenderPipeline}
    (htarget : before.window.bind WindowSurface.format? = some pipeline.target)
    (device : Device) (resources : BoundResources) (vertices : Option Buffer)
    (frame : FrameInput) :
    DrawsTargetSurface (past ++ (uniformWrites device resources frame ++
      .nextImage window.surface none ::
        frameCalls device window.surface pipeline resources vertices frame.vertexCount)) := by
  -- all that is set for the draw stands before it in the same frame, but for the configuration
  let opening : List Call := uniformWrites device resources frame ++
    .nextImage window.surface none :: .device device (.createEncoder "frame encoder") ::
    .device device (.beginPass "frame pass" window.surface clearColour true false) ::
    .device device (.setPipeline pipeline) ::
    .device device (.setBindGroup 0 resources.group []) ::
    vertices.toList.map fun buffer => .device device (.setVertexBuffer 0 buffer)
  let closing : List Call := [.device device .endPass, .device device .finish,
    .device device .submit, .present window.surface]
  have hcalls : uniformWrites device resources frame ++ .nextImage window.surface none ::
      frameCalls device window.surface pipeline resources vertices frame.vertexCount =
        opening ++ .device device (.draw frame.vertexCount) :: closing := by
    cases vertices <;> rfl
  have hopening : ∀ call ∈ opening,
      call.isDraw = false ∧ call.configuration? = none ∧ call.offer? = none := by
    cases vertices <;>
      simp [opening, uniformWrites, Call.isDraw, Call.configuration?, Call.offer?]
  have hclosing : ∀ call ∈ closing, call.isDraw = false := by simp [closing, Call.isDraw]
  have huse : inUse opening = some pipeline := by cases vertices <;> rfl
  have hpass : drawnOn opening = some window.surface := by cases vertices <;> rfl
  have hforce : inForce (past ++ opening) = inForce past :=
    latest_silent _ fun call hcall => (hopening call hcall).2.1
  have hsupported : supported (past ++ opening) = supported past :=
    latest_silent _ fun call hcall => (hopening call hcall).2.2
  rw [hwindow] at htarget
  obtain ⟨configuration, hconfiguration, hformat⟩ := Option.map_eq_some_iff.1 htarget
  have hhere : inForce past = some (window.surface, configuration) := by
    rw [hfitted.force, Screen.configuration?, hwindow, Option.bind_some, hconfiguration]
    rfl
  obtain ⟨offered, hoffered, hchosen⟩ := hfitted.chosen hhere
  refine h.append fun earlier draw later hsplit hdraw => ?_
  rw [hcalls] at hsplit
  rw [split_at_draw hsplit hdraw (fun call hcall => (hopening call hcall).1) hclosing]
  refine ⟨pipeline, window.surface, configuration, offered, ?_, ?_, hforce.trans hhere,
    hformat.symm, hsupported.trans hoffered, hchosen⟩
  · rw [inUse, latest_append]
    exact (congrArg (Option.or · _) huse).trans (Option.some_or)
  · rw [drawnOn, latest_append]
    exact (congrArg (Option.or · _) hpass).trans (Option.some_or)

theorem isDraw_of_creation {request : DeviceCall} (device : Device)
    (h : request.isCreation = true) : (Call.device device request).isDraw = false := by
  cases request <;> first | rfl | cases h

theorem DrawsTargetSurface.consult (h : DrawsTargetSurface past) (hfitted : Fitted past before)
    {event : Event (backend frontEnd)} (hnotes : Notes before event asked)
    (htarget : ∀ pipeline resources vertices frame result,
      event = .draw pipeline resources vertices frame result →
      before.window.bind WindowSurface.format? = some pipeline.target) :
    DrawsTargetSurface (past ++ asked) := by
  cases hnotes with
  | nothing => exact h.undrawn (List.forall_mem_nil _)
  | created found creates error reports =>
    refine h.undrawn (List.forall_mem_append.2 ⟨List.forall_mem_cons.2 ⟨rfl, ?_⟩, ?_⟩)
    · refine List.forall_mem_append.2 ⟨?_, List.forall_mem_singleton.2 rfl⟩
      exact List.forall_mem_map.2 fun request hrequest =>
        isDraw_of_creation _ (creates.isCreation request hrequest)
    · exact List.forall_mem_map.2 fun _ _ => rfl
  | skipped =>
    refine h.undrawn (List.forall_mem_append.2 ⟨?_, List.forall_mem_cons.2 ⟨rfl, ?_⟩⟩)
    · exact List.forall_mem_cons.2 ⟨rfl, List.forall_mem_singleton.2 rfl⟩
    · exact List.forall_mem_map.2 fun _ _ => rfl
  | @drawn pipeline resources vertices frame result _ _ _ shown =>
    have hpipeline := htarget pipeline resources vertices frame result rfl
    exact h.frame hfitted shown hpipeline _ _ _ _

theorem Acquires.undrawn {after : Screen} {canvas : CanvasSize} {available : Bool}
    (h : Acquires canvas before after available asked) : ∀ call ∈ asked, call.isDraw = false := by
  intro call hcall
  obtain hapart | ⟨device, surface, configuration, rfl⟩ := h.configures call hcall
  · cases call <;> first | rfl | cases hapart
  · rfl

end

/-! ### Runs -/

/-- Invariant of histories whose draws use pipelines built since the last acquisition. -/
structure Targeted (past : List (Event (backend frontEnd))) (screen : Screen) : Prop where
  fitted : Fitted (notes past) screen
  built : BuiltForSurface past screen
  draws : DrawsTargetSurface (notes past)

theorem targeted_start (system : System) (gateway : Gateway) :
    @Targeted frontEnd [] (Screen.start system gateway) := by
  refine ⟨fitted_start system gateway, fun _ hbuilds => ?_, drawsTargetSurface_nil⟩
  obtain ⟨_, _, he⟩ := hbuilds
  cases he

theorem targeted_replayed {Ready : Screen → Prop}
    {Holds : Event (backend frontEnd) → List Call → Prop} {system : System} {gateway : Gateway}
    {events : List (Event (backend frontEnd))} {screen : Screen}
    (h : Replays (B := backend frontEnd) Ready Holds (Screen.start system gateway) events screen)
    (hdrawn : ∀ {earlier later pipeline resources vertices frame result},
      events = earlier ++ .draw pipeline resources vertices frame result :: later →
      Builds (sinceAcquire earlier) pipeline) : Targeted events screen := by
  refine h.along Targeted ?_ ?_ ?_ (targeted_start system gateway)
  · intro past canvas before answer asked htargeted
    have hacquires := acquire_noted asked
    have hcalls : notes (past ++ answer.events (.acquire canvas)) = notes past ++ answer.notes := by
      rw [notes_append, Answer.events, notes_call rfl]
    refine ⟨?_, builtForSurface_acquire past canvas answer _, ?_⟩
    · rw [hcalls]
      exact htargeted.fitted.acquires hacquires
    · rw [hcalls]
      exact htargeted.draws.undrawn hacquires.undrawn
  · intro past before event entries after later hevents consults _ _ htargeted
    obtain ⟨hsame, hnotes⟩ := consults_noted consults
    have hcalls : notes (past ++ event :: entries.map .note) = notes past ++ entries := by
      rw [notes_append, notes_call consults.note?]
    refine ⟨?_, htargeted.built.consult consults, ?_⟩
    · rw [hcalls]
      exact htargeted.fitted.notes hsame hnotes
    · rw [hcalls]
      refine htargeted.draws.consult htargeted.fitted hnotes ?_
      rintro pipeline resources vertices frame result rfl
      exact htargeted.built pipeline (hdrawn hevents)
  · intro past event state haside htargeted
    have hcalls := notes_aside past haside
    refine ⟨?_, htargeted.built.aside haside, ?_⟩
    · rw [hcalls]
      exact htargeted.fitted
    · rw [hcalls]
      exact htargeted.draws

/-- In every run error scopes are well bracketed and objects are created only inside them. At every
draw the target of the current pipeline is the format in force on the surface. It is among the
formats that the surface supported at its last configuration, if there were any, and non-sRGB if one
of them is. -/
theorem run_targeted (frontEnd : FrontEnd) (system : System) (gateway : Gateway)
    (ledger : Ledger H) (operations : List Operation) :
    let start : (backend frontEnd).State := Screen.start system gateway
    let loop := (RenderLoop.idle start ledger.initial).run frontEnd ledger operations
    Bracketed (notes loop.trace) ∧
    ∀ earlier device vertexCount later,
      notes loop.trace = earlier ++ .device device (.draw vertexCount) :: later →
      ∃ pipeline surface configuration offered, inUse earlier = some pipeline ∧
        drawnOn earlier = some surface ∧ inForce earlier = some (surface, configuration) ∧
        pipeline.target = configuration.format ∧ supported earlier = some (surface, offered) ∧
        (offered.formats ≠ [] → configuration.format ∈ offered.formats ∧
          ((∃ format ∈ offered.formats, format.isSrgb = false) →
            configuration.format.isSrgb = false)) := by
  intro start loop
  have hreplayed := RenderLoop.replayed_run (reliable frontEnd) frontEnd ledger start operations
  have hbuilt := RenderLoop.builtSinceAcquire_run frontEnd ledger start operations
  have htargeted := targeted_replayed hreplayed.replays hbuilt.drawn
  refine ⟨htargeted.fitted.bracketed, fun earlier device vertexCount later hsplit => ?_⟩
  obtain ⟨pipeline, surface, configuration, offered, huse, hpass, hforce, htarget, hsupported,
    hchosen⟩ := htargeted.draws earlier _ later hsplit rfl
  refine ⟨pipeline, surface, configuration, offered, huse, hpass, hforce, htarget, hsupported,
    fun hformats => ?_⟩
  rw [hchosen]
  exact chooseFormat_supported hformats

-- the formats change from one attempt to the next, and the pipelines follow them
example :
    let answers := { Answers.smooth with capabilities :=
      [⟨[⟨"Bgra8UnormSrgb"⟩], [], []⟩, ⟨[⟨"Rgba8UnormSrgb"⟩, ⟨"Rgba16Float"⟩], [], []⟩] }
    let frontEnd := FrontEnd.lenient [⟨"main", .fragment⟩]
    let request : RenderRequest := ⟨"", PerChannel.empty, none, ⟨4, 4⟩⟩
    let start : (backend frontEnd).State := Screen.start (.of answers) ⟨none⟩
    let loop := (RenderLoop.idle start FrameRegister.ledger.initial).run frontEnd
      FrameRegister.ledger [.start request 0, .frame ⟨1⟩ 1, .start request 2, .frame ⟨4⟩ 3]
    (notes loop.trace).filterMap (fun call => (Call.pipeline? call).map (·.target.name)) =
      ["Bgra8UnormSrgb", "Rgba16Float"] := by
  decide +kernel

end ShaderPreview.Graphics
