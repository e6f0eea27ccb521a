import ShaderPreview.Proofs.Graphics.Asked
import ShaderPreview.Proofs.Graphics.Screen

/-!
# Calls of a backend operation

The calls in the log of each backend operation. An operation on a session makes none without a
device, otherwise creates its objects in one error scope, or draws. An acquisition obtains the
surface, then the device, and configures the surface if it has both.
-/

namespace ShaderPreview.Graphics

variable {α β : Type} {frontEnd : FrontEnd}

namespace Screen

/-! ### Steps of a screen -/

section

variable {screen : Screen} {post : β × Screen → List Call → Prop}

theorem asks_screen {f : Screen → ScreenM β} (h : Asks (f screen screen) post) :
    Asks ((get >>= f) screen) post := h

theorem asks_modify {change : Screen → Screen} {f : Unit → ScreenM β}
    (h : Asks (f () (change screen)) post) :
    Asks ((modify change >>= f) screen) post := h

theorem asks_lift {step : GraphicsM α} {f : α → ScreenM β} {mid : α → List Call → Prop}
    (h : Asks step mid)
    (hf : ∀ a first, mid a first →
      Asks (f a screen) fun result later => post result (first ++ later)) :
    Asks ((liftM step >>= f) screen) post := h.bind hf

theorem asks_lifted {step : GraphicsM β} (h : Asks step fun b asked =>
    post (b, screen) asked) : Asks ((liftM step : ScreenM β) screen) post := by
  show Asks (step >>= fun b => pure (b, screen)) post
  refine h.bind fun b first hpost => asks_pure ?_
  rwa [List.append_nil]

theorem asks_after {step : ScreenM α} {f : α → ScreenM β} {mid : α × Screen → List Call → Prop}
    (h : Asks (step screen) mid)
    (hf : ∀ a between first, mid (a, between) first →
      Asks (f a between) fun result later => post result (first ++ later)) :
    Asks ((step >>= f) screen) post := h.bind fun _ first hmid => hf _ _ first hmid

end

/-- Surface, device and gateway are unchanged. -/
structure Same (before after : Screen) : Prop extends Keeps before after where
  gateway : after.gateway = before.gateway

theorem answer_asks {step : ScreenM α} {screen : Screen} {post : α × Screen → List Call → Prop}
    (h : Asks (step screen) post) :
    post ((step screen).run { screen.system with calls := [] }).1 (answer step screen).notes := by
  obtain ⟨asked, hcalls, hpost⟩ := h { screen.system with calls := [] }
  have hnotes : (answer step screen).notes = asked := hcalls
  rw [hnotes]
  exact hpost

theorem answer_kept {step : ScreenM α} {screen : Screen} (holds : α → List Call → Prop)
    (h : Asks (step screen) fun result asked =>
      Keeps screen result.2 ∧ result.2.gateway = screen.gateway ∧ holds result.1 asked) :
    Same screen (answer step screen).state ∧
      holds (answer step screen).value (answer step screen).notes := by
  obtain ⟨hkeeps, hgateway, hholds⟩ := answer_asks h
  exact ⟨⟨⟨hkeeps.device, hkeeps.window⟩, hgateway⟩, hholds⟩

/-! ### Creations -/

/-- Calls of a guarded step: nothing without a device, otherwise its objects are created inside a
scope. -/
def Guarded (screen : Screen) (post : α → List DeviceCall → Prop) (result : Except Failure α)
    (asked : List Call) : Prop :=
  (∃ failure, result = .error failure ∧ asked = []) ∨
    ∃ device a created error, ∃ reports : List Report, screen.device = some device ∧
      result = .ok a ∧ post a created ∧
      asked = scope device created error ++ reports.map .report

theorem asks_guarded (screen : Screen) (label : String) {step : Device → GraphicsM α}
    {post : α → List DeviceCall → Prop}
    (h : ∀ device, Asks (step device) fun a asked =>
      ∃ created, asked = created.map (.device device) ∧ post a created) :
    Asks (guarded label step screen) fun result asked =>
      Keeps screen result.2 ∧ result.2.gateway = screen.gateway ∧
        Guarded screen post result.1 asked := by
  refine asks_screen ?_
  cases hdevice : screen.device with
  | none => exact asks_pure ⟨⟨rfl, rfl⟩, rfl, .inl ⟨_, rfl, rfl⟩⟩
  | some device =>
    refine asks_lift (asks_inErrorScope (h device)) fun (a, error) first hfirst => ?_
    obtain ⟨created, rfl, hpost⟩ := hfirst
    cases error with
    | none =>
      exact asks_pure ⟨⟨rfl, rfl⟩, rfl, .inr ⟨device, a, created, _, [], hdevice, rfl, hpost, rfl⟩⟩
    | some text =>
      refine asks_lift (asks_note _) fun _ _ hreport => asks_modify (asks_pure ?_)
      subst hreport
      exact ⟨⟨rfl, rfl⟩, rfl, .inr ⟨device, a, created, _, [_], hdevice, rfl, hpost, rfl⟩⟩

end Screen

def Call.configuration? : Call → Option (Surface × SurfaceConfiguration)
  | .device _ (.configure surface configuration) => some (surface, configuration)
  | _ => none

/-! ### Calls for a session -/

def hasCreated : Event (backend frontEnd) → Bool
  | .loadTexture _ _ (.ok _) | .bind _ _ (.ok _) | .uploadVertices _ (.ok _)
  | .buildPipeline _ _ (.ok _) => true
  | _ => false

/-- Objects created by a backend call. -/
inductive Creates (before : Screen) : Event (backend frontEnd) → List DeviceCall → Prop
  | shader (source : ComposedSource) (label : String) (result : Compilation ShaderObject)
      (shader : ShaderObject) :
      Creates before (.compile source label result) [.createShader shader]
  | texture {channel : Fin channelCount} {image : ChannelImage} {loaded : ChannelTexture}
      (same : loaded.texture.image = image) :
      Creates before (.loadTexture channel image (.ok loaded))
        [.createTexture loaded.texture, .createSampler loaded.sampler]
  | bound {canvas : CanvasSize} {textures : PerChannel (Option ChannelTexture)}
      {resources : BoundResources} (fresh : resources.Fresh canvas textures) :
      Creates before (.bind canvas textures (.ok resources)) resources.creations
  | vertices (vertices : VertexData) (buffer : Buffer) :
      Creates before (.uploadVertices vertices (.ok buffer)) [.createBuffer buffer]
  | pipeline {stages : PipelineStages ShaderObject} {resources : BoundResources}
      {pipeline : RenderPipeline}
      (target : before.window.bind WindowSurface.format? = some pipeline.target) :
      Creates before (.buildPipeline stages resources (.ok pipeline))
        [.createPipelineLayout pipeline.layout, .createRenderPipeline pipeline]

/-- Calls to the graphics system made for a backend call. -/
inductive Notes (before : Screen) : Event (backend frontEnd) → List Call → Prop
  | nothing {event : Event (backend frontEnd)} (undone : hasCreated event = false) :
      Notes before event []
  | created {event : Event (backend frontEnd)} {device : Device} {created : List DeviceCall}
      (found : before.device = some device) (creates : Creates before event created)
      (error : Option String) (reports : List Report) :
      Notes before event (scope device created error ++ reports.map .report)
  | skipped {pipeline : RenderPipeline} {resources : BoundResources} {vertices : Option Buffer}
      {frame : FrameInput} {result : Except Failure Unit} {device : Device}
      {window : WindowSurface} {fault : SurfaceFault} {again : List SurfaceConfiguration}
      (found : before.device = some device) (shown : before.window = some window)
      (same : ∀ configuration ∈ again, window.configuration = some configuration) :
      Notes before (.draw pipeline resources vertices frame result)
        (uniformWrites device resources frame ++ .nextImage window.surface (some fault) ::
          again.map fun configuration => .device device (.configure window.surface configuration))
  | drawn {pipeline : RenderPipeline} {resources : BoundResources} {vertices : Option Buffer}
      {frame : FrameInput} {result : Except Failure Unit} {device : Device}
      {window : WindowSurface} (found : before.device = some device)
      (shown : before.window = some window) :
      Notes before (.draw pipeline resources vertices frame result)
        (uniformWrites device resources frame ++ .nextImage window.surface none ::
          frameCalls device window.surface pipeline resources vertices frame.vertexCount)

namespace Screen

theorem Guarded.noted {before : Screen} {post : α → List DeviceCall → Prop}
    {result : Except Failure α} {asked : List Call} (h : Guarded before post result asked)
    (call : Except Failure α → Event (backend frontEnd))
    (hcall : ∀ failure, hasCreated (call (.error failure)) = false)
    (hcreates : ∀ a created, post a created → Creates before (call (.ok a)) created) :
    Notes before (call result) asked := by
  obtain ⟨failure, rfl, rfl⟩ | ⟨device, a, created, error, reports, hdevice, rfl, hpost, rfl⟩ := h
  · exact .nothing (hcall failure)
  · exact .created hdevice (hcreates a created hpost) error reports

theorem guarded_noted {before : Screen} {label : String} {step : Device → GraphicsM α}
    {post : α → List DeviceCall → Prop} (call : Except Failure α → Event (backend frontEnd))
    (hcall : ∀ failure, hasCreated (call (.error failure)) = false)
    (hcreates : ∀ a created, post a created → Creates before (call (.ok a)) created)
    (h : ∀ device, Asks (step device) fun a asked =>
      ∃ created, asked = created.map (.device device) ∧ post a created) :
    let answer := Screen.answer (guarded label step) before
    Same before answer.state ∧ Notes before (call answer.value) answer.notes := by
  obtain ⟨hsame, hguarded⟩ := answer_kept (Guarded before post) (asks_guarded before label h)
  exact ⟨hsame, hguarded.noted call hcall hcreates⟩

theorem compile_noted (source : ComposedSource) (label : String) (before : Screen) :
    let answer := Screen.answer (compile frontEnd source label) before
    Same before answer.state ∧
      Notes before (Event.compile (B := backend frontEnd) source label answer.value)
        answer.notes := by
  let noted (result : Compilation ShaderObject) (asked : List Call) : Prop :=
    Notes before (Event.compile (B := backend frontEnd) source label result) asked
  refine answer_kept noted (asks_screen ?_)
  cases hdevice : before.device with
  | none => exact asks_pure ⟨⟨rfl, rfl⟩, rfl, .nothing rfl⟩
  | some device =>
    dsimp only
    split
    · exact asks_pure ⟨⟨rfl, rfl⟩, rfl, .nothing rfl⟩
    · have hshader : Asks (device.create (⟨·, label, source.text⟩) .createShader)
          fun shader asked => ∃ created,
            asked = created.map (.device device) ∧ created = [.createShader shader] :=
        (asks_create _ _).mono fun shader _ h => ⟨[.createShader shader], h.2, rfl⟩
      refine asks_lifted ((asks_inErrorScope hshader).bind fun (shader, error) _ hscope => ?_)
      obtain ⟨created, rfl, rfl⟩ := hscope
      exact asks_pure ⟨⟨rfl, rfl⟩, rfl, .created hdevice (.shader source label _ shader) error []⟩

theorem buildPipeline_noted (stages : PipelineStages ShaderObject) (resources : BoundResources)
    (before : Screen) :
    let answer := Screen.answer (buildPipeline stages resources) before
    Same before answer.state ∧ Notes before
      (Event.buildPipeline (B := backend frontEnd) stages resources answer.value)
      answer.notes := by
  let noted (result : Except Failure RenderPipeline) (asked : List Call) : Prop :=
    Notes before (Event.buildPipeline (B := backend frontEnd) stages resources result) asked
  refine answer_kept noted (asks_screen ?_)
  cases htarget : before.window.bind WindowSurface.format? with
  | none => exact asks_pure ⟨⟨rfl, rfl⟩, rfl, .nothing rfl⟩
  | some target =>
    have hguarded : Asks
        (guarded "render pipeline" (Graphics.buildPipeline · stages resources target) before) _ :=
      asks_guarded before "render pipeline" fun _ => asks_buildPipeline stages resources target
    refine hguarded.mono fun result asked ⟨hkeeps, hgateway, h⟩ => ⟨hkeeps, hgateway, ?_⟩
    refine h.noted (Event.buildPipeline (B := backend frontEnd) stages resources)
      (fun _ => rfl) ?_
    rintro pipeline created ⟨rfl, rfl⟩
    exact .pipeline htarget

theorem draw_noted (pipeline : RenderPipeline) (resources : BoundResources)
    (vertices : Option Buffer) (frame : FrameInput) (before : Screen) :
    let answer := Screen.answer (draw pipeline resources vertices frame) before
    Same before answer.state ∧ Notes before
      (Event.draw (B := backend frontEnd) pipeline resources vertices frame answer.value)
      answer.notes := by
  let noted (result : Except Failure Unit) (asked : List Call) : Prop :=
    Notes before (Event.draw (B := backend frontEnd) pipeline resources vertices frame result) asked
  refine answer_kept noted (asks_screen ?_)
  cases hdevice : before.device with
  | none => exact asks_pure ⟨⟨rfl, rfl⟩, rfl, .nothing rfl⟩
  | some device =>
    cases hwindow : before.window with
    | none => exact asks_pure ⟨⟨rfl, rfl⟩, rfl, .nothing rfl⟩
    | some window =>
      refine asks_lift (asks_writeFrame resources frame) fun _ _ hwrites => ?_
      subst hwrites
      refine asks_lift (asks_nextImage window) fun available _ himage => ?_
      obtain ⟨rfl, rfl⟩ | ⟨hmissing, fault, again, hagain, rfl⟩ := himage
      · refine asks_lift (asks_drawFrame _ _ _ _ _) fun _ _ hframe => asks_pure ?_
        subst hframe
        refine ⟨⟨rfl, rfl⟩, rfl, ?_⟩
        rw [List.append_nil]
        exact .drawn hdevice hwindow
      · have hskipped (result : Except Failure Unit) : noted result
            (uniformWrites device resources frame ++ (.nextImage window.surface (some fault) ::
              again.map (fun configuration =>
                .device device (.configure window.surface configuration)) ++ [])) := by
          rw [List.append_nil]
          exact .skipped hdevice hwindow hagain
        cases available with
        | error failure => exact asks_pure ⟨⟨rfl, rfl⟩, rfl, hskipped _⟩
        | ok available =>
          cases available with
          | false => exact asks_pure ⟨⟨rfl, rfl⟩, rfl, hskipped _⟩
          | true => exact absurd rfl hmissing

end Screen

theorem consults_noted {before after : (backend frontEnd).State} {event : Event (backend frontEnd)}
    {notes : List (backend frontEnd).Note} (h : Consults before event notes after) :
    Screen.Same before after ∧ Notes before event notes := by
  cases h with
  | @compile source label _ _ asked =>
    subst asked
    exact Screen.compile_noted source label before
  | @loadTexture channel image _ _ asked =>
    subst asked
    refine Screen.guarded_noted (.loadTexture channel image) (fun _ => rfl) ?_
      fun device => asks_loadTexture channel.val image
    rintro loaded created ⟨himage, rfl⟩
    exact .texture himage
  | @bind canvas textures _ _ asked =>
    subst asked
    refine Screen.guarded_noted (.bind canvas textures) (fun _ => rfl) ?_
      fun device => asks_bind canvas textures
    rintro resources created ⟨hfresh, rfl⟩
    exact .bound hfresh
  | @uploadVertices vertices _ _ asked =>
    subst asked
    refine Screen.guarded_noted (.uploadVertices vertices) (fun _ => rfl) ?_
      fun device => asks_uploadVertices vertices
    rintro buffer created rfl
    exact .vertices vertices buffer
  | @buildPipeline stages resources _ _ asked =>
    subst asked
    exact Screen.buildPipeline_noted stages resources before
  | takeValidationError asked =>
    subst asked
    exact ⟨⟨⟨rfl, rfl⟩, rfl⟩, .nothing rfl⟩
  | @draw pipeline resources vertices frame _ _ asked =>
    subst asked
    exact Screen.draw_noted pipeline resources vertices frame before

theorem Notes.creates {before : Screen} {event : Event (backend frontEnd)} {asked : List Call}
    (h : Notes before event asked) (hcreated : hasCreated event = true) :
    ∃ device created, before.device = some device ∧ Creates before event created ∧
      ∀ request ∈ created, .device device request ∈ asked := by
  cases h with
  | nothing undone => cases undone.symm.trans hcreated
  | created found creates error reports =>
    refine ⟨_, _, found, creates, fun request hrequest => ?_⟩
    refine List.mem_append_left _ (List.mem_cons_of_mem _ (List.mem_append_left _ ?_))
    exact List.mem_map_of_mem hrequest
  | skipped | drawn => cases hcreated

/-- The call uses this device, or concerns images or the log. -/
def Call.Within (device : Device) : Call → Prop
  | .device other _ => other = device
  | .nextImage .. | .present _ | .report _ => True
  | .createInstance | .createSurface _ | .requestAdapter .. | .requestDevice ..
  | .capabilities .. => False

theorem within_device (device : Device) {α : Type} (list : List α) (request : α → DeviceCall) :
    ∀ call ∈ list.map fun a => Call.device device (request a), call.Within device :=
  List.forall_mem_map.2 fun _ _ => rfl

theorem Notes.within {before : Screen} {event : Event (backend frontEnd)} {asked : List Call}
    (h : Notes before event asked) {call : Call} (hcall : call ∈ asked) :
    ∃ device, before.device = some device ∧ call.Within device := by
  suffices hall : ∀ device, before.device = some device → ∀ call ∈ asked, call.Within device by
    cases hdevice : before.device with
    | some device => exact ⟨device, rfl, hall device hdevice call hcall⟩
    | none =>
      cases h with
      | nothing => cases hcall
      | created found | skipped found | drawn found => cases hdevice.symm.trans found
  intro device hdevice
  have hsame {other : Device} (found : before.device = some other) : other = device :=
    Option.some.inj (found.symm.trans hdevice)
  cases h with
  | nothing => exact List.forall_mem_nil _
  | created found creates error reports =>
    obtain rfl := hsame found
    refine List.forall_mem_append.2 ⟨List.forall_mem_cons.2 ⟨rfl, ?_⟩, ?_⟩
    · exact List.forall_mem_append.2 ⟨within_device _ _ id, List.forall_mem_singleton.2 rfl⟩
    · exact List.forall_mem_map.2 fun _ _ => trivial
  | skipped found shown same =>
    obtain rfl := hsame found
    refine List.forall_mem_append.2 ⟨?_, List.forall_mem_cons.2 ⟨trivial, within_device _ _ _⟩⟩
    exact List.forall_mem_cons.2 ⟨rfl, List.forall_mem_singleton.2 rfl⟩
  | drawn found shown =>
    obtain rfl := hsame found
    refine List.forall_mem_append.2 ⟨?_, List.forall_mem_cons.2 ⟨trivial, ?_⟩⟩
    · exact List.forall_mem_cons.2 ⟨rfl, List.forall_mem_singleton.2 rfl⟩
    · simp only [frameCalls, List.forall_mem_cons, List.forall_mem_append, List.not_mem_nil,
        false_implies, implies_true, and_true]
      exact ⟨rfl, rfl, rfl, rfl, within_device _ _ _, rfl, rfl, rfl, rfl, trivial⟩

/-! ### The call for the device -/

/-- The surface exists, is created, or cannot be created. -/
inductive SurfaceFound (before : Screen) : Option WindowSurface → List Call → Prop
  | kept {window : WindowSurface} (shown : before.window = some window) :
      SurfaceFound before (some window) []
  | made (surface : Surface) (absent : before.window = none) :
      SurfaceFound before (some ⟨surface, none⟩) [.createSurface none]
  | refused (error : String) (report : Report) (absent : before.window = none) :
      SurfaceFound before none [.createSurface (some error), .report report]

/-- Executions of `acquire`. -/
inductive Acquires (canvas : CanvasSize) (before after : Screen) : Bool → List Call → Prop
  | noSurface {opening : List Call} (found : SurfaceFound before none opening)
      (absent : after.window = none) (gateway : after.gateway = before.gateway)
      (unchanged : after.device = before.device) :
      Acquires canvas before after false opening
  | noDevice {window : WindowSurface} {opening requests : List Call}
      (found : SurfaceFound before (some window) opening)
      (given : DeviceFound before.gateway window.surface none requests)
      (shown : after.window = some window) (gateway : after.gateway.device = none)
      (unchanged : after.device = before.device) :
      Acquires canvas before after false (opening ++ requests)
  | configured {window : WindowSurface} {device : Device} {opening requests : List Call}
      (offered : SurfaceCapabilities) (found : SurfaceFound before (some window) opening)
      (given : DeviceFound before.gateway window.surface (some device) requests)
      (shown : after.window =
        some { window with configuration := some (configurationFor offered canvas) })
      (gateway : after.gateway.device = some device) (held : after.device = some device) :
      Acquires canvas before after true
        (opening ++ (requests ++ [.capabilities window.surface offered,
          .device device (.configure window.surface (configurationFor offered canvas))]))

namespace Screen

theorem asks_ensureSurface (screen : Screen) :
    Asks (ensureSurface screen) fun result asked =>
      SurfaceFound screen result.1 asked ∧ result.2.window = result.1 ∧
        result.2.gateway = screen.gateway ∧ result.2.device = screen.device := by
  refine asks_screen ?_
  cases hwindow : screen.window with
  | some window => exact asks_pure ⟨.kept hwindow, hwindow, rfl, rfl⟩
  | none =>
    refine asks_lift asks_createSurface fun found _ hfound => ?_
    obtain ⟨surface, rfl, rfl⟩ | ⟨failure, error, rfl, rfl⟩ := hfound
    · exact asks_modify (asks_pure ⟨.made surface hwindow, rfl, rfl, rfl⟩)
    · refine asks_lift (asks_note _) fun _ _ hreport => asks_pure ?_
      subst hreport
      exact ⟨.refused error _ hwindow, hwindow, rfl, rfl⟩

theorem asks_acquire (canvas : CanvasSize) (screen : Screen) :
    Asks (acquire canvas screen) fun result asked =>
      Acquires canvas screen result.2 result.1 asked := by
  -- the error is dropped first, which no step that finds something looks at
  let cleared : Screen := { screen with validationError := none }
  have hfound {window : Option WindowSurface} {opening : List Call}
      (h : SurfaceFound cleared window opening) : SurfaceFound screen window opening := by
    cases h with
    | kept shown => exact .kept shown
    | made surface absent => exact .made surface absent
    | refused error report absent => exact .refused error report absent
  refine asks_modify (asks_after (asks_ensureSurface cleared) fun found between opening h => ?_)
  obtain ⟨hopening, hwindow, hgateway, hdevice⟩ := h
  cases found with
  | none =>
    refine asks_pure ?_
    rw [List.append_nil]
    exact .noSurface (hfound hopening) hwindow hgateway hdevice
  | some window =>
    refine asks_screen (asks_lift (asks_gateway _ _) fun (given, gateway) requests hgiven => ?_)
    rw [hgateway] at hgiven
    obtain ⟨hrequests, hafter⟩ := hgiven
    refine asks_modify ?_
    cases given with
    | none =>
      refine asks_pure ?_
      rw [List.append_nil]
      exact .noDevice (hfound hopening) hrequests hwindow hafter hdevice
    | some device =>
      refine asks_lift (asks_configure canvas window) fun _ _ hconfigured => ?_
      obtain ⟨offered, rfl, rfl⟩ := hconfigured
      exact asks_modify
        (asks_pure (.configured offered (hfound hopening) hrequests rfl hafter rfl))

end Screen

theorem Acquires.withSystem {canvas : CanvasSize} {before after : Screen} {acquired : Bool}
    {asked : List Call} (h : Acquires canvas before after acquired asked) (system : System) :
    Acquires canvas before { after with system := system } acquired asked := by
  cases h with
  | noSurface found absent gateway unchanged => exact .noSurface found absent gateway unchanged
  | noDevice found given shown gateway unchanged =>
    exact .noDevice found given shown gateway unchanged
  | configured offered found given shown gateway held =>
    exact .configured offered found given shown gateway held

theorem acquire_noted {canvas : CanvasSize} {before : Screen} {answer : Answer Screen Call Bool}
    (asked : Screen.answer (Screen.acquire canvas) before = answer) :
    Acquires canvas before answer.state answer.value answer.notes := by
  subst asked
  exact (Screen.answer_asks (Screen.asks_acquire canvas before)).withSystem _

def Call.isDevice : Call → Bool
  | .device .. => true
  | _ => false

theorem Call.unconfigured_apart {call : Call} (h : call.isDevice = false) :
    call.configuration? = none := by
  cases call <;> first | rfl | cases h

section

variable {canvas : CanvasSize} {before after : Screen} {available : Bool} {asked : List Call}

theorem SurfaceFound.apart {window : Option WindowSurface} (h : SurfaceFound before window asked) :
    ∀ call ∈ asked, call.isDevice = false := by
  cases h <;> simp [Call.isDevice]

theorem DeviceFound.apart {gateway : Gateway} {surface : Surface} {given : Option Device}
    (h : DeviceFound gateway surface given asked) : ∀ call ∈ asked, call.isDevice = false := by
  cases h <;> simp [Call.isDevice]

theorem Acquires.configures (h : Acquires canvas before after available asked) :
    ∀ call ∈ asked, call.isDevice = false ∨
      ∃ device surface configuration, call = .device device (.configure surface configuration) := by
  cases h with
  | noSurface found => exact fun call hcall => .inl (found.apart call hcall)
  | noDevice found given =>
    exact fun call hcall => .inl (List.forall_mem_append.2 ⟨found.apart, given.apart⟩ call hcall)
  | configured offered found given =>
    intro call hcall
    obtain hopening | hrest := List.mem_append.1 hcall
    · exact .inl (found.apart call hopening)
    · obtain hrequest | hconfigured := List.mem_append.1 hrest
      · exact .inl (given.apart call hrequest)
      · obtain rfl | hconfigured := List.mem_cons.1 hconfigured
        · exact .inl rfl
        · exact .inr ⟨_, _, _, List.mem_singleton.1 hconfigured⟩

end

end ShaderPreview.Graphics
