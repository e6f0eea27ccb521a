import ShaderPreview.Graphics.Backend

/-!
# Specifications of the steps

One specification for each step of the screen: the calls it appends to the log, as a function of the
answers, and the value it returns. Later modules use these and do not unfold the steps.
-/

namespace ShaderPreview.Graphics

variable {α β : Type} {device : Device}

/-- Postcondition of a step, for every system: its value and the calls it appends. -/
def Asks (step : GraphicsM α) (post : α → List Call → Prop) : Prop :=
  ∀ system : System, ∃ asked,
    (step.run system).2.calls = system.calls ++ asked ∧ post (step.run system).1 asked

/-! ### Putting steps together -/

theorem Asks.mono {step : GraphicsM α} {post weaker : α → List Call → Prop} (h : Asks step post)
    (hpost : ∀ a asked, post a asked → weaker a asked) : Asks step weaker := by
  intro system
  obtain ⟨asked, hcalls, hasked⟩ := h system
  exact ⟨asked, hcalls, hpost _ _ hasked⟩

theorem asks_pure {a : α} {post : α → List Call → Prop} (h : post a []) : Asks (pure a) post :=
  fun _ => ⟨[], (List.append_nil _).symm, h⟩

theorem Asks.bind {step : GraphicsM α} {f : α → GraphicsM β} {mid : α → List Call → Prop}
    {post : β → List Call → Prop} (h : Asks step mid)
    (hf : ∀ a first, mid a first → Asks (f a) fun b later => post b (first ++ later)) :
    Asks (step >>= f) post := by
  intro system
  obtain ⟨first, hfirst, hmid⟩ := h system
  obtain ⟨later, hlater, hpost⟩ := hf _ first hmid _
  refine ⟨first ++ later, ?_, hpost⟩
  rw [← List.append_assoc, ← hfirst]
  exact hlater

theorem asks_note (call : Call) : Asks (note call) fun _ asked => asked = [call] :=
  fun _ => ⟨[call], rfl, rfl⟩

theorem asks_freshNumber : Asks freshNumber fun _ asked => asked = [] :=
  fun _ => ⟨[], (List.append_nil _).symm, rfl⟩

theorem asks_takeAnswer {list : Answers → List α} {set : List α → Answers → Answers}
    {usual : Answers → α} : Asks (takeAnswer list set usual) fun _ asked => asked = [] := by
  intro system
  refine ⟨[], ?_, rfl⟩
  rw [List.append_nil, takeAnswer, StateT.run_modifyGet]
  cases list system.answers <;> rfl

theorem asks_next (call : Call) {rest : GraphicsM β} {post : β → List Call → Prop}
    (h : Asks rest fun b later => post b (call :: later)) :
    Asks (note call >>= fun _ => rest) post := by
  refine (asks_note call).bind fun _ _ hnoted => ?_
  subst hnoted
  exact h

theorem asks_answered {list : Answers → List α} {set : List α → Answers → Answers}
    {usual : Answers → α} (call : α → Call) {rest : α → GraphicsM β} {post : β → List Call → Prop}
    (h : ∀ answer, Asks (rest answer) fun b later => post b (call answer :: later)) :
    Asks (takeAnswer list set usual >>= fun answer => note (call answer) >>= fun _ =>
      rest answer) post := by
  refine asks_takeAnswer.bind fun answer _ hnone => ?_
  subst hnone
  exact asks_next (call answer) (h answer)

theorem asks_forM (list : Option α) {step : α → GraphicsM Unit} {call : α → Call}
    (h : ∀ a, step a = note (call a)) :
    Asks (list.forM step) fun _ asked => asked = list.toList.map call := by
  cases list with
  | none => exact asks_pure rfl
  | some a =>
    show Asks (step a) _
    rw [h a]
    exact asks_note _

/-! ### Objects and scopes -/

theorem asks_create (make : Nat → α) (call : α → DeviceCall) :
    Asks (device.create make call) fun object asked =>
      (∃ number, object = make number) ∧ asked = [.device device (call object)] := by
  refine asks_freshNumber.bind fun number _ hnone => ?_
  subst hnone
  exact asks_next _ (asks_pure ⟨⟨number, rfl⟩, rfl⟩)

/-- Calls of an error scope around the creation of objects. -/
def scope (device : Device) (created : List DeviceCall) (error : Option String) : List Call :=
  .device device (.pushErrorScope .validation) ::
    (created.map (.device device) ++ [.device device (.popErrorScope error)])

theorem asks_inErrorScope {step : GraphicsM α} {post : α → List DeviceCall → Prop}
    (h : Asks step fun a asked =>
      ∃ created, asked = created.map (.device device) ∧ post a created) :
    Asks (device.inErrorScope step) fun result asked =>
      ∃ created, asked = scope device created result.2 ∧ post result.1 created := by
  have hpop : Asks device.popErrorScope fun error asked =>
      asked = [.device device (.popErrorScope error)] := by
    exact asks_answered (fun error => .device device (.popErrorScope error))
      fun _ => asks_pure rfl
  refine asks_next _ (h.bind fun value _ hstep => ?_)
  obtain ⟨created, rfl, hpost⟩ := hstep
  refine hpop.bind fun error _ hclosed => ?_
  subst hclosed
  exact asks_pure ⟨created, congrArg _ (congrArg _ (List.append_nil _)), hpost⟩

/-! ### The surface and the device -/

theorem asks_createSurface : Asks Gateway.createSurface fun found asked =>
    (∃ surface, found = .ok surface ∧ asked = [.createSurface none]) ∨
      ∃ failure error, found = .error failure ∧ asked = [.createSurface (some error)] := by
  have hmade : Asks createSurface fun found asked =>
      (∃ surface, found = .ok surface ∧ asked = [.createSurface none]) ∨
        ∃ failure error, found = .error failure ∧ asked = [.createSurface (some error)] := by
    refine asks_answered .createSurface fun error => ?_
    cases error with
    | some text => exact asks_pure (.inr ⟨_, _, rfl, rfl⟩)
    | none =>
      refine asks_freshNumber.bind fun number _ hnone => ?_
      subst hnone
      exact asks_pure (.inl ⟨⟨number⟩, rfl, rfl⟩)
  refine hmade.bind fun found first hfound => ?_
  obtain ⟨surface, rfl, rfl⟩ | ⟨failure, error, rfl, rfl⟩ := hfound
  · exact asks_pure (.inl ⟨surface, rfl, rfl⟩)
  · exact asks_pure (.inr ⟨_, error, rfl, rfl⟩)

/-- Calls of acquiring the shared device: none if it exists, otherwise the requests for adapter and
device. -/
inductive DeviceFound (gateway : Gateway) (surface : Surface) : Option Device → List Call → Prop
  | shared {device : Device} (held : gateway.device = some device) :
      DeviceFound gateway surface (some device) []
  | opened (device : Device) (options : AdapterOptions) (descriptor : DeviceDescriptor)
      (absent : gateway.device = none) : DeviceFound gateway surface (some device)
        [.requestAdapter options (some surface) none, .requestDevice descriptor none]
  | noAdapter (options : AdapterOptions) (error : String) (report : Report)
      (absent : gateway.device = none) : DeviceFound gateway surface none
        [.requestAdapter options (some surface) (some error), .report report]
  | noDevice (options : AdapterOptions) (descriptor : DeviceDescriptor) (error : String)
      (report : Report) (absent : gateway.device = none) : DeviceFound gateway surface none
        [.requestAdapter options (some surface) none, .requestDevice descriptor (some error),
          .report report]

theorem asks_requestAdapter (options : AdapterOptions) (surface : Option Surface) :
    Asks (requestAdapter options surface) fun found asked =>
      (found = .ok () ∧ asked = [.requestAdapter options surface none]) ∨
        ∃ failure error, found = .error failure ∧
          asked = [.requestAdapter options surface (some error)] := by
  refine asks_answered (.requestAdapter options surface) fun error => ?_
  cases error with
  | some text => exact asks_pure (.inr ⟨_, _, rfl, rfl⟩)
  | none => exact asks_pure (.inl ⟨rfl, rfl⟩)

theorem asks_openDevice (descriptor : DeviceDescriptor) :
    Asks (requestDevice descriptor) fun found asked =>
      (∃ device, found = .ok device ∧ asked = [.requestDevice descriptor none]) ∨
        ∃ failure error, found = .error failure ∧
          asked = [.requestDevice descriptor (some error)] := by
  refine asks_answered (.requestDevice descriptor) fun error => ?_
  cases error with
  | some text => exact asks_pure (.inr ⟨_, _, rfl, rfl⟩)
  | none =>
    refine asks_freshNumber.bind fun number _ hnone => ?_
    subst hnone
    exact asks_pure (.inl ⟨_, rfl, rfl⟩)

theorem asks_requestDevice (surface : Surface) :
    Asks (Gateway.requestDevice (some surface)) fun found asked => ∃ options,
      (∃ device descriptor, found = .ok device ∧ asked =
        [.requestAdapter options (some surface) none, .requestDevice descriptor none]) ∨
      ∃ failure error, found = .error failure ∧
        (asked = [.requestAdapter options (some surface) (some error)] ∨
          ∃ descriptor, asked = [.requestAdapter options (some surface) none,
            .requestDevice descriptor (some error)]) := by
  refine (asks_requestAdapter _ (some surface)).bind fun found first hfound => ?_
  obtain ⟨rfl, rfl⟩ | ⟨failure, error, rfl, rfl⟩ := hfound
  · refine asks_takeAnswer.bind fun limit _ hnone => ?_
    subst hnone
    refine (asks_openDevice _).bind fun found first hfound => ?_
    obtain ⟨device, rfl, rfl⟩ | ⟨failure, error, rfl, rfl⟩ := hfound
    · exact asks_pure ⟨_, .inl ⟨device, _, rfl, rfl⟩⟩
    · exact asks_pure ⟨_, .inr ⟨_, error, rfl, .inr ⟨_, rfl⟩⟩⟩
  · exact asks_pure ⟨_, .inr ⟨_, error, rfl, .inl rfl⟩⟩

theorem asks_gateway (gateway : Gateway) (surface : Surface) :
    Asks (gateway.acquire (some surface)) fun given asked =>
      DeviceFound gateway surface given.1 asked ∧ given.2.device = given.1 := by
  cases hgateway : gateway.device with
  | some device =>
    rw [Gateway.acquire, hgateway]
    exact asks_pure ⟨.shared hgateway, hgateway⟩
  | none =>
    rw [Gateway.acquire, hgateway]
    refine (asks_requestDevice surface).bind fun found first hfound => ?_
    obtain ⟨options, ⟨device, descriptor, rfl, rfl⟩ | ⟨failure, error, rfl, hfailed⟩⟩ := hfound
    · exact asks_pure ⟨.opened device options descriptor hgateway, rfl⟩
    · refine asks_next _ (asks_pure ⟨?_, hgateway⟩)
      obtain rfl | ⟨descriptor, rfl⟩ := hfailed
      · exact .noAdapter options error _ hgateway
      · exact .noDevice options descriptor error _ hgateway

theorem asks_configure (canvas : CanvasSize) (window : WindowSurface) :
    Asks (window.configure device canvas) fun later asked => ∃ offered,
      later = { window with configuration := some (configurationFor offered canvas) } ∧
        asked = [.capabilities window.surface offered,
          .device device (.configure window.surface (configurationFor offered canvas))] := by
  have hoffered : Asks (capabilitiesOf window.surface) fun offered asked =>
      asked = [.capabilities window.surface offered] :=
    asks_answered (.capabilities window.surface) fun _ => asks_pure rfl
  refine hoffered.bind fun offered _ hasked => ?_
  subst hasked
  exact asks_next _ (asks_pure ⟨offered, rfl, rfl⟩)

/-- The frame is skipped; the surface may have been reconfigured. -/
def Skips (device : Device) (window : WindowSurface) (asked : List Call) : Prop :=
  ∃ fault, ∃ again : List SurfaceConfiguration,
    (∀ configuration ∈ again, window.configuration = some configuration) ∧
      asked = .nextImage window.surface (some fault) ::
        again.map fun configuration => .device device (.configure window.surface configuration)

theorem asks_nextImage (window : WindowSurface) :
    Asks (window.nextImage device) fun available asked =>
      (available = .ok true ∧ asked = [.nextImage window.surface none]) ∨
        (available ≠ .ok true ∧ Skips device window asked) := by
  have himage : Asks (nextImage window.surface) fun fault asked =>
      asked = [.nextImage window.surface fault] := by
    exact asks_answered (.nextImage window.surface) fun _ => asks_pure rfl
  refine himage.bind fun fault _ hnoted => ?_
  subst hnoted
  have hagain (first : SurfaceFault) : Asks (do
      window.configuration.forM fun configuration =>
        device.ask (.configure window.surface configuration)
      return .ok false) fun available later => available ≠ (.ok true : Except Failure Bool) ∧
        Skips device window ([.nextImage window.surface (some first)] ++ later) := by
    refine (asks_forM window.configuration fun _ => rfl).bind fun _ _ hconfigured => ?_
    subst hconfigured
    refine asks_pure ⟨nofun, first, window.configuration.toList, fun _ => Option.mem_toList.1, ?_⟩
    rw [List.append_nil]
    rfl
  cases fault with
  | none => exact asks_pure (.inl ⟨rfl, rfl⟩)
  | some fault =>
    -- only a surface that is lost or outdated is configured again
    cases fault with
    | lost => exact (hagain .lost).mono fun _ _ => .inr
    | outdated => exact (hagain .outdated).mono fun _ _ => .inr
    | timeout | outOfMemory | other => exact asks_pure (.inr ⟨nofun, _, [], nofun, rfl⟩)

/-! ### What is created for a session -/

theorem asks_loadTexture (channel : Nat) (image : ChannelImage) :
    Asks (loadTexture device channel image) fun loaded asked => ∃ created,
      asked = created.map (.device device) ∧ loaded.texture.image = image ∧
        created = [.createTexture loaded.texture, .createSampler loaded.sampler] := by
  refine (asks_create _ _).bind fun texture _ htexture => ?_
  obtain ⟨⟨number, rfl⟩, rfl⟩ := htexture
  refine (asks_create _ _).bind fun sampler _ hsampler => ?_
  obtain ⟨-, rfl⟩ := hsampler
  exact asks_pure ⟨[_, _], rfl, rfl, rfl⟩

/-- Uniform buffers as created for a canvas. -/
structure Uniforms.Fresh (canvas : CanvasSize) (uniforms : Uniforms) : Prop where
  resolution : uniforms.resolution.label = "iResolution" ∧
    uniforms.resolution.contents = resolutionBytes canvas
  time : uniforms.time.label = "iTime" ∧ uniforms.time.contents = timeBytes .zero
  pointer : uniforms.pointer.label = "iMouse" ∧ uniforms.pointer.contents = pointerBytes .rest

theorem asks_uniforms (canvas : CanvasSize) :
    Asks (Uniforms.create device canvas) fun uniforms asked =>
      uniforms.Fresh canvas ∧ asked = List.map (.device device)
        ([uniforms.resolution, uniforms.time, uniforms.pointer].map .createBuffer) := by
  refine (asks_create _ _).bind fun resolution _ hresolution => ?_
  obtain ⟨⟨_, rfl⟩, rfl⟩ := hresolution
  refine (asks_create _ _).bind fun time _ htime => ?_
  obtain ⟨⟨_, rfl⟩, rfl⟩ := htime
  refine (asks_create _ _).bind fun pointer _ hpointer => ?_
  obtain ⟨⟨_, rfl⟩, rfl⟩ := hpointer
  exact asks_pure ⟨⟨⟨rfl, rfl⟩, ⟨rfl, rfl⟩, rfl, rfl⟩, rfl⟩

/-- Resources as created for a canvas and the loaded textures. -/
structure BoundResources.Fresh (canvas : CanvasSize)
    (textures : PerChannel (Option ChannelTexture)) (resources : BoundResources) : Prop where
  uniforms : resources.uniforms.Fresh canvas
  slots : resources.slots = bindingSlots (PerChannel.occupancy textures)
  layout : resources.layout.entries = resources.slots.map BindingSlot.entry
  grouped : resources.group.layout = resources.layout
  group : resources.group.entries = groupEntries resources.uniforms textures resources.slots

def BoundResources.creations (resources : BoundResources) : List DeviceCall :=
  [resources.uniforms.resolution, resources.uniforms.time, resources.uniforms.pointer].map
    .createBuffer ++ [.createBindGroupLayout resources.layout, .createBindGroup resources.group]

theorem asks_bind (canvas : CanvasSize) (textures : PerChannel (Option ChannelTexture)) :
    Asks (bind device canvas textures) fun resources asked => ∃ created,
      asked = created.map (.device device) ∧ resources.Fresh canvas textures ∧
        created = resources.creations := by
  refine (asks_uniforms canvas).bind fun uniforms _ huniforms => ?_
  obtain ⟨hfresh, rfl⟩ := huniforms
  refine (asks_create _ _).bind fun layout _ hlayout => ?_
  obtain ⟨⟨_, rfl⟩, rfl⟩ := hlayout
  refine (asks_create _ _).bind fun group _ hgroup => ?_
  obtain ⟨⟨_, rfl⟩, rfl⟩ := hgroup
  exact asks_pure ⟨_, rfl, ⟨hfresh, rfl, rfl, rfl, rfl⟩, rfl⟩

theorem asks_uploadVertices (vertices : VertexData) :
    Asks (uploadVertices device vertices) fun buffer asked => ∃ created,
      asked = created.map (.device device) ∧ created = [.createBuffer buffer] :=
  (asks_create _ _).mono fun buffer _ hbuffer => ⟨[.createBuffer buffer], hbuffer.2, rfl⟩

theorem asks_buildPipeline (stages : PipelineStages ShaderObject) (resources : BoundResources)
    (target : TextureFormat) :
    Asks (buildPipeline device stages resources target) fun pipeline asked => ∃ created,
      asked = created.map (.device device) ∧ pipeline.target = target ∧
        created = [.createPipelineLayout pipeline.layout, .createRenderPipeline pipeline] := by
  refine (asks_create _ _).bind fun layout _ hlayout => ?_
  obtain ⟨-, rfl⟩ := hlayout
  refine (asks_create _ _).mono fun pipeline _ hpipeline => ?_
  obtain ⟨⟨_, rfl⟩, rfl⟩ := hpipeline
  exact ⟨_, rfl, rfl, rfl⟩

/-! ### Frames -/

/-- Uniform updates of a frame. -/
def uniformWrites (device : Device) (resources : BoundResources) (frame : FrameInput) : List Call :=
  [.device device (.writeBuffer resources.uniforms.time 0 (timeBytes (secondsOf frame.elapsed))),
    .device device (.writeBuffer resources.uniforms.pointer 0 (pointerBytes frame.pointer))]

theorem asks_writeFrame (resources : BoundResources) (frame : FrameInput) :
    Asks (resources.uniforms.writeFrame device frame.elapsed frame.pointer) fun _ asked =>
      asked = uniformWrites device resources frame := by
  refine asks_next _ ((asks_note _).mono fun _ _ hpointer => ?_)
  subst hpointer
  rfl

/-- Calls of drawing and presenting a frame. -/
def frameCalls (device : Device) (surface : Surface) (pipeline : RenderPipeline)
    (resources : BoundResources) (vertices : Option Buffer) (vertexCount : Nat) : List Call :=
  .device device (.createEncoder "frame encoder") ::
  .device device (.beginPass "frame pass" surface clearColour true false) ::
  .device device (.setPipeline pipeline) :: .device device (.setBindGroup 0 resources.group []) ::
  (vertices.toList.map (fun buffer => .device device (.setVertexBuffer 0 buffer)) ++
  [.device device (.draw vertexCount), .device device .endPass, .device device .finish,
    .device device .submit, .present surface])

theorem asks_drawFrame (surface : Surface) (pipeline : RenderPipeline)
    (resources : BoundResources) (vertices : Option Buffer) (vertexCount : Nat) :
    Asks (drawFrame device surface pipeline resources vertices vertexCount) fun _ asked =>
      asked = frameCalls device surface pipeline resources vertices vertexCount := by
  refine asks_next _ (asks_next _ (asks_next _ (asks_next _ ?_)))
  refine (asks_forM vertices fun _ => rfl).bind fun _ _ hbuffer => ?_
  subst hbuffer
  refine asks_next _ (asks_next _ (asks_next _ (asks_next _ ?_)))
  refine (asks_note _).mono fun _ _ hpresent => ?_
  subst hpresent
  rfl

end ShaderPreview.Graphics
