import ShaderPreview.Graphics.Backend
import ShaderPreview.Proofs.Session.Readiness

/-!
# Ready screens

A screen is ready if it has a device and a configured surface. Both persist when a later acquisition
fails, so what an operation finds depends on the whole history; the invariant is that the render
loop acquires first and that no step removes what exists.
-/

namespace ShaderPreview.Graphics

variable {α β : Type}

/-! ### Images -/

/-- The failure reports a surface without an image, for a reason other than a transient one. -/
def Refused (calls : List Call) (failure : Failure) : Prop :=
  ∃ surface fault, .nextImage surface (some fault) ∈ calls ∧
    fault ≠ .lost ∧ fault ≠ .outdated ∧ fault ≠ .timeout ∧
    failure = .of s!"failed to acquire surface texture: {fault.message}"

theorem nextImage_noted (surface : Surface) (system : System) :
    .nextImage surface ((nextImage surface).run system).1 ∈
      ((nextImage surface).run system).2.calls :=
  List.mem_append_right _ List.mem_cons_self

theorem nextImage_refused {device : Device} {window : WindowSurface} {system : System}
    {failure : Failure} (h : ((window.nextImage device).run system).1 = .error failure) :
    Refused ((window.nextImage device).run system).2.calls failure := by
  have hnoted := nextImage_noted window.surface system
  have hrun : (window.nextImage device).run system = _ := StateT.run_bind ..
  rw [hrun] at h ⊢
  generalize (nextImage window.surface).run system = answered at h hnoted ⊢
  obtain ⟨fault, later⟩ := answered
  cases fault with
  | none => cases h
  | some fault =>
    cases fault with
    | lost | outdated | timeout => cases h
    | outOfMemory | other =>
      cases h
      exact ⟨_, _, hnoted, nofun, nofun, nofun, rfl⟩

theorem hasErrors_of_missing {module : ShaderObject} {diagnostics : List Diagnostic}
    (h : (Compilation.of (some module) diagnostics).module = none) :
    (Compilation.of (some module) diagnostics).hasErrors = true := by
  cases hrejects : rejects diagnostics with
  | true => exact hrejects
  | false => simp [Compilation.of, hrejects] at h

namespace Screen

/-! ### Steps with a screen -/

/-- Postcondition of a step from a screen and a system: value, resulting screen and calls. -/
def Ensures (step : ScreenM α) (screen : Screen) (system : System)
    (post : α → Screen → List Call → Prop) : Prop :=
  post ((step screen).run system).1.1 ((step screen).run system).1.2
    ((step screen).run system).2.calls

section

variable {screen : Screen} {system : System} {post : β → Screen → List Call → Prop}

theorem ensures_pure {b : β} (h : post b screen system.calls) :
    Ensures (pure b) screen system post := h

theorem ensures_get {f : Screen → ScreenM β} (h : Ensures (f screen) screen system post) :
    Ensures (get >>= f) screen system post := h

theorem ensures_modify {change : Screen → Screen} {f : Unit → ScreenM β}
    (h : Ensures (f ()) (change screen) system post) :
    Ensures (modify change >>= f) screen system post := h

theorem ensures_lifted {step : GraphicsM β}
    (h : post (step.run system).1 screen (step.run system).2.calls) :
    Ensures (liftM step) screen system post := h

theorem ensures_lift {step : GraphicsM α} {f : α → ScreenM β}
    (h : Ensures (f (step.run system).1) screen (step.run system).2 post) :
    Ensures (liftM step >>= f) screen system post := h

theorem ensures_after {step : ScreenM α} {f : α → ScreenM β}
    (h : ∀ a later after, Ensures (f a) later after post) :
    Ensures (step >>= f) screen system post := h _ _ _

end

/-! ### Ready screens -/

structure Ready (screen : Screen) : Prop where
  device : screen.device.isSome = true
  configured : (screen.window.bind WindowSurface.format?).isSome = true

structure Keeps (before after : Screen) : Prop where
  device : after.device = before.device
  window : after.window = before.window

theorem Ready.keeps {before after : Screen} (h : Ready before) (hkeeps : Keeps before after) :
    Ready after := by
  refine ⟨?_, ?_⟩
  · rw [hkeeps.device]
    exact h.device
  · rw [hkeeps.window]
    exact h.configured

theorem Ready.found {screen : Screen} (h : Ready screen) : ∃ device window target,
    screen.device = some device ∧ screen.window = some window ∧
      screen.window.bind WindowSurface.format? = some target := by
  obtain ⟨device, hdevice⟩ := Option.isSome_iff_exists.1 h.device
  obtain ⟨target, htarget⟩ := Option.isSome_iff_exists.1 h.configured
  obtain ⟨window, hwindow, _⟩ := Option.bind_eq_some_iff.1 htarget
  exact ⟨device, window, target, hdevice, hwindow, htarget⟩

section

variable {screen : Screen} {device : Device} {window : WindowSurface}

theorem guarded_ensures (h : screen.device = some device) (label : String)
    (step : Device → GraphicsM α) (system : System) :
    Ensures (guarded label step) screen system fun result after _ =>
      Keeps screen after ∧ ∃ value, result = .ok value := by
  refine ensures_get ?_
  rw [h]
  refine ensures_lift ?_
  generalize (device.inErrorScope (step device)).run system = result
  obtain ⟨⟨value, error⟩, later⟩ := result
  cases error with
  | none => exact ensures_pure ⟨⟨rfl, rfl⟩, value, rfl⟩
  | some text => exact ensures_lift (ensures_modify (ensures_pure ⟨⟨rfl, rfl⟩, value, rfl⟩))

theorem buildPipeline_ensures {target : TextureFormat} (hdevice : screen.device = some device)
    (htarget : screen.window.bind WindowSurface.format? = some target)
    (stages : PipelineStages ShaderObject) (resources : BoundResources) (system : System) :
    Ensures (buildPipeline stages resources) screen system fun result after _ =>
      Keeps screen after ∧ ∃ pipeline, result = .ok pipeline := by
  refine ensures_get ?_
  rw [htarget]
  exact guarded_ensures hdevice _ _ system

theorem compile_ensures (h : screen.device = some device) (frontEnd : FrontEnd)
    (source : ComposedSource) (label : String) (system : System) :
    Ensures (compile frontEnd source label) screen system fun result after _ =>
      Keeps screen after ∧ (result.module = none → result.hasErrors = true) := by
  refine ensures_get ?_
  rw [h]
  dsimp only
  split
  · rename_i hrejects
    exact ensures_pure ⟨⟨rfl, rfl⟩, fun _ => hrejects⟩
  · exact ensures_lifted ⟨⟨rfl, rfl⟩, hasErrors_of_missing⟩

theorem takeValidationError_ensures (screen : Screen) (system : System) :
    Ensures takeValidationError screen system fun _ after _ => Keeps screen after ∧ True :=
  ⟨⟨rfl, rfl⟩, trivial⟩

theorem draw_ensures (hdevice : screen.device = some device) (hwindow : screen.window = some window)
    (pipeline : RenderPipeline) (resources : BoundResources) (vertices : Option Buffer)
    (frame : FrameInput) (system : System) :
    Ensures (draw pipeline resources vertices frame) screen system fun result after calls =>
      Keeps screen after ∧ ∀ failure, result = .error failure → Refused calls failure := by
  refine ensures_get ?_
  simp only [hdevice, hwindow]
  refine ensures_lift (ensures_lift ?_)
  generalize ((resources.uniforms.writeFrame device frame.elapsed frame.pointer).run system).2 =
    written
  cases hvalue : ((window.nextImage device).run written).1 with
  | error failure =>
    have hrefused := nextImage_refused hvalue
    refine ensures_pure ⟨⟨rfl, rfl⟩, fun other heq => ?_⟩
    cases heq
    exact hrefused
  | ok available =>
    cases available with
    | false => exact ensures_pure ⟨⟨rfl, rfl⟩, nofun⟩
    | true => exact ensures_lift (ensures_pure ⟨⟨rfl, rfl⟩, nofun⟩)

theorem acquire_ensures (canvas : CanvasSize) (screen : Screen) (system : System) :
    Ensures (acquire canvas) screen system fun acquired after _ =>
      acquired = true → Ready after := by
  -- the surface is stored once more when it is configured, so it does not matter where it is from
  refine ensures_modify (ensures_after fun found between later => ?_)
  cases found with
  | none => exact ensures_pure nofun
  | some window =>
    refine ensures_get (ensures_lift ?_)
    generalize (between.gateway.acquire (some window.surface)).run later = given
    obtain ⟨⟨device, gateway⟩, later⟩ := given
    refine ensures_modify ?_
    cases device with
    | none => exact ensures_pure nofun
    | some device => exact ensures_lift (ensures_modify (ensures_pure fun _ => ⟨rfl, rfl⟩))

end

theorem Ready.answer {step : ScreenM α} {screen : Screen} {holds : α → List Call → Prop}
    (h : Ready screen)
    (hensures : Ensures step screen { screen.system with calls := [] }
      fun result after calls => Keeps screen after ∧ holds result calls) :
    Ready (Screen.answer step screen).state ∧
      holds (Screen.answer step screen).value (Screen.answer step screen).notes := by
  obtain ⟨hkeeps, hholds⟩ := hensures
  exact ⟨h.keeps ⟨hkeeps.device, hkeeps.window⟩, hholds⟩

end Screen

/-! ### The backend of a screen -/

/-- No backend call makes a launch fail, and a draw fails only if an image is refused. -/
structure Unexceptional {frontEnd : FrontEnd} (event : Event (backend frontEnd))
    (notes : List Call) : Prop where
  sound : event.failsLaunch = false
  refused {pipeline : RenderPipeline} {resources : BoundResources} {vertices : Option Buffer}
    {frame : FrameInput} {failure : Failure} :
    event = .draw pipeline resources vertices frame (.error failure) → Refused notes failure

section

variable {frontEnd : FrontEnd} {before after : (backend frontEnd).State}
  {event : Event (backend frontEnd)} {notes : List (backend frontEnd).Note}

theorem consults_ready (h : Screen.Ready before) (hconsults : Consults before event notes after) :
    Screen.Ready after ∧ Unexceptional event notes := by
  obtain ⟨device, window, target, hdevice, hwindow, htarget⟩ := h.found
  cases hconsults with
  | @compile source label _ answer asked =>
    subst asked
    obtain ⟨hready, hmodule⟩ := h.answer (Screen.compile_ensures hdevice frontEnd source label _)
    exact ⟨hready, sound_compile hmodule, nofun⟩
  | @loadTexture channel image _ answer asked =>
    subst asked
    obtain ⟨hready, texture, hvalue⟩ := h.answer (Screen.guarded_ensures hdevice "channel texture"
      (loadTexture · channel.val image) _)
    exact ⟨hready, sound_ok (.loadTexture channel image) hvalue rfl, nofun⟩
  | @bind canvas textures _ answer asked =>
    subst asked
    obtain ⟨hready, resources, hvalue⟩ := h.answer (Screen.guarded_ensures hdevice "bind group"
      (bind · canvas textures) _)
    exact ⟨hready, sound_ok (.bind canvas textures) hvalue rfl, nofun⟩
  | @uploadVertices vertices _ answer asked =>
    subst asked
    obtain ⟨hready, buffer, hvalue⟩ := h.answer (Screen.guarded_ensures hdevice "vertex buffer"
      (uploadVertices · vertices) _)
    exact ⟨hready, sound_ok (.uploadVertices vertices) hvalue rfl, nofun⟩
  | @buildPipeline stages resources _ answer asked =>
    subst asked
    obtain ⟨hready, pipeline, hvalue⟩ := h.answer
      (Screen.buildPipeline_ensures hdevice htarget stages resources _)
    exact ⟨hready, sound_ok (.buildPipeline stages resources) hvalue rfl, nofun⟩
  | takeValidationError asked =>
    subst asked
    exact ⟨(h.answer (Screen.takeValidationError_ensures before _)).1, rfl, nofun⟩
  | @draw pipeline resources vertices frame _ answer asked =>
    subst asked
    obtain ⟨hready, hrefused⟩ := h.answer
      (Screen.draw_ensures hdevice hwindow pipeline resources vertices frame _)
    refine ⟨hready, rfl, fun {_ _ _ _ failure} heq => ?_⟩
    injection heq with _ _ _ _ hvalue
    exact hrefused failure hvalue

theorem reliable (frontEnd : FrontEnd) :
    (backend frontEnd).Reliable Screen.Ready Unexceptional where
  acquires {canvas before} hvalue := by
    obtain ⟨hdevice, hconfigured⟩ := Screen.acquire_ensures canvas before _ hvalue
    exact ⟨hdevice, hconfigured⟩
  keeps hready hconsults := (consults_ready hready hconsults).1
  holds hready hconsults := (consults_ready hready hconsults).2
  sound hholds := hholds.sound

end

/-- In every run no launch fails. Every backend call is made on a ready screen, and only draws fail,
and only if an image is refused. -/
theorem run_unexceptional {H : FrameHost} (frontEnd : FrontEnd) (system : System)
    (gateway : Gateway) (ledger : Ledger H) (operations : List Operation) :
    let start : (backend frontEnd).State := Screen.start system gateway
    let loop := (RenderLoop.idle start ledger.initial).run frontEnd ledger operations
    Replays Screen.Ready Unexceptional start loop.trace loop.backend ∧
    (loop.session.isSome = true → Screen.Ready loop.backend) ∧
    ∀ request now failure,
      loop.launched? frontEnd request now ≠ some (.error (.failed failure)) := by
  intro start loop
  have hreplayed := RenderLoop.replayed_run (reliable frontEnd) frontEnd ledger start operations
  refine ⟨hreplayed.replays, hreplayed.ready, fun request now failure => ?_⟩
  exact loop.launched_unfailed (reliable frontEnd) frontEnd request now failure

end ShaderPreview.Graphics
