import ShaderPreview.Proofs.Graphics.Noted
import ShaderPreview.Proofs.Session.History

/-!
# One surface and one device

Surface and device are obtained independently and each request may fail any number of times. Each is
requested until it exists and not afterwards, and all objects belong to the one device
(SPEC_FULL.md, section 9).
-/

namespace ShaderPreview.Graphics

variable {frontEnd : FrontEnd} {H : FrameHost}

/-! ### What is asked for until it is given -/

/-- Whether the surface was obtained, for a request for it. -/
def Call.surface? : Call → Option Bool
  | .createSurface error => some error.isNone
  | _ => none

/-- Whether the device was obtained, for a request for the device or its adapter. -/
def Call.device? : Call → Option Bool
  | .requestAdapter .. => some false
  | .requestDevice _ error => some error.isNone
  | _ => none

/-- The object exists at the end if it existed before or was obtained by a call, and it is not
requested once it exists. -/
structure Obtained (outcome? : Call → Option Bool) (before : Bool) (calls : List Call)
    (after : Bool) : Prop where
  given : after = (before || calls.any (outcome? · == some true))
  held : before = true → ∀ call ∈ calls, outcome? call = none
  once : calls.Pairwise fun earlier later => outcome? earlier = some true → outcome? later = none

section

variable {outcome? : Call → Option Bool} {before between after : Bool} {calls later : List Call}

theorem Obtained.append (h₁ : Obtained outcome? before calls between)
    (h₂ : Obtained outcome? between later after) :
    Obtained outcome? before (calls ++ later) after := by
  obtain ⟨hgiven₁, hheld₁, honce₁⟩ := h₁
  obtain ⟨hgiven₂, hheld₂, honce₂⟩ := h₂
  have hthere (h : before = true) : between = true := by
    rw [hgiven₁, h, Bool.true_or]
  refine ⟨?_, fun h => List.forall_mem_append.2 ⟨hheld₁ h, hheld₂ (hthere h)⟩,
    List.pairwise_append.2 ⟨honce₁, honce₂, fun call hcall other hother hmet => ?_⟩⟩
  · rw [List.any_append, hgiven₂, hgiven₁, Bool.or_assoc]
  · have hbetween : between = true := by
      have hany : calls.any (outcome? · == some true) = true :=
        List.any_eq_true.2 ⟨call, hcall, beq_iff_eq.2 hmet⟩
      rw [hgiven₁, hany, Bool.or_true]
    exact hheld₂ hbetween other hother

theorem obtained_idle (there : Bool) (h : ∀ call ∈ calls, outcome? call = none) :
    Obtained outcome? there calls there := by
  have hnone : calls.any (outcome? · == some true) = false := by
    refine List.any_eq_false.2 fun call hcall => ?_
    rw [h call hcall]
    decide
  refine ⟨?_, fun _ => h, ?_⟩
  · rw [hnone, Bool.or_false]
  · exact List.Pairwise.imp_of_mem (fun _ hother _ _ => h _ hother)
      (List.pairwise_of_forall fun _ _ => trivial)

end

/-! ### The parts of a call for the device -/

section

variable {before after : Screen} {canvas : CanvasSize} {acquired : Bool} {asked : List Call}
  {window : Option WindowSurface} {given : Option Device} {gateway : Gateway} {surface : Surface}

theorem SurfaceFound.obtained (h : SurfaceFound before window asked) :
    Obtained Call.surface? before.window.isSome asked window.isSome := by
  cases h with
  | kept shown =>
    rw [shown]
    exact obtained_idle _ (List.forall_mem_nil _)
  | made surface absent =>
    rw [absent]
    exact ⟨rfl, nofun, List.pairwise_singleton _ _⟩
  | refused error report absent =>
    rw [absent]
    exact ⟨rfl, nofun, by simp [Call.surface?]⟩

theorem DeviceFound.obtained (h : DeviceFound gateway surface given asked) :
    Obtained Call.device? gateway.device.isSome asked given.isSome := by
  cases h with
  | shared held =>
    rw [held]
    exact obtained_idle _ (List.forall_mem_nil _)
  | opened _ _ _ absent | noAdapter _ _ _ absent | noDevice _ _ _ _ absent =>
    rw [absent]
    exact ⟨rfl, nofun, by simp [Call.device?]⟩

theorem SurfaceFound.unasked (h : SurfaceFound before window asked) :
    ∀ call ∈ asked, call.device? = none := by
  cases h <;> simp [Call.device?]

theorem DeviceFound.unasked (h : DeviceFound gateway surface given asked) :
    ∀ call ∈ asked, call.surface? = none := by
  cases h <;> simp [Call.surface?]

end

/-! ### Histories -/

theorem Call.Within.unasked {device : Device} {call : Call} (h : call.Within device) :
    call.surface? = none ∧ call.device? = none := by
  cases call <;> first | exact ⟨rfl, rfl⟩ | cases h

/-- History of a screen: surface and device are requested until they exist, and no other device is
used. -/
structure Shared (gateway : Gateway) (past : List Call) (screen : Screen) : Prop where
  surface : Obtained Call.surface? false past screen.window.isSome
  device : Obtained Call.device? gateway.device.isSome past screen.gateway.device.isSome
  held {device : Device} : screen.device = some device → screen.gateway.device = some device
  used {device : Device} {request : DeviceCall} :
    .device device request ∈ past → screen.gateway.device = some device

section

variable {gateway : Gateway} {past asked : List Call} {before after : Screen}

theorem Shared.notes (h : Shared gateway past before) (hsame : Screen.Same before after)
    {event : Event (backend frontEnd)} (hnotes : Notes before event asked) :
    Shared gateway (past ++ asked) after := by
  have hunasked : ∀ call ∈ asked, call.surface? = none ∧ call.device? = none := by
    intro call hcall
    obtain ⟨device, _, hwithin⟩ := hnotes.within hcall
    exact hwithin.unasked
  refine ⟨?_, ?_, ?_, fun {device request} hmem => ?_⟩
  · rw [hsame.window]
    exact h.surface.append (obtained_idle _ fun call hcall => (hunasked call hcall).1)
  · rw [hsame.gateway]
    exact h.device.append (obtained_idle _ fun call hcall => (hunasked call hcall).2)
  · rw [hsame.device, hsame.gateway]
    exact h.held
  · rw [hsame.gateway]
    obtain hpast | hasked := List.mem_append.1 hmem
    · exact h.used hpast
    · obtain ⟨found, hfound, hwithin⟩ := hnotes.within hasked
      cases (show device = found from hwithin)
      exact h.held hfound

theorem DeviceFound.given {surface : Surface} {given : Option Device}
    (h : DeviceFound gateway surface given asked) {device : Device}
    (hheld : gateway.device = some device) : given = some device := by
  cases h with
  | shared held => exact held.symm.trans hheld
  | opened _ _ _ absent | noAdapter _ _ _ absent | noDevice _ _ _ _ absent =>
    cases absent.symm.trans hheld

theorem Acquires.shared {canvas : CanvasSize} {acquired : Bool}
    (hacquires : Acquires canvas before after acquired asked) (h : Shared gateway past before) :
    Shared gateway (past ++ asked) after := by
  cases hacquires with
  | noSurface found absent hgateway unchanged =>
    refine ⟨?_, ?_, ?_, fun {device request} hmem => ?_⟩
    · rw [absent]
      exact h.surface.append found.obtained
    · rw [hgateway]
      exact h.device.append (obtained_idle _ found.unasked)
    · rw [unchanged, hgateway]
      exact h.held
    · rw [hgateway]
      refine h.used ((List.mem_append.1 hmem).resolve_right fun hasked => ?_)
      cases found.apart _ hasked
  | noDevice found given shown hgateway unchanged =>
    -- a device that is there would have been given, so none was used so far
    have hnever {device : Device} (hheld : before.gateway.device = some device) : False := by
      cases given.given hheld
    have hsurface := found.obtained.append (obtained_idle _ given.unasked)
    have hdevice := (obtained_idle _ found.unasked).append given.obtained
    refine ⟨?_, ?_, ?_, fun {device request} hmem => ?_⟩
    · rw [shown]
      exact h.surface.append hsurface
    · rw [hgateway]
      exact h.device.append hdevice
    · rw [unchanged]
      exact fun hheld => (hnever (h.held hheld)).elim
    · obtain hpast | hasked := List.mem_append.1 hmem
      · exact (hnever (h.used hpast)).elim
      · cases List.forall_mem_append.2 ⟨found.apart, given.apart⟩ _ hasked
  | @configured window device opening requests offered found given shown hgateway held =>
    let configures : List Call := [.capabilities window.surface offered,
      .device device (.configure window.surface (configurationFor offered canvas))]
    have hapart : ∀ call ∈ configures, call.surface? = none ∧ call.device? = none :=
      List.forall_mem_cons.2 ⟨⟨rfl, rfl⟩, List.forall_mem_singleton.2 ⟨rfl, rfl⟩⟩
    have hsurface : Obtained Call.surface? true (requests ++ configures) true :=
      obtained_idle true
        (List.forall_mem_append.2 ⟨given.unasked, fun call hcall => (hapart call hcall).1⟩)
    have hdevice : Obtained Call.device? true configures true :=
      obtained_idle true fun call hcall => (hapart call hcall).2
    -- the configuration is the first call that may use a device which has just been given
    refine ⟨?_, ?_, ?_, fun {used request} hmem => ?_⟩
    · rw [shown]
      exact h.surface.append (found.obtained.append hsurface)
    · rw [hgateway]
      exact h.device.append ((obtained_idle _ found.unasked).append (given.obtained.append hdevice))
    · rw [held, hgateway]
      exact id
    · rw [hgateway]
      obtain hpast | hasked := List.mem_append.1 hmem
      · exact given.given (h.used hpast)
      · rw [← List.append_assoc] at hasked
        obtain hbefore | hconfigured := List.mem_append.1 hasked
        · cases List.forall_mem_append.2 ⟨found.apart, given.apart⟩ _ hbefore
        · obtain hoffered | hconfigured := List.mem_cons.1 hconfigured
          · cases hoffered
          · cases List.mem_singleton.1 hconfigured
            rfl

end

/-- Any sequence of acquisitions and backend calls on a screen, with any results. -/
abbrev Used (before : Screen) (events : List (Event (backend frontEnd))) (after : Screen) : Prop :=
  Replays (B := backend frontEnd) (fun _ => True) (fun _ _ => True) before events after

theorem shared_used {system : System} {gateway : Gateway} {events : List (Event (backend frontEnd))}
    {screen : Screen} (h : Used (Screen.start system gateway) events screen) :
    Shared gateway (notes events) screen := by
  have hstart : Shared gateway [] (Screen.start system gateway) :=
    ⟨obtained_idle _ (List.forall_mem_nil _), obtained_idle _ (List.forall_mem_nil _), nofun,
      fun hmem => absurd hmem List.not_mem_nil⟩
  refine h.keeps (Shared gateway) ?_ ?_ hstart
  · intro past canvas before answer asked hshared
    exact (acquire_noted asked).shared hshared
  · intro past before event entries after consults _ _ hshared
    obtain ⟨hsame, hnotes⟩ := consults_noted consults
    exact hshared.notes hsame hnotes

/-! ### The next call for the device -/

/-- Calls and result of an acquisition: it requests what is missing and configures the surface if it
has both. -/
structure AcquireOutcome (canvas : CanvasSize) (before after : Screen) (available : Bool)
    (asked : List Call) : Prop where
  surface : (∃ error, .createSurface error ∈ asked) ↔ before.window = none
  adapter : (∃ options surface error, .requestAdapter options surface error ∈ asked) ↔
    after.window.isSome = true ∧ before.gateway.device = none
  device : (∃ descriptor error, .requestDevice descriptor error ∈ asked) ↔
    ∃ options surface, .requestAdapter options surface none ∈ asked
  acquired : available = (after.window.isSome && after.gateway.device.isSome)
  configured : available = true → ∃ device surface configuration,
    asked.filter (·.configuration?.isSome) = [.device device (.configure surface configuration)] ∧
      configuration.width = max canvas.width 1 ∧ configuration.height = max canvas.height 1 ∧
      after.window = some ⟨surface, some configuration⟩ ∧ after.gateway.device = some device
  unconfigured : available = false → ∀ call ∈ asked, call.configuration? = none

theorem Acquires.outcome {canvas : CanvasSize} {before after : Screen} {available : Bool}
    {asked : List Call} (h : Acquires canvas before after available asked) :
    AcquireOutcome canvas before after available asked := by
  cases h with
  | noSurface found absent gateway unchanged =>
    cases found with
    | refused error report missing =>
      constructor <;> simp [absent, missing, Call.configuration?]
  | noDevice found given shown gateway unchanged =>
    cases found <;> cases given <;> constructor <;> simp [*, Call.configuration?]
  | configured offered found given shown gateway held =>
    refine ⟨?_, ?_, ?_, ?_, fun _ => ?_, nofun⟩
    · cases found <;> cases given <;> simp [*]
    · cases found <;> cases given <;> simp [*]
    · cases found <;> cases given <;> simp
    · simp [shown, gateway]
    · refine ⟨_, _, _, ?_, rfl, rfl, shown, gateway⟩
      cases found <;> cases given <;> rfl

/-- For any use of a screen: surface, adapter and device are requested until obtained and not again,
and objects are created only on that device. The next acquisition repeats failed requests only. It
succeeds exactly if surface and device exist at its end, and then it configured the surface once,
for the canvas with sides clamped to 1. -/
theorem device_shared (frontEnd : FrontEnd) (system : System) (gateway : Gateway)
    {events : List (Event (backend frontEnd))} {screen : Screen}
    (h : Used (Screen.start system gateway) events screen) (canvas : CanvasSize)
    (ledger : Ledger H) (operations : List Operation) :
    let answer := (backend frontEnd).acquire canvas screen
    let start : (backend frontEnd).State := Screen.start system gateway
    let loop := (RenderLoop.idle start ledger.initial).run frontEnd ledger operations
    Shared gateway (notes events) screen ∧
    AcquireOutcome canvas screen answer.state answer.value answer.notes ∧
    Shared gateway (notes events ++ answer.notes) answer.state ∧
    Used start loop.trace loop.backend ∧ Shared gateway (notes loop.trace) loop.backend := by
  intro answer start loop
  have hshared := shared_used h
  have hacquires : Acquires canvas screen answer.state answer.value answer.notes :=
    acquire_noted rfl
  have hreplayed := RenderLoop.replayed_run (reliable frontEnd) frontEnd ledger start operations
  have hused : Used start loop.trace loop.backend :=
    hreplayed.replays.imp (fun _ _ => trivial) fun _ _ _ _ => trivial
  exact ⟨hshared, hacquires.outcome, hacquires.shared hshared, hused, shared_used hused⟩

/-- The surface and then the adapter are refused once; the third acquisition succeeds and does not
request the surface again. -/
theorem device_shared_retried :
    let frontEnd := FrontEnd.lenient []
    let answers := { Answers.smooth with
      surfaceErrors := [some "no window"], adapterErrors := [some "no adapter"] }
    let canvas : CanvasSize := ⟨640, 0⟩
    let refused := (backend frontEnd).acquire canvas (Screen.start (.of answers) ⟨none⟩)
    let missed := (backend frontEnd).acquire canvas refused.state
    let answer := (backend frontEnd).acquire canvas missed.state
    refused.value = false ∧ missed.value = false ∧ answer.value = true ∧
      (¬ ∃ error, .createSurface error ∈ answer.notes) ∧
      (∃ options surface error, .requestAdapter options surface error ∈ answer.notes) ∧
      ∃ surface configuration, configuration.width = 640 ∧ configuration.height = 1 ∧
        Screen.window answer.state = some ⟨surface, some configuration⟩ := by
  intro frontEnd answers canvas refused missed answer
  have hused : @Used frontEnd (Screen.start (.of answers) ⟨none⟩) _ missed.state :=
    .acquire rfl (.acquire rfl (.done _))
  obtain ⟨_, houtcome, _⟩ :=
    device_shared frontEnd (.of answers) ⟨none⟩ hused canvas FrameRegister.ledger []
  have hshown : (Screen.window missed.state).isSome = true := by decide +kernel
  have hacquired : answer.value = true := by decide +kernel
  have hboth := houtcome.acquired
  obtain ⟨_, surface, configuration, _, hwidth, hheight, hwindow, _⟩ :=
    houtcome.configured hacquired
  refine ⟨by decide +kernel, by decide +kernel, hacquired, fun hasked => ?_, ?_,
    surface, configuration, hwidth, hheight, hwindow⟩
  · have habsent := houtcome.surface.1 hasked
    rw [habsent] at hshown
    cases hshown
  · rw [hacquired] at hboth
    exact houtcome.adapter.2 ⟨(Bool.and_eq_true_iff.1 hboth.symm).1, rfl⟩

end ShaderPreview.Graphics
