import ShaderPreview.Proofs.Session.Memory
import ShaderPreview.Window.FrameSlots

/-!
# Slots as a frame host

The two slots of a window implement a host of capacity one. A render loop on this host requests a
frame only when the slot is free: the slots can be replayed along the trace of a run.
-/

namespace ShaderPreview

variable {B : Backend}

namespace FrameSlots

theorem lastId_cancel (frame : FrameId) (slots : FrameSlots) :
    (slots.cancel frame).lastId = slots.lastId := by
  unfold cancel
  split <;> rfl

theorem lastId_disconnect (observer : ObserverId) (slots : FrameSlots) :
    (slots.disconnect observer).lastId = slots.lastId := by
  unfold disconnect
  split <;> rfl

theorem lastId_mono {before after : host.State} (h : Evolves host cancel before after) :
    FrameSlots.lastId before ≤ FrameSlots.lastId after := by
  induction h with
  | refl => exact Nat.le_refl _
  | request token _ ih => exact Nat.le_succ_of_le ih
  | observe _ ih => exact Nat.le_succ_of_le ih
  | cancel frame _ ih => exact Nat.le_trans ih (Nat.le_of_eq (lastId_cancel frame _).symm)
  | disconnect observer _ ih =>
    exact Nat.le_trans ih (Nat.le_of_eq (lastId_disconnect observer _).symm)
  | deliver frame _ ih => exact Nat.le_trans ih (Nat.le_of_eq (lastId_cancel frame _).symm)

theorem pending_cancel (frame : FrameId) (slots : FrameSlots) :
    (slots.cancel frame).pending.toList = slots.pending.toList.filter (·.1 ≠ frame) := by
  unfold cancel
  cases hpending : slots.pending with
  | none => simp [hpending]
  | some entry =>
    by_cases heq : entry.1 = frame
    · simp [heq]
    · simp [hpending, heq]

theorem cancel_of_kept {frame : FrameId} {slots : FrameSlots}
    (h : (slots.cancel frame).pending.toList = slots.pending.toList) :
    slots.cancel frame = slots := by
  unfold cancel at h ⊢
  split
  · rename_i hheld
    rw [if_pos hheld] at h
    have hnone : slots.pending = none := Option.toList_eq_nil_iff.1 h.symm
    simp [hnone] at hheld
  · rfl

theorem observer_cancel (frame : FrameId) (slots : FrameSlots) :
    (slots.cancel frame).observer = slots.observer := by
  unfold cancel
  split <;> rfl

theorem takeDue_free {slots : FrameSlots} (tokens : Tokens) (h : slots.pending = none) :
    slots.takeDue tokens = (none, slots) := by
  unfold takeDue
  simp only [h]
  exact congrArg (Prod.mk none) (congrArg (FrameSlots.mk _ · _) h.symm)

theorem takeDue_wanted {slots : FrameSlots} {tokens : Tokens} {frame : FrameId} {token : Token}
    (h : slots.pending = some (frame, token)) (hwanted : tokens.isCancelled token = false) :
    slots.takeDue tokens = (some frame, { slots with pending := none }) := by
  unfold takeDue
  simp only [h, hwanted, Bool.false_eq_true, if_false]

theorem pending_disconnect (observer : ObserverId) (slots : FrameSlots) :
    (slots.disconnect observer).pending = slots.pending := by
  unfold disconnect
  split <;> rfl

theorem observer_disconnect (observer : ObserverId) (slots : FrameSlots) :
    (slots.disconnect observer).observer.toList = slots.observer.toList.filter (· ≠ observer) := by
  unfold disconnect
  cases hobserver : slots.observer with
  | none => simp [hobserver]
  | some other =>
    by_cases heq : other = observer
    · simp [heq]
    · simp [hobserver, heq]

/-- The slots satisfy the specification of a host; delivery clears the frame slot. -/
def ledger : Ledger host where
  initial := empty
  pending slots := (FrameSlots.pending slots).toList
  observers slots := (FrameSlots.observer slots).toList
  deliver := cancel
  pending_initial := rfl
  observers_initial := rfl
  pending_request _ _ _ := rfl
  observers_request _ _ := rfl
  pending_cancel := pending_cancel
  observers_cancel frame slots := congrArg Option.toList (observer_cancel frame slots)
  pending_observe _ := rfl
  observers_observe _ := rfl
  pending_disconnect observer slots := congrArg Option.toList (pending_disconnect observer slots)
  observers_disconnect := observer_disconnect
  pending_deliver := pending_cancel
  observers_deliver frame slots := congrArg Option.toList (observer_cancel frame slots)
  request_new token other {slots later} h := by
    have hle : slots.lastId + 1 ≤ later.lastId := lastId_mono h
    intro heq
    have hnumber : later.lastId + 1 = slots.lastId + 1 := congrArg FrameId.number heq
    omega
  observe_new {slots later} h := by
    have hle : slots.lastId + 1 ≤ later.lastId := lastId_mono h
    intro heq
    have hnumber : later.lastId + 1 = slots.lastId + 1 := congrArg ObserverId.number heq
    omega

/-! ### Slots along a trace -/

/-- Slots before and after a list of events. The ids in the events are those issued by the slots, a
slot is free when it is requested, and a frame is drawn only after it was taken from its slot. -/
inductive SlotsAlong : FrameSlots → List (Event B) → FrameSlots → Prop
  | done (slots : FrameSlots) : SlotsAlong slots [] slots
  | request {slots after : FrameSlots} {events : List (Event B)} (token : Token)
      (free : slots.pending = none) (rest : SlotsAlong (slots.request token).2 events after) :
      SlotsAlong slots (.requestFrame token (slots.request token).1 :: events) after
  | cancel {slots after : FrameSlots} {events : List (Event B)} (frame : FrameId)
      (rest : SlotsAlong (slots.cancel frame) events after) :
      SlotsAlong slots (.cancelFrame frame :: events) after
  | observe {slots after : FrameSlots} {events : List (Event B)}
      (free : slots.observer = none) (rest : SlotsAlong slots.observe.2 events after) :
      SlotsAlong slots (.observeResize slots.observe.1 :: events) after
  | disconnect {slots after : FrameSlots} {events : List (Event B)} (observer : ObserverId)
      (rest : SlotsAlong (slots.disconnect observer) events after) :
      SlotsAlong slots (.disconnectResize observer :: events) after
  | draw {slots after : FrameSlots} {events : List (Event B)} {entry : FrameId × Token}
      {pipeline : B.Pipeline} {resources : B.Resources} {vertices : Option B.Vertices}
      {frame : FrameInput} {result : Except Failure Unit} (held : slots.pending = some entry)
      (rest : SlotsAlong { slots with pending := none } events after) :
      SlotsAlong slots (.draw pipeline resources vertices frame result :: events) after
  | other {slots after : FrameSlots} {event : Event B} {events : List (Event B)}
      (aside : event.hostCall? = none) (rest : SlotsAlong slots events after) :
      SlotsAlong slots (event :: events) after

theorem SlotsAlong.append {before between after : FrameSlots} {events later : List (Event B)}
    (h₁ : SlotsAlong before events between) (h₂ : SlotsAlong between later after) :
    SlotsAlong before (events ++ later) after := by
  induction h₁ with
  | done => exact h₂
  | request token free _ ih => exact .request token free (ih h₂)
  | cancel frame _ ih => exact .cancel frame (ih h₂)
  | observe free _ ih => exact .observe free (ih h₂)
  | disconnect observer _ ih => exact .disconnect observer (ih h₂)
  | draw held _ ih => exact .draw held (ih h₂)
  | other aside _ ih => exact .other aside (ih h₂)

theorem slotsAlong_aside (slots : FrameSlots) {events : List (Event B)}
    (h : hostCalls events = []) : SlotsAlong slots events slots := by
  induction events with
  | nil => exact .done slots
  | cons event events ih =>
    obtain ⟨hevent, hevents⟩ := List.forall_mem_cons.1 (List.filterMap_eq_nil_iff.1 h)
    exact .other hevent (ih (List.filterMap_eq_nil_iff.2 hevents))

theorem slotsAlong_retirement (session : Session B) (slots : host.State) :
    SlotsAlong slots session.retirement (session.hostAfter slots) := by
  unfold Session.retirement Session.hostAfter
  cases session.frame with
  | none => exact .other rfl (.disconnect _ (.other rfl (.done _)))
  | some frame => exact .other rfl (.cancel frame (.disconnect _ (.other rfl (.done _))))

end FrameSlots

/-! ### Slots along a run -/

namespace RenderLoop

def SlotsFollow (loop : RenderLoop B FrameSlots.host) : Prop :=
  FrameSlots.SlotsAlong FrameSlots.empty loop.trace loop.host

variable {loop : RenderLoop B FrameSlots.host} {drawn : List FrameId}

theorem SlotsFollow.later (h : loop.SlotsFollow) {next : RenderLoop B FrameSlots.host}
    (events : List (Event B)) (htrace : next.trace = loop.trace ++ events)
    (halong : FrameSlots.SlotsAlong loop.host events next.host) : next.SlotsFollow := by
  unfold SlotsFollow
  rw [htrace]
  exact FrameSlots.SlotsAlong.append h halong

theorem SlotsFollow.retire (h : loop.SlotsFollow) (hsettled : loop.session.isSome = true →
    loop.state = .running) : loop.retire.SlotsFollow := by
  cases hsession : loop.session with
  | none =>
    rw [retire_none hsession]
    exact h
  | some session =>
    rw [retire_running hsession (hsettled (by rw [hsession]; rfl))]
    exact h.later _ rfl (FrameSlots.slotsAlong_retirement session loop.host)

theorem slot_free (h : FrameSlots.ledger.pending loop.host = []) :
    FrameSlots.pending loop.host = none := Option.toList_eq_nil_iff.1 h

theorem SlotsFollow.start (h : loop.SlotsFollow) (horder : Orderly FrameSlots.ledger drawn loop)
    (frontEnd : FrontEnd) (request : RenderRequest) (now : Nat) :
    (loop.start frontEnd request now).SlotsFollow := by
  have hpoised : (loop.atAcquire request).SlotsFollow := by
    have hretired := h.retire horder.settled.state_running
    rw [horder.settled.atAcquire_after]
    exact hretired.later _ rfl (.other rfl (.done _))
  have haccounts := horder.atAcquire request
  have habsent := horder.settled.atAcquire_session request
  obtain ⟨backend, events, hevents, hnext⟩ | ⟨backend, events, assembly, hevents, hnext⟩ :=
    (start_attempted frontEnd request now loop).apart
  · rw [hnext]
    exact hpoised.later _ rfl (FrameSlots.slotsAlong_aside _ hevents)
  · -- the old session has left, so that both slots are free for the new one
    have hpending := haccounts.pending
    have hobservers := haccounts.observers
    rw [habsent] at hpending hobservers
    have hready : ((loop.atAcquire request).after .running backend events).SlotsFollow :=
      hpoised.later _ rfl (FrameSlots.slotsAlong_aside _ hevents)
    rw [hnext]
    refine hready.later [_, _, _, _] rfl ?_
    refine .request _ (slot_free hpending) (.observe ?_ (.other rfl (.other rfl (.done _))))
    exact Option.toList_eq_nil_iff.1 hobservers

theorem deliver_slots {session : Session B} {frame : FrameId}
    (horder : Orderly FrameSlots.ledger drawn loop) (hsession : loop.session = some session)
    (hframe : session.frame = some frame) :
    FrameSlots.pending loop.host = some (frame, session.token) ∧
      FrameSlots.ledger.deliver frame loop.host =
        { (loop.host : FrameSlots) with pending := none } := by
  have hpending : FrameSlots.pending loop.host = some (frame, session.token) :=
    Option.toList_eq_singleton_iff.1 (horder.pending_running hsession hframe)
  refine ⟨hpending, ?_⟩
  exact if_pos (congrArg (Option.map (·.1)) hpending)

theorem SlotsFollow.frame (h : loop.SlotsFollow) (horder : Orderly FrameSlots.ledger drawn loop)
    (frontEnd : FrontEnd) (frame : FrameId) (now : Nat) :
    (loop.perform frontEnd FrameSlots.ledger (.frame frame now)).SlotsFollow := by
  let taken : RenderLoop B FrameSlots.host :=
    { loop with host := FrameSlots.ledger.deliver frame loop.host }
  have hdelivered : Delivered frame now taken (taken.onFrame frame now) :=
    onFrame_delivered frame now taken
  show (taken.onFrame frame now).SlotsFollow
  generalize taken.onFrame frame now = next at hdelivered
  have hdrew {session : Session B} (hsession : loop.session = some session)
      (hdue : session.frame = some frame) (failures : Nat) :
      (taken.drew session now failures).SlotsFollow := by
    obtain ⟨hheld, htaken⟩ := deliver_slots horder hsession hdue
    refine h.later _ rfl (.draw hheld ?_)
    rw [← htaken]
    exact FrameSlots.slotsAlong_aside _ (hostCalls_stage (stage_notes _))
  have hnext {session : Session B} (hsession : loop.session = some session)
      (hdue : session.frame = some frame) (failures : Nat) :
      ((taken.drew session now failures).requestNext (session.drawn failures)).SlotsFollow := by
    obtain ⟨_, htaken⟩ := deliver_slots horder hsession hdue
    refine (hdrew hsession hdue failures).later [_] rfl (.request _ ?_ (.done _))
    show FrameSlots.pending (FrameSlots.ledger.deliver frame loop.host) = none
    rw [htaken]
  cases hdelivered with
  | stale unwanted =>
    have hsame : taken.host = loop.host :=
      FrameSlots.cancel_of_kept (horder.pending_stale unwanted)
    unfold SlotsFollow
    rw [hsame]
    exact h
  | @drawn session running _ due => exact hnext running due 0
  | @failed session _ running _ due => exact hnext running due _
  | @exhausted session _ running _ due =>
    refine (hdrew running due _).retire fun _ => ?_
    exact horder.settled.state_running (by
      show taken.session.isSome = true
      rw [running]
      rfl)

theorem SlotsFollow.perform (h : loop.SlotsFollow) (horder : Orderly FrameSlots.ledger drawn loop)
    (frontEnd : FrontEnd) (operation : Operation) :
    (loop.perform frontEnd FrameSlots.ledger operation).SlotsFollow := by
  obtain ⟨request, now, _, hstart⟩ | ⟨frame, now, rfl⟩ | rfl | ⟨_, _, _, _, hquiet⟩ :=
    loop.perform_cases frontEnd FrameSlots.ledger operation
  · rw [hstart]
    exact h.start horder frontEnd request now
  · exact h.frame horder frontEnd frame now
  · exact h.retire horder.settled.state_running
  · rw [hquiet]
    exact h

theorem slotsFollow_run (frontEnd : FrontEnd) (backend : B.State) (operations : List Operation) :
    ((RenderLoop.idle backend FrameSlots.empty).run frontEnd FrameSlots.ledger
      operations).SlotsFollow := by
  refine run_induction frontEnd FrameSlots.ledger backend (fun _ loop => loop.SlotsFollow)
    (.done _) ?_ operations
  intro operations operation loop hrun _ hfollow
  have horder := Orderly.reached frontEnd FrameSlots.ledger backend operations
  rw [hrun] at horder
  exact hfollow.perform horder frontEnd operation

end RenderLoop

end ShaderPreview
