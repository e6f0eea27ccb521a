import ShaderPreview.Session.Host

/-!
# Specification of a frame host

What a render loop assumes of its host: ids are not reused, and frames and observers are forgotten
exactly when they are delivered, cancelled or disconnected. A request while another frame is held is
unconstrained, so hosts with many slots and hosts with a single one both satisfy it.
-/

namespace ShaderPreview

/-- Reachable host states, by the calls of the loop and the delivery of frames. -/
inductive Evolves (H : FrameHost) (deliver : FrameId → H.State → H.State) (start : H.State) :
    H.State → Prop
  | refl : Evolves H deliver start start
  | request {state : H.State} (token : Token) (earlier : Evolves H deliver start state) :
      Evolves H deliver start (H.request token state).2
  | cancel {state : H.State} (frame : FrameId) (earlier : Evolves H deliver start state) :
      Evolves H deliver start (H.cancel frame state)
  | observe {state : H.State} (earlier : Evolves H deliver start state) :
      Evolves H deliver start (H.observe state).2
  | disconnect {state : H.State} (observer : ObserverId)
      (earlier : Evolves H deliver start state) :
      Evolves H deliver start (H.disconnect observer state)
  | deliver {state : H.State} (frame : FrameId) (earlier : Evolves H deliver start state) :
      Evolves H deliver start (deliver frame state)

theorem Evolves.trans {H : FrameHost} {deliver : FrameId → H.State → H.State}
    {s t u : H.State} (hst : Evolves H deliver s t) (htu : Evolves H deliver t u) :
    Evolves H deliver s u := by
  induction htu with
  | refl => exact hst
  | request token _ ih => exact ih.request token
  | cancel frame _ ih => exact ih.cancel frame
  | observe _ ih => exact ih.observe
  | disconnect observer _ ih => exact ih.disconnect observer
  | deliver frame _ ih => exact ih.deliver frame

/-- Specification of a host: what it holds, how a frame is delivered, and the laws of its
operations. -/
structure Ledger (H : FrameHost) where
  initial : H.State
  /-- Frames requested and neither delivered nor cancelled, with their tokens. -/
  pending : H.State → List (FrameId × Token)
  observers : H.State → List ObserverId
  deliver : FrameId → H.State → H.State
  pending_initial : pending initial = []
  observers_initial : observers initial = []
  pending_request (token : Token) {state : H.State} : pending state = [] →
    pending (H.request token state).2 = [((H.request token state).1, token)]
  observers_request (token : Token) (state : H.State) :
    observers (H.request token state).2 = observers state
  pending_cancel (frame : FrameId) (state : H.State) :
    pending (H.cancel frame state) = (pending state).filter (·.1 ≠ frame)
  observers_cancel (frame : FrameId) (state : H.State) :
    observers (H.cancel frame state) = observers state
  pending_observe (state : H.State) : pending (H.observe state).2 = pending state
  observers_observe {state : H.State} : observers state = [] →
    observers (H.observe state).2 = [(H.observe state).1]
  pending_disconnect (observer : ObserverId) (state : H.State) :
    pending (H.disconnect observer state) = pending state
  observers_disconnect (observer : ObserverId) (state : H.State) :
    observers (H.disconnect observer state) = (observers state).filter (· ≠ observer)
  pending_deliver (frame : FrameId) (state : H.State) :
    pending (deliver frame state) = (pending state).filter (·.1 ≠ frame)
  observers_deliver (frame : FrameId) (state : H.State) :
    observers (deliver frame state) = observers state
  request_new (token other : Token) {state later : H.State} :
    Evolves H deliver (H.request token state).2 later →
      (H.request other later).1 ≠ (H.request token state).1
  observe_new {state later : H.State} : Evolves H deliver (H.observe state).2 later →
    (H.observe later).1 ≠ (H.observe state).1

namespace Ledger

variable {H : FrameHost} (ledger : Ledger H)

/-- Frames the host may still deliver: those whose token is not cancelled. -/
def live (tokens : Tokens) (state : H.State) : List FrameId :=
  ((ledger.pending state).filter fun entry => !tokens.isCancelled entry.2).map (·.1)

def SpentFrame (state : H.State) (frame : FrameId) : Prop :=
  ∀ later, Evolves H ledger.deliver state later → ∀ token, (H.request token later).1 ≠ frame

def SpentObserver (state : H.State) (observer : ObserverId) : Prop :=
  ∀ later, Evolves H ledger.deliver state later → (H.observe later).1 ≠ observer

variable {ledger} {state next : H.State}

theorem SpentFrame.later {frame : FrameId} (h : ledger.SpentFrame state frame)
    (he : Evolves H ledger.deliver state next) : ledger.SpentFrame next frame :=
  fun last hl => h last (he.trans hl)

theorem SpentObserver.later {observer : ObserverId} (h : ledger.SpentObserver state observer)
    (he : Evolves H ledger.deliver state next) : ledger.SpentObserver next observer :=
  fun last hl => h last (he.trans hl)

theorem spentFrame_request (token : Token) (state : H.State) :
    ledger.SpentFrame (H.request token state).2 (H.request token state).1 :=
  fun _ hl other => ledger.request_new token other hl

theorem spentObserver_observe (state : H.State) :
    ledger.SpentObserver (H.observe state).2 (H.observe state).1 :=
  fun _ hl => ledger.observe_new hl

theorem not_spentFrame_request (token : Token) (state : H.State) :
    ¬ ledger.SpentFrame state (H.request token state).1 :=
  fun h => h state .refl token rfl

theorem not_spentObserver_observe (state : H.State) :
    ¬ ledger.SpentObserver state (H.observe state).1 :=
  fun h => h state .refl rfl

end Ledger

/-! ### The register of frames and observers -/

namespace FrameRegister

theorem lastId_mono {s t : host.State} (h : Evolves host forget s t) :
    FrameRegister.lastId s ≤ FrameRegister.lastId t := by
  induction h with
  | refl => exact Nat.le_refl _
  | request token _ ih => exact Nat.le_succ_of_le ih
  | observe _ ih => exact Nat.le_succ_of_le ih
  | cancel frame _ ih => exact ih
  | disconnect observer _ ih => exact ih
  | deliver frame _ ih => exact ih

/-- The ids of a register increase, so none is issued twice. -/
def ledger : Ledger host where
  initial := empty
  pending := FrameRegister.pending
  observers := FrameRegister.observers
  deliver := forget
  pending_initial := rfl
  observers_initial := rfl
  pending_request token state h := by
    show FrameRegister.pending state ++ _ = _
    rw [h]
    rfl
  observers_request _ _ := rfl
  pending_cancel _ _ := rfl
  observers_cancel _ _ := rfl
  pending_observe _ := rfl
  observers_observe {state} h := by
    show FrameRegister.observers state ++ _ = _
    rw [h]
    rfl
  pending_disconnect _ _ := rfl
  observers_disconnect _ _ := rfl
  pending_deliver _ _ := rfl
  observers_deliver _ _ := rfl
  request_new token other {state later} h := by
    have hle : state.lastId + 1 ≤ later.lastId := lastId_mono h
    intro heq
    have hnum : later.lastId + 1 = state.lastId + 1 := congrArg FrameId.number heq
    omega
  observe_new {state later} h := by
    have hle : state.lastId + 1 ≤ later.lastId := lastId_mono h
    intro heq
    have hnum : later.lastId + 1 = state.lastId + 1 := congrArg ObserverId.number heq
    omega

end FrameRegister

end ShaderPreview
