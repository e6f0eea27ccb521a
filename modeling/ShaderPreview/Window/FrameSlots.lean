import ShaderPreview.Session.Host

/-!
# Frame slots

Implementation of the frame host on a window: one slot for the pending frame and one for the resize
observer. A new request replaces the old one. Ids come from one counter and are never reused.
-/

namespace ShaderPreview

/-- Pending frame with its token, and the connected resize observer. -/
structure FrameSlots where
  lastId : Nat
  pending : Option (FrameId × Token)
  observer : Option ObserverId
  deriving DecidableEq, Repr

namespace FrameSlots

def empty : FrameSlots := ⟨0, none, none⟩

/-- Stores a request under a fresh id, replacing the pending one. -/
def request (token : Token) (slots : FrameSlots) : FrameId × FrameSlots :=
  let frame : FrameId := ⟨slots.lastId + 1⟩
  (frame, { slots with lastId := slots.lastId + 1, pending := some (frame, token) })

def cancel (frame : FrameId) (slots : FrameSlots) : FrameSlots :=
  if slots.pending.map (·.1) = some frame then { slots with pending := none } else slots

def observe (slots : FrameSlots) : ObserverId × FrameSlots :=
  let observer : ObserverId := ⟨slots.lastId + 1⟩
  (observer, { slots with lastId := slots.lastId + 1, observer := some observer })

def disconnect (observer : ObserverId) (slots : FrameSlots) : FrameSlots :=
  if slots.observer = some observer then { slots with observer := none } else slots

def takeDue (tokens : Tokens) (slots : FrameSlots) : Option FrameId × FrameSlots :=
  let due := match slots.pending with
    | some (frame, token) => if tokens.isCancelled token then none else some frame
    | none => none
  (due, { slots with pending := none })

def isObserved (slots : FrameSlots) : Bool := slots.observer.isSome

def host : FrameHost := ⟨FrameSlots, request, cancel, observe, disconnect⟩

@[simp] theorem takeDue_pending (tokens : Tokens) (slots : FrameSlots) :
    (slots.takeDue tokens).2.pending = none := rfl

@[simp] theorem request_pending (token : Token) (slots : FrameSlots) :
    (slots.request token).2.pending = some ((slots.request token).1, token) := rfl

@[simp] theorem observe_observer (slots : FrameSlots) :
    slots.observe.2.observer = some slots.observe.1 := rfl

end FrameSlots

end ShaderPreview
