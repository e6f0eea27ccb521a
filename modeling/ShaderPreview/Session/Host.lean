import ShaderPreview.Session.State

/-!
# Frame hosts

Interface to the owner of the drawing surface: frame callbacks, one at a time, and resize observers.
-/

namespace ShaderPreview

structure FrameHost where
  State : Type
  /-- Schedules a frame; it is not delivered once the token is cancelled. -/
  request : Token → State → FrameId × State
  cancel : FrameId → State → State
  observe : State → ObserverId × State
  disconnect : ObserverId → State → State

/-! ### A register of frames and observers -/

/-- Pending frames and connected observers, numbered by one counter. -/
structure FrameRegister where
  lastId : Nat
  pending : List (FrameId × Token)
  observers : List ObserverId
  deriving DecidableEq, Repr

namespace FrameRegister

def empty : FrameRegister := ⟨0, [], []⟩

def request (token : Token) (register : FrameRegister) : FrameId × FrameRegister :=
  let frame : FrameId := ⟨register.lastId + 1⟩
  (frame, { register with
    lastId := register.lastId + 1
    pending := register.pending ++ [(frame, token)] })

def forget (frame : FrameId) (register : FrameRegister) : FrameRegister :=
  { register with pending := register.pending.filter (·.1 ≠ frame) }

def observe (register : FrameRegister) : ObserverId × FrameRegister :=
  let observer : ObserverId := ⟨register.lastId + 1⟩
  (observer, { register with
    lastId := register.lastId + 1
    observers := register.observers ++ [observer] })

def disconnect (observer : ObserverId) (register : FrameRegister) : FrameRegister :=
  { register with observers := register.observers.filter (· ≠ observer) }

/-- Pending frames. -/
def live (register : FrameRegister) (tokens : Tokens) : List FrameId :=
  (register.pending.filter fun entry => !tokens.isCancelled entry.2).map (·.1)

def host : FrameHost := ⟨FrameRegister, request, forget, observe, disconnect⟩

end FrameRegister

end ShaderPreview
