/-!
# Loop states, tokens and ids

The state machine of SPEC_FULL.md, section 4.7, and the cancellation tokens of sessions.
-/

namespace ShaderPreview

inductive LoopState where
  | idle
  | acquiring
  | compiling
  | binding
  | running
  | retiring
  deriving DecidableEq, Repr, Inhabited

def LoopState.label : LoopState → String
  | .idle => "Idle"
  | .acquiring => "Acquiring"
  | .compiling => "Compiling"
  | .binding => "Binding"
  | .running => "Running"
  | .retiring => "Retiring"

/-- Cancellation token, identified by its number. -/
structure Token where
  number : Nat
  deriving DecidableEq, Repr, Inhabited

structure FrameId where
  number : Nat
  deriving DecidableEq, Repr, Inhabited

structure ObserverId where
  number : Nat
  deriving DecidableEq, Repr, Inhabited

/-- All tokens issued so far, numbered from 0, and the cancelled ones. -/
structure Tokens where
  issued : Nat
  cancelled : List Token
  deriving DecidableEq, Repr

namespace Tokens

def none : Tokens := ⟨0, []⟩

def fresh (tokens : Tokens) : Token := ⟨tokens.issued⟩

def issue (tokens : Tokens) : Tokens := { tokens with issued := tokens.issued + 1 }

def cancel (tokens : Tokens) (token : Token) : Tokens :=
  { tokens with cancelled := token :: tokens.cancelled }

def isCancelled (tokens : Tokens) (token : Token) : Bool := tokens.cancelled.contains token

theorem isCancelled_cancel (tokens : Tokens) (token other : Token) :
    (tokens.cancel token).isCancelled other =
      (decide (other = token) || tokens.isCancelled other) := by
  simp [isCancelled, cancel]

end Tokens

end ShaderPreview
