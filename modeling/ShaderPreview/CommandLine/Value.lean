import ShaderPreview.Scene.Request
import ShaderPreview.Text.Blank
import ShaderPreview.Text.Digit

/-!
# Option values

Parsers of `WIDTHxHEIGHT` and `INDEX=IMAGE`. Blanks are allowed around the numbers and the path;
everything after the first equals sign belongs to the path.
-/

namespace ShaderPreview

/-- Separator of width and height. -/
def isCross (c : Char) : Bool := c == 'x' || c == 'X' || c == '×'

inductive SizeFault where
  | noCross (text : String)
  | invalidWidth (text : String)
  | invalidHeight (text : String)
  | empty
  deriving DecidableEq, Repr

def SizeFault.message : SizeFault → String
  | .noCross text => "expected WIDTHxHEIGHT, e.g. 1280x720 (got '" ++ text ++ "')"
  | .invalidWidth text => "invalid width '" ++ text ++ "'"
  | .invalidHeight text => "invalid height '" ++ text ++ "'"
  | .empty => "window dimensions must be greater than zero"

def sideOf (fault : String → SizeFault) (text : List Char) : Except SizeFault Nat :=
  let digits := Text.trim text
  match Text.word32? digits with
  | some side => .ok side
  | none => .error (fault (String.ofList digits))

def parseSize (text : String) : Except SizeFault CanvasSize :=
  let trimmed := Text.trim text.toList
  match Text.cutAt? isCross trimmed with
  | none => .error (.noCross (String.ofList trimmed))
  | some (before, after) => do
    let width ← sideOf .invalidWidth before
    let height ← sideOf .invalidHeight after
    if (CanvasSize.mk width height).isEmpty then .error .empty else .ok ⟨width, height⟩

inductive AssignmentFault where
  | noEquals (text : String)
  | invalidChannel (text : String)
  | noSuchChannel (channel : Nat)
  | noPath (channel : Nat)
  deriving DecidableEq, Repr

def AssignmentFault.message : AssignmentFault → String
  | .noEquals text => "expected INDEX=IMAGE, e.g. 0=noise.png (got '" ++ text ++ "')"
  | .invalidChannel text => "invalid channel index '" ++ text ++ "'"
  | .noSuchChannel channel =>
    s!"channel {channel} is out of range; expected 0-{channelCount - 1}"
  | .noPath channel => s!"channel {channel} needs an image path"

abbrev ChannelAssignment := Nat × Path

def channelOf (text : List Char) : Except AssignmentFault Nat :=
  let digits := Text.trim text
  match Text.unsigned? Text.word64Bound digits with
  | none => .error (.invalidChannel (String.ofList digits))
  | some channel =>
    if channel < channelCount then .ok channel else .error (.noSuchChannel channel)

def parseAssignment (text : String) : Except AssignmentFault ChannelAssignment :=
  match Text.cutAt? (· == '=') text.toList with
  | none => .error (.noEquals text)
  | some (before, after) => do
    let channel ← channelOf before
    let path := Text.trim after
    if path.isEmpty then .error (.noPath channel)
    else .ok (channel, ⟨String.ofList path⟩)

end ShaderPreview
