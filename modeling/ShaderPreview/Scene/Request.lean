import ShaderPreview.Failure
import ShaderPreview.Files.Path
import ShaderPreview.Number.Single
import ShaderPreview.Scene.Channel

/-!
# Render requests

The input of a render attempt (SPEC_FULL.md, section 6): source, channel images, optional mesh, and
canvas size in physical pixels; with the pointer state and the configuration of the preview window.
Vertex data is interleaved, six floats for every vertex: position and colour.
-/

namespace ShaderPreview

structure CanvasSize where
  width : Nat
  height : Nat
  deriving DecidableEq, Repr, Inhabited

/-- A canvas with an empty side is never drawn on. -/
def CanvasSize.isEmpty (size : CanvasSize) : Bool := size.width == 0 || size.height == 0

structure Pointer where
  x : Single
  y : Single
  pressed : Bool
  deriving DecidableEq, Repr

namespace Pointer

/-- Pointer state before any pointer event. -/
def rest : Pointer := ⟨.zero, .zero, false⟩

def moveTo (pointer : Pointer) (x y : Single) : Pointer := { pointer with x := x, y := y }

def press (pointer : Pointer) (pressed : Bool) : Pointer := { pointer with pressed := pressed }

/-- Contents of the pointer uniform: position, pressed flag, padding. -/
def uniform (pointer : Pointer) : List Single :=
  [pointer.x, pointer.y, if pointer.pressed then .one else .zero, .zero]

end Pointer

def floatsPerVertex : Nat := 6

inductive VertexFault where
  | empty
  | incomplete (length : Nat)
  deriving DecidableEq, Repr

def VertexFault.message : VertexFault → String
  | .empty => "vertex data must contain at least one vertex"
  | .incomplete length =>
    s!"vertex data length {length} is not a multiple of {floatsPerVertex}"

def VertexFault.failure (fault : VertexFault) : Failure := .of fault.message

structure VertexData where
  floats : List Single
  deriving DecidableEq, Repr

/-- Checks that there is at least one vertex and no incomplete one. -/
def VertexData.of (floats : List Single) : Except VertexFault VertexData :=
  if floats.isEmpty then .error .empty
  else if floats.length % floatsPerVertex ≠ 0 then .error (.incomplete floats.length)
  else .ok ⟨floats⟩

/-- Vertex count, truncated to 32 bits. -/
def VertexData.count (vertices : VertexData) : Nat :=
  vertices.floats.length / floatsPerVertex % 4294967296

def VertexData.bytes (vertices : VertexData) : List UInt8 := vertices.floats.flatMap Single.bytes

/-- Input of one attempt (SPEC_FULL.md, section 6). -/
structure RenderRequest where
  source : String
  channels : ChannelMap
  vertices : Option VertexData
  canvas : CanvasSize

structure PreviewConfig where
  title : String
  size : CanvasSize
  /-- Shader file to poll for changes. -/
  watch : Option Path
  deriving DecidableEq, Repr

def PreviewConfig.standard : PreviewConfig := ⟨"shadebox", ⟨1280, 720⟩, none⟩

end ShaderPreview
