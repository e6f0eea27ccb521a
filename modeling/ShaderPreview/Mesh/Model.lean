import ShaderPreview.Scene.Request

/-!
# Mesh models

Positions (three floats each), triangle indices, and optional vertex colours. Flattening gives the
interleaved floats of the vertices in index order (SPEC_FULL.md, section 12).
-/

namespace ShaderPreview

structure MeshModel where
  name : String
  positions : Array Single
  colours : Array Single
  indices : List Nat
  deriving DecidableEq, Repr

inductive ModelFault where
  | noModels
  | indexOutOfRange (index : Nat)
  | vertices (fault : VertexFault)
  deriving DecidableEq, Repr

def ModelFault.message : ModelFault → String
  | .noModels => "OBJ file contains no models"
  | .indexOutOfRange index => s!"vertex index {index} is out of range"
  | .vertices fault => fault.message

namespace MeshModel

def tripleAt? (values : Array Single) (index : Nat) : Option (List Single) :=
  match values[3 * index]?, values[3 * index + 1]?, values[3 * index + 2]? with
  | some x, some y, some z => some [x, y, z]
  | _, _, _ => none

/-- Vertex colours are used only when there is one for every position. -/
def isColoured (model : MeshModel) : Bool :=
  !model.colours.isEmpty && model.colours.size == model.positions.size

/-- Colour of a vertex in a model without vertex colours. -/
def white : List Single := [.one, .one, .one]

def colourAt (model : MeshModel) (index : Nat) : List Single :=
  if model.isColoured then (tripleAt? model.colours index).getD white else white

/-- The six floats of the vertex at an index; both reads are checked. -/
def vertexAt (model : MeshModel) (index : Nat) : Except ModelFault (List Single) :=
  match tripleAt? model.positions index with
  | some position => .ok (position ++ model.colourAt index)
  | none => .error (.indexOutOfRange index)

def flatten (model : MeshModel) : Except ModelFault VertexData := do
  let vertices ← model.indices.mapM model.vertexAt
  (VertexData.of vertices.flatten).mapError .vertices

end MeshModel

/-- Vertex data of the first model; further models are ignored (SPEC_FULL.md, section 12). -/
def meshVertices (models : List MeshModel) : Except ModelFault VertexData :=
  match models with
  | [] => .error .noModels
  | model :: _ => model.flatten

end ShaderPreview
