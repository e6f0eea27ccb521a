import ShaderPreview.Mesh.Material
import ShaderPreview.Mesh.Model
import ShaderPreview.Text.Digit

/-!
# Wavefront objects

Reader of OBJ files: positions, texture coordinates and normals, and faces that refer to them by
one-based or negative index. Faces are triangulated as fans. A new object, group or material closes
the current model; the last model of a file is always kept.
-/

namespace ShaderPreview.Obj

open Text

inductive Fault where
  | unopened
  | unreadable
  | position
  | zeroScale
  | colourCount
  | texturePlace
  | normal
  | face
  | material
  | polygon
  | positionRange
  | textureRange
  | normalRange
  | colourRange
  deriving DecidableEq, Repr

def Fault.message : Fault → String
  | .unopened => "open file failed"
  | .unreadable => "read error"
  | .position => "position parse error"
  | .zeroScale => "scaling (w) by zero"
  | .colourCount => "color parse error (too many or too few components)"
  | .texturePlace => "texcoord parse error"
  | .normal => "normal parse error"
  | .face => "face parse error"
  | .material => "material parse error"
  | .polygon => "invalid polygon"
  | .positionRange => "face vertex index out of bounds"
  | .textureRange => "face texcoord index out of bounds"
  | .normalRange => "face normal index out of bounds"
  | .colourRange => "face vertex color index out of bounds"

/-- Zero-based references of a face corner; -1 for a reference that is absent or written as zero. -/
structure Corner where
  position : Int
  texture : Int
  normal : Int
  deriving DecidableEq, Repr

/-- Parser state. -/
structure Reading where
  positions : Array Single
  colours : Array Single
  textureCount : Nat
  normalCount : Nat
  faces : Array (List Corner)
  name : List Char
  material : Option Nat
  /-- Known material names, the latest first, with the number of libraries they come from. -/
  materials : List (List Char × Nat)
  materialCount : Nat
  models : Array MeshModel

def unnamed : List Char := "unnamed_object".toList

def Reading.start : Reading := ⟨#[], #[], 0, 0, #[], unnamed, none, [], 0, #[]⟩

/-! ### Positions -/

/-- The longest prefix of the words that parse as numbers. -/
def leadingNumbers (words : List (List Char)) : List Single :=
  (words.map Single.read?).takeWhile Option.isSome |>.filterMap id

def numbers? (count : Nat) (words : List (List Char)) : Option (List Single) :=
  let found := leadingNumbers (words.take count)
  if found.length = count then some found else none

/-- Divides the coordinates by the weight that follows them. -/
def scaled (point : List Single) (word : List Char) : Except Fault (List Single) :=
  match Single.read? word with
  | none => .error .position
  | some scale =>
    if scale.isZero then .error .zeroScale else .ok (point.map (·.divide scale))

/-- A `v` line: three coordinates, optionally followed by a weight or a colour. -/
def readPosition (words : List (List Char)) (reading : Reading) : Except Fault Reading :=
  match numbers? 3 words with
  | none => .error .position
  | some point => match words.drop 3 with
    | [] => .ok { reading with positions := reading.positions ++ point.toArray }
    | [scale] => do
      let point ← scaled point scale
      return { reading with positions := reading.positions ++ point.toArray }
    | [red, green, blue] =>
      let colour := leadingNumbers [red, green, blue]
      .ok { reading with
        positions := reading.positions ++ point.toArray
        colours := reading.colours ++ colour.toArray }
    | _ => .error .colourCount

/-! ### Faces -/

/-- Resolves a one-based reference; a negative one counts from the end of the list. -/
def placeOf? (count : Nat) (numeral : List Char) : Option Int :=
  if numeral.isEmpty then some (-1)
  else (signed? numeral).map fun value => if value < 0 then count + value else value - 1

/-- Parses `v`, `v/vt`, `v//vn` or `v/vt/vn`. -/
def corner? (reading : Reading) (word : List Char) : Option Corner :=
  let positionCount := reading.positions.size / 3
  match Text.splitAt (· == '/') word with
  | [] => none
  | position :: rest => do
    let position ← placeOf? positionCount position
    let texture ← placeOf? reading.textureCount (rest.headD [])
    let normal ← placeOf? reading.normalCount ((rest.drop 1).headD [])
    if (rest.drop 2).all List.isEmpty then some ⟨position, texture, normal⟩ else none

def readFace (words : List (List Char)) (reading : Reading) : Except Fault Reading :=
  match words.mapM (corner? reading) with
  | some corners => .ok { reading with faces := reading.faces.push corners }
  | none => .error .face

def fan (first : Corner) : List Corner → List Corner
  | second :: third :: rest => [first, second, third] ++ fan first (third :: rest)
  | _ => []

/-- Triangle fan around the first corner. Points and lines give degenerate triangles. -/
def triangles : List Corner → Except Fault (List Corner)
  | [] => .error .polygon
  | [point] => .ok [point, point, point]
  | [start, finish] => .ok [start, finish, finish]
  | first :: rest => .ok (fan first rest)

/-! ### Models -/

def isPlace (place : Int) (bound : Nat) : Bool := 0 ≤ place && place.toNat < bound

def addCorner (reading : Reading) (model : MeshModel) (corner : Corner) :
    Except Fault MeshModel :=
  let place := corner.position.toNat
  let refers (place : Int) (count : Nat) : Bool := 0 < count && place ≠ -1
  match if 0 ≤ corner.position then MeshModel.tripleAt? reading.positions place else none with
  | none => .error .positionRange
  | some point =>
    if refers corner.texture reading.textureCount &&
        !isPlace corner.texture reading.textureCount then .error .textureRange
    else if refers corner.normal reading.normalCount &&
        !isPlace corner.normal reading.normalCount then .error .normalRange
    else
      let model := { model with
        positions := model.positions ++ point.toArray
        indices := model.positions.size / 3 :: model.indices }
      if reading.colours.isEmpty then .ok model
      else match MeshModel.tripleAt? reading.colours place with
        | some colour => .ok { model with colours := model.colours ++ colour.toArray }
        | none => .error .colourRange

def closeModel (reading : Reading) : Except Fault MeshModel := do
  let start : MeshModel := ⟨String.ofList reading.name, #[], #[], []⟩
  let model ← reading.faces.foldlM
    (fun model face => do (← triangles face).foldlM (addCorner reading) model) start
  return { model with indices := model.indices.reverse }

/-- Emits the current model unless it has no faces. -/
def endModel (reading : Reading) : Except Fault Reading :=
  if reading.faces.isEmpty then .ok reading
  else do
    let model ← closeModel reading
    return { reading with models := reading.models.push model, faces := #[] }

/-! ### Lines -/

def afterSpace (line : List Char) : List Char :=
  match cutAt? (· == ' ') line with
  | some (_, rest) => trim rest
  | none => []

def addMaterials (names : List (List Char)) (reading : Reading) : Reading :=
  let numbered := names.zipIdx.map fun (name, index) => (name, reading.materialCount + index)
  { reading with
    materials := numbered.reverse ++ reading.materials
    materialCount := reading.materialCount + names.length }

/-- An `o` or `g` line. -/
def readName (line : List Char) (reading : Reading) : Except Fault Reading := do
  let reading ← endModel reading
  let name := trim (line.drop 1)
  return { reading with name := if name.isEmpty then unnamed else name }

/-- A `usemtl` line; an unknown material counts as no material. -/
def readMaterial (line : List Char) (reading : Reading) : Except Fault Reading :=
  let name := afterSpace line
  if name.isEmpty then .error .material
  else do
    let material := reading.materials.lookup name
    let reading ← if reading.material = material then pure reading else endModel reading
    return { reading with material := material }

/-- One line. `libraries` holds the material names of every library that can be read. -/
def readLine (libraries : List (List Char × List (List Char))) (reading : Reading)
    (line : Option (List Char)) : Except Fault Reading :=
  match line with
  | none => .error .unreadable
  | some line => match blankSeparated line with
    | [] => .ok reading
    | word :: words => match String.ofList word with
      | "v" => readPosition words reading
      | "vt" =>
        if (numbers? 2 words).isSome then
          .ok { reading with textureCount := reading.textureCount + 1 }
        else .error .texturePlace
      | "vn" =>
        if (numbers? 3 words).isSome then
          .ok { reading with normalCount := reading.normalCount + 1 }
        else .error .normal
      | "f" | "l" => readFace words reading
      | "o" | "g" => readName line reading
      | "mtllib" =>
        .ok (addMaterials ((libraries.lookup (afterSpace line)).getD []) reading)
      | "usemtl" => readMaterial line reading
      | _ => .ok reading

def readModels (libraries : List (List Char × List (List Char))) (contents : List UInt8) :
    Except Fault (List MeshModel) := do
  let reading ← (Material.linesOf contents).foldlM (readLine libraries) Reading.start
  let last ← closeModel reading
  return (reading.models.push last).toList

/-- Library names on the `mtllib` lines. -/
def librariesIn (contents : List UInt8) : List (List Char) :=
  (Material.linesOf contents).filterMap fun line =>
    line.bind fun line =>
      if (blankSeparated line).head? = some "mtllib".toList then some (afterSpace line) else none

end ShaderPreview.Obj
