import ShaderPreview.Mesh.Obj

/-!
# Loading meshes

Loads a mesh and the material libraries it names; an unreadable library counts as empty. The reader
of mesh files is a parameter.
-/

namespace ShaderPreview

inductive MeshFault where
  | unreadable (path : Path) (reason : String)
  | unusable (path : Path) (fault : ModelFault)
  deriving DecidableEq, Repr

def MeshFault.failure : MeshFault → Failure
  | .unreadable path reason =>
    (Failure.of reason).because s!"failed to load mesh {path.text}"
  | .unusable path fault => (Failure.of fault.message).because s!"unusable mesh {path.text}"

def readLibrary {m : Type → Type} [Monad m] (read : FileReader m) (mesh : Path)
    (name : List Char) : m (Option (List Char × List (List Char))) := do
  let path : Path := ⟨String.ofList name⟩
  let contents ← read ((mesh.parent?.map (·.join path)).getD path)
  return match contents with
    | .ok contents => (Material.namesIn contents).map (name, ·)
    | .error _ => none

/-- Reader of mesh files. It takes a `FileReader` since a mesh file may name material libraries. -/
structure MeshReader where
  models {m : Type → Type} [Monad m] : FileReader m → Path → m (Except String (List MeshModel))

def readModels : MeshReader where
  models read path := do
    match ← read path with
    | .error .folder => return .error Obj.Fault.unreadable.message
    | .error _ => return .error Obj.Fault.unopened.message
    | .ok contents =>
      let libraries ← (Obj.librariesIn contents).mapM (readLibrary read path)
      return (Obj.readModels (libraries.filterMap id) contents).mapError (·.message)

def loadMesh {m : Type → Type} [Monad m] (meshes : MeshReader) (read : FileReader m)
    (path : Path) : m (Except MeshFault VertexData) := do
  match ← meshes.models read path with
  | .error reason => return .error (.unreadable path reason)
  | .ok models => return (meshVertices models).mapError (.unusable path)

end ShaderPreview
