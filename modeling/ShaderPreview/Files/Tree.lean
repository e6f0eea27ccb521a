import ShaderPreview.Files.Fault
import ShaderPreview.Text.Place

/-!
# File trees

In-memory file system: contents and modification times below one root. Paths that leave the root
find nothing.
-/

namespace ShaderPreview

inductive FileEntry where
  | file (contents : List UInt8) (modified : Nat)
  | folder (modified : Nat)
  deriving DecidableEq, Repr

def FileEntry.modified : FileEntry → Nat
  | .file _ modified => modified
  | .folder modified => modified

/-- Normalised location: the component names from the root of the tree. -/
abbrev FilePlace := List (List Char)

structure FileTree where
  entries : List (FilePlace × FileEntry)
  deriving DecidableEq, Repr

namespace FileTree

def empty : FileTree := ⟨[]⟩

/-- The location of a path, under the assumption that every component but the last is a folder. -/
def placeOf (path : Path) : FilePlace :=
  (Path.stepsOf path.text.toList).filter fun step => !Path.isIdle step

def remove (path : Path) (tree : FileTree) : FileTree :=
  ⟨tree.entries.filter (·.1 ≠ placeOf path)⟩

def put (path : Path) (entry : FileEntry) (tree : FileTree) : FileTree :=
  ⟨(placeOf path, entry) :: (tree.remove path).entries⟩

/-- Entry at a location. Parents of existing entries count as folders. -/
def find? (place : FilePlace) (tree : FileTree) : Option FileEntry :=
  match tree.entries.lookup place with
  | some entry => some entry
  | none =>
    if place.isEmpty || tree.entries.any fun entry => place.isPrefixOf entry.1 then
      some (.folder 0)
    else none

/-- Limits on file names and paths (`NAME_MAX`, `PATH_MAX`). -/
def maxNameBytes : Nat := 255
def maxPathBytes : Nat := 4095

def follow (tree : FileTree) (place : FilePlace) (step : List Char) :
    Except FileFault FilePlace :=
  match tree.find? place with
  | none => .error .missing
  | some (.file _ _) => .error .insideFile
  | some (.folder _) =>
    if Path.isIdle step then .ok place
    else if step = ['.', '.'] then
      if place.isEmpty then .error .missing else .ok place.dropLast
    else if maxNameBytes < Text.byteCount step then .error .longName
    else if (tree.find? (place ++ [step])).isSome then .ok (place ++ [step])
    else .error .missing

def locate (tree : FileTree) (path : Path) : Except FileFault FileEntry :=
  let text := path.text.toList
  if text.contains '\x00' then .error .zeroInName
  else if text.isEmpty then .error .missing
  else if maxPathBytes < Text.byteCount text then .error .longName
  else if path.isAbsolute then
    if (placeOf path).isEmpty then .ok (.folder 0) else .error .missing
  else do
    let place ← (Path.stepsOf text).foldlM tree.follow []
    match tree.find? place with
    | some entry => .ok entry
    | none => .error .missing

def read (tree : FileTree) (path : Path) : Except FileFault (List UInt8) :=
  match tree.locate path with
  | .error fault => .error fault
  | .ok (.folder _) => .error .folder
  | .ok (.file contents _) => .ok contents

def modified? (tree : FileTree) (path : Path) : Option Nat :=
  match tree.locate path with
  | .error _ => none
  | .ok entry => some entry.modified

def text? (tree : FileTree) (path : Path) : Option String :=
  (tree.read path).toOption.bind textOf?

end FileTree

end ShaderPreview
