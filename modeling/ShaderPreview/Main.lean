import ShaderPreview.Application
import ShaderPreview.Wgsl.FrontEnd

/-!
# The program

The program reads files from the disk. It has no window system of its own: a preview opens its
window on a quiet one, which delivers no events.
-/

namespace ShaderPreview

/-- `EISDIR`. -/
def folderError : UInt32 := 21

def FileFault.ofError (error : IO.Error) : FileFault :=
  let wrongType (code : UInt32) : FileFault := if code = folderError then .folder else .insideFile
  match error with
  | .noFileOrDirectory .. => .missing
  | .inappropriateType _ code _ => wrongType code
  | other => .otherwise (toString other)

def readFromDisk : FileReader IO := fun path => do
  try return .ok (← IO.FS.readBinFile path.text).toList
  catch error => return .error (.ofError error)

def manifestVariable : String := "SHADEBOX_MANIFEST"

def surroundings : Application.Surroundings :=
  ⟨Wgsl.frontEnd, .standard, .quiet, .of .smooth, ⟨0, .empty⟩⟩

def runProgram (arguments : List String) : IO UInt32 := do
  let outcome ← Application.run readFromDisk surroundings (← IO.getEnv manifestVariable) arguments
  IO.print outcome.output
  IO.eprint outcome.complaint
  return outcome.exitCode.toUInt32

end ShaderPreview

def main (arguments : List String) : IO UInt32 := ShaderPreview.runProgram arguments
