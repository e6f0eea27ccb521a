import ShaderPreview.Files.Fault
import ShaderPreview.Manifest.Document
import ShaderPreview.Manifest.Flaw

/-!
# Loading manifests

A manifest is parsed, deserialised and validated; one that is read from a file has its paths
resolved against the directory of the file. The document parser is a parameter.
-/

namespace ShaderPreview

inductive ManifestFault where
  | unreadable (path : Path) (reason : String)
  | noDocument (reason : String)
  | misfit (fault : SchemaFault)
  | invalid (flaw : ManifestFlaw)
  deriving Repr

namespace ManifestFault

def message : ManifestFault → String
  | .unreadable path reason => s!"failed to read manifest {path.text}: {reason}"
  | .noDocument reason => s!"failed to parse manifest: {reason}"
  | .misfit fault => s!"failed to parse manifest: {fault.message}"
  | .invalid flaw => s!"invalid manifest: {flaw.message}"

def failure (fault : ManifestFault) : Failure :=
  match fault with
  | .unreadable _ reason => ⟨fault.message, [reason]⟩
  | _ => .of fault.message

end ManifestFault

namespace Manifest

def ofText (toml : Toml.Parser) (text : String) : Except ManifestFault Manifest := do
  let entries ← (toml text).mapError .noDocument
  ((← (ofEntries entries).mapError .misfit).validate).mapError .invalid

/-- Resolves the paths against the directory of the manifest file. -/
def resolveFrom (path : Path) (manifest : Manifest) : Manifest :=
  match path.parent? with
  | some folder => manifest.resolve folder
  | none => manifest

def ofFile (toml : Toml.Parser) (path : Path) (contents : Except FileFault (List UInt8)) :
    Except ManifestFault Manifest := do
  let text ← (textOf contents).mapError (.unreadable path)
  return (← ofText toml text).resolveFrom path

def load {m : Type → Type} [Monad m] (toml : Toml.Parser) (read : FileReader m) (path : Path) :
    m (Except ManifestFault Manifest) := do
  return ofFile toml path (← read path)

end Manifest

end ShaderPreview
