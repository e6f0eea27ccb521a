import ShaderPreview.Files.Path

/-!
# Reading files

File errors and readers. A reader is a function into an arbitrary monad, so files may come from a
disk or from a tree in memory.
-/

namespace ShaderPreview

inductive FileFault where
  | missing
  | folder
  | insideFile
  | longName
  | zeroInName
  | otherwise (reason : String)
  deriving DecidableEq, Repr, Inhabited

def FileFault.message : FileFault → String
  | .missing => "No such file or directory (os error 2)"
  | .folder => "Is a directory (os error 21)"
  | .insideFile => "Not a directory (os error 20)"
  | .longName => "File name too long (os error 36)"
  | .zeroInName => "file name contained an unexpected NUL byte"
  | .otherwise reason => reason

def notText : String := "stream did not contain valid UTF-8"

abbrev FileReader (m : Type → Type) : Type := Path → m (Except FileFault (List UInt8))

/-- Strict UTF-8 decoding. -/
def textOf? (contents : List UInt8) : Option String := String.fromUTF8? ⟨contents.toArray⟩

/-- Contents as text, or the error message. -/
def textOf (contents : Except FileFault (List UInt8)) : Except String String :=
  match contents with
  | .error fault => .error fault.message
  | .ok contents => match textOf? contents with
    | some text => .ok text
    | none => .error notText

end ShaderPreview
