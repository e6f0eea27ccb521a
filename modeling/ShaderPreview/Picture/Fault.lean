import ShaderPreview.Files.Fault

/-!
# Picture errors

Errors of the picture decoders; truncated files are told apart from malformed ones.
-/

namespace ShaderPreview

/-- Formats, selected by the file extension. -/
inductive PictureFormat where
  | png
  | jpeg
  | gif
  | bitmap
  deriving DecidableEq, Repr

def PictureFormat.label : PictureFormat → String
  | .png => "Png"
  | .jpeg => "Jpeg"
  | .gif => "Gif"
  | .bitmap => "Bmp"

inductive DecodeFault where
  | cutShort
  | malformed
  | tooLarge
  | unsupported
  deriving DecidableEq, Repr

inductive PictureFault where
  | file (fault : FileFault)
  | unknownFormat
  | decode (format : PictureFormat) (fault : DecodeFault)
  | otherwise (reason : String)
  deriving DecidableEq, Repr

def PictureFault.message : PictureFault → String
  | .file fault => fault.message
  | .unknownFormat => "The image format could not be determined"
  | .decode _ .cutShort => "unexpected end of file"
  | .decode format .malformed => s!"Format error decoding {format.label}"
  | .decode _ .tooLarge => "Memory limit exceeded"
  | .decode format .unsupported => s!"The decoder for {format.label} does not support the feature"
  | .otherwise reason => reason

abbrev Decoding (α : Type) : Type := Except DecodeFault α

/-- Limit on the size of the decoded picture. -/
def maxPictureBytes : Nat := 536870912

def takeBytes (count : Nat) (source : List UInt8) : Decoding (List UInt8 × List UInt8) :=
  let taken := source.take count
  if taken.length = count then .ok (taken, source.drop count) else .error .cutShort

def bigEndian (bytes : List UInt8) : Nat :=
  bytes.foldl (fun value byte => 256 * value + byte.toNat) 0

def littleEndian (bytes : List UInt8) : Nat := bigEndian bytes.reverse

end ShaderPreview
