import ShaderPreview.Picture.Bitmap
import ShaderPreview.Picture.Png
import ShaderPreview.Scene.Channel
import ShaderPreview.Text.Character

/-!
# Loading channel images

Loads the image of a channel. The format follows from the file extension; a missing file is reported
before an unknown format. Known formats without a decoder in this project are rejected as malformed.
The decoder is a parameter.
-/

namespace ShaderPreview

def PictureFormat.ofExtension? (extension : List Char) : Option PictureFormat :=
  let name := extension.map Text.lowerAscii
  if name = "png".toList then some .png
  else if name = "jpg".toList ∨ name = "jpeg".toList then some .jpeg
  else if name = "gif".toList then some .gif
  else if name = "bmp".toList then some .bitmap
  else none

def PictureFormat.ofPath? (path : Path) : Option PictureFormat :=
  path.extension?.bind ofExtension?

def gifStart : Nat := 7

/-- Width, height and RGBA pixels. -/
def PictureFormat.decode (format : PictureFormat) (contents : List UInt8) :
    Decoding (Nat × Nat × List UInt8) :=
  match format with
  | .png => Png.decode contents
  | .bitmap => Bitmap.decode contents
  | .jpeg => .error .malformed
  | .gif => .error (if contents.length < gifStart then .cutShort else .malformed)

/-- Picture reader: from the path, which selects the format, and the contents of a file to width,
height and RGBA pixels. -/
abbrev PictureReader : Type :=
  Path → Except FileFault (List UInt8) → Except PictureFault (Nat × Nat × List UInt8)

def decodePicture : PictureReader := fun path contents =>
  match contents, PictureFormat.ofPath? path with
  | .error .folder, none => .error .unknownFormat
  | .error fault, _ => .error (.file fault)
  | .ok _, none => .error .unknownFormat
  | .ok contents, some format => (format.decode contents).mapError (.decode format)

inductive TextureFault where
  | picture (path : Path) (fault : PictureFault)
  | image (fault : ChannelFault)
  deriving DecidableEq, Repr

def TextureFault.failure : TextureFault → Failure
  | .picture path fault =>
    (Failure.of fault.message).because s!"failed to open texture at {path.text}"
  | .image fault => fault.failure

def loadChannelImage {m : Type → Type} [Monad m] (picture : PictureReader) (read : FileReader m)
    (path : Path) : m (Except TextureFault ChannelImage) := do
  match picture path (← read path) with
  | .error fault => return .error (.picture path fault)
  | .ok (width, height, pixels) =>
    return (ChannelImage.of width height pixels).mapError .image

end ShaderPreview
