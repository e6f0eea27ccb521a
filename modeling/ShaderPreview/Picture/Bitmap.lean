import ShaderPreview.Picture.Bitmap.Header
import ShaderPreview.Picture.Bitmap.Runs

/-!
# Bitmaps

Decoder for BMP files. Uncompressed rows are padded to 32-bit words. Rows are stored bottom-up
unless the height is negative. Pixels are opaque without an alpha field.
-/

namespace ShaderPreview.Bitmap

def indicesOfByte (bits : Nat) (byte : UInt8) : List Nat :=
  (List.range (8 / bits)).map fun i => byte.toNat / twoTo (8 - bits * (i + 1)) % twoTo bits

/-- Palette lookup; a missing entry is black. -/
def paletteColour (palette : List (List UInt8)) (index : Option Nat) : List UInt8 :=
  (index.bind (palette[·]?)).getD [0, 0, 0] ++ [255]

def pixelBytes (bytes : Nat) : Nat → List UInt8 → List (List UInt8)
  | 0, _ => []
  | count + 1, row => row.take bytes :: pixelBytes bytes count (row.drop bytes)

def byteColour : List UInt8 → List UInt8
  | blue :: green :: red :: _ => [red, green, blue, 255]
  | _ => [0, 0, 0, 255]

def pixelsOfRow (header : Header) (row : List UInt8) : List (List UInt8) :=
  match header.layout with
  | .palette bits | .runs bits => ((row.flatMap (indicesOfByte bits)).take header.width).map
      fun index => paletteColour header.palette (some index)
  | .fields bytes fields =>
    (pixelBytes bytes header.width row).map fun pixel => fields.colour (littleEndian pixel)
  | .blueGreenRed bytes => (pixelBytes bytes header.width row).map byteColour

def readRows (rowBytes : Nat) : Nat → List UInt8 → Decoding (List (List UInt8))
  | 0, _ => .ok []
  | count + 1, source => do
    let (row, source) ← takeBytes rowBytes source
    let rows ← readRows rowBytes count source
    return row :: rows

/-- Pixels in file order. -/
def readPixels (header : Header) (source : List UInt8) : Decoding (List (List (List UInt8))) :=
  match header.layout with
  | .runs bits => do
    let rows ← indexRows bits header.width header.height source
    return rows.map (·.map (paletteColour header.palette))
  | layout => do
    let rowBytes := (header.width * layout.bits + 31) / 32 * 4
    return (← readRows rowBytes header.height source).map (pixelsOfRow header)

def decode (file : List UInt8) : Decoding (Nat × Nat × List UInt8) := do
  let header ← readHeader file
  if maxPictureBytes < header.width * header.height * header.layout.pixelBytes then throw .tooLarge
  let rows ← readPixels header (file.drop header.pixelStart)
  let rows := if header.topDown then rows else rows.reverse
  return (header.width, header.height, rows.flatten.flatten)

end ShaderPreview.Bitmap
