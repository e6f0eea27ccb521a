import ShaderPreview.Picture.Bitmap.Field

/-!
# Bitmap headers

File header, one of several information headers, optional field masks and palette.
-/

namespace ShaderPreview.Bitmap

/-- Pixel encoding. -/
inductive Layout where
  | palette (bits : Nat)
  /-- Run-length encoded palette indices. -/
  | runs (bits : Nat)
  | fields (bytes : Nat) (fields : Fields)
  | blueGreenRed (bytes : Nat)
  deriving DecidableEq, Repr

def Layout.bits : Layout → Nat
  | .palette bits | .runs bits => bits
  | .fields bytes _ | .blueGreenRed bytes => 8 * bytes

/-- Bytes per decoded pixel. -/
def Layout.pixelBytes : Layout → Nat
  | .fields _ parts => if parts.alpha.length = 0 then 3 else 4
  | _ => 3

structure Header where
  width : Nat
  height : Nat
  topDown : Bool
  layout : Layout
  palette : List (List UInt8)
  /-- File offset of the pixel data. -/
  pixelStart : Nat
  deriving DecidableEq, Repr

def maxSide : Int := 65535

def signed (pattern : Nat) : Int :=
  if pattern < 2147483648 then pattern else (pattern : Int) - 4294967296

def readNumber (size : Nat) (source : List UInt8) : Decoding (Nat × List UInt8) := do
  let (bytes, rest) ← takeBytes size source
  return (littleEndian bytes, rest)

def shortHeader : Nat := 12

def longHeaders : List Nat := [40, 52, 56, 108, 124]

/-- Header sizes with an alpha mask. -/
def alphaHeaders : List Nat := [56, 108, 124]

/-! ### Palettes -/

/-- Palette entries in the order blue, green, red, filler. -/
def colours (entryBytes : Nat) : Nat → List UInt8 → List (List UInt8)
  | 0, _ => []
  | count + 1, entries =>
    (entries.take 3).reverse :: colours entryBytes count (entries.drop entryBytes)

/-- Palette for a bit depth; a count of zero means the maximum. -/
def readPalette (entryBytes bits count : Nat) (source : List UInt8) :
    Decoding (List (List UInt8)) := do
  if twoTo bits < count then throw .malformed
  let count := if count = 0 then twoTo bits else count
  let (entries, _) ← takeBytes (entryBytes * count) source
  return colours entryBytes count entries

def readColours (entryBytes count : Nat) (source : List UInt8) :
    Layout → Decoding (List (List UInt8))
  | .palette bits | .runs bits => readPalette entryBytes bits count source
  | .fields .. | .blueGreenRed _ => .ok []

/-! ### Information headers -/

def refuseEmpty (width height : Nat) : Decoding Unit :=
  if width = 0 ∨ height = 0 then .error .unsupported else .ok ()

/-- Number of planes (always 1) and bits per pixel. -/
def readBits (source : List UInt8) : Decoding (Nat × List UInt8) := do
  let (planes, source) ← readNumber 2 source
  if planes ≠ 1 then throw .malformed
  readNumber 2 source

def readShort (file source : List UInt8) (pixelStart : Nat) : Decoding Header := do
  let (width, source) ← readNumber 2 source
  let (height, source) ← readNumber 2 source
  refuseEmpty width height
  let (bits, _) ← readBits source
  let layout ←
    if bits ∈ [1, 4, 8] then pure (.palette bits)
    else if bits = 24 then pure (.blueGreenRed 3)
    else throw .malformed
  let palette ← readColours 3 0 (file.drop (14 + shortHeader)) layout
  return ⟨width, height, false, layout, palette, pixelStart⟩

/-- Layout of a compression method and bit depth; `none` if masks follow. -/
def layoutOf (compression bits : Nat) : Decoding (Option Layout) :=
  match compression with
  | 0 =>
    if bits ∈ [1, 2, 4, 8] then .ok (some (.palette bits))
    else if bits = 16 then .ok (some (.fields 2 .five))
    else if bits = 24 then .ok (some (.blueGreenRed 3))
    else if bits = 32 then .ok (some (.blueGreenRed 4))
    else .error .malformed
  | 1 => if bits = 8 then .ok (some (.runs 8)) else .error .malformed
  | 2 => if bits = 4 then .ok (some (.runs 4)) else .error .malformed
  | 3 => if bits = 16 ∨ bits = 32 then .ok none else .error .malformed
  | 4 | 5 | 11 | 12 | 13 => .error .unsupported
  | _ => .error .malformed

def readFields (size bits : Nat) (source : List UInt8) : Decoding Fields := do
  let (red, source) ← readNumber 4 source
  let (green, source) ← readNumber 4 source
  let (blue, source) ← readNumber 4 source
  let (alpha, _) ← if size ∈ alphaHeaders then readNumber 4 source else pure (0, source)
  Fields.ofMasks bits red green blue alpha

/-- Width, height, and whether the rows are stored top-down. -/
def readSides (source : List UInt8) : Decoding ((Nat × Nat × Bool) × List UInt8) := do
  let (width, source) ← readNumber 4 source
  let (height, source) ← readNumber 4 source
  let width := signed width
  let height := signed height
  if width < 0 ∨ maxSide < width ∨ maxSide < height ∨ height = -2147483648 then throw .malformed
  refuseEmpty width.toNat height.natAbs
  return ((width.toNat, height.natAbs, height < 0), source)

def readLong (size : Nat) (file source : List UInt8) (pixelStart : Nat) : Decoding Header := do
  let ((width, height, topDown), source) ← readSides source
  let (bits, source) ← readBits source
  let (compression, source) ← readNumber 4 source
  if topDown ∧ compression ≠ 0 ∧ compression ≠ 3 then throw .malformed
  let layout ← layoutOf compression bits
  let (_, source) ← takeBytes 12 source
  let (colourCount, source) ← readNumber 4 source
  let (_, source) ← takeBytes 4 source
  let layout ← match layout with
    | some layout => pure layout
    | none => Layout.fields (bits / 8) <$> readFields size bits source
  let palette ← readColours 4 colourCount (file.drop (14 + size)) layout
  return ⟨width, height, topDown, layout, palette, pixelStart⟩

def readHeader (file : List UInt8) : Decoding Header := do
  let (name, source) ← takeBytes 2 file
  if name ≠ [66, 77] then throw .malformed
  let (_, source) ← takeBytes 8 source
  let (pixelStart, source) ← readNumber 4 source
  let (size, source) ← readNumber 4 source
  if size < shortHeader then throw .malformed
  else if size = shortHeader then readShort file source pixelStart
  else if size ∈ longHeaders then readLong size file source pixelStart
  else throw .unsupported

end ShaderPreview.Bitmap
