import ShaderPreview.Picture.Inflate

/-!
# Portable network graphics

Decoder for PNG files: chunks with checksums (CRC-32), palette and transparency, row filters,
interlacing, and sample depths from 1 to 16 bits. Reading stops after the image data.
-/

namespace ShaderPreview.Png

def checksumBit (register : UInt32) : UInt32 :=
  if register &&& 1 = 1 then (register >>> 1) ^^^ 0xedb88320 else register >>> 1

def checksumByte (register : UInt32) (byte : UInt8) : UInt32 :=
  (List.range 8).foldl (fun register _ => checksumBit register) (register ^^^ byte.toUInt32)

def checksum (bytes : List UInt8) : UInt32 := bytes.foldl checksumByte 0xffffffff ^^^ 0xffffffff


inductive ColourType where
  | grey
  | rgb
  | indexed
  | greyAlpha
  | rgba
  deriving DecidableEq, Repr

def ColourType.sampleCount : ColourType → Nat
  | .grey | .indexed => 1
  | .greyAlpha => 2
  | .rgb => 3
  | .rgba => 4

def ColourType.ofNumber? : Nat → Option ColourType
  | 0 => some .grey
  | 2 => some .rgb
  | 3 => some .indexed
  | 4 => some .greyAlpha
  | 6 => some .rgba
  | _ => none

def ColourType.depths : ColourType → List Nat
  | .grey => [1, 2, 4, 8, 16]
  | .indexed => [1, 2, 4, 8]
  | .rgb | .greyAlpha | .rgba => [8, 16]

structure Header where
  width : Nat
  height : Nat
  depth : Nat
  colour : ColourType
  interlaced : Bool
  deriving DecidableEq, Repr

/-- State before the image data. -/
structure Preamble where
  header : Header
  palette : Option (List UInt8)
  transparency : Option (List UInt8)
  /-- Number of announced animation frames. -/
  frames : Nat
  deriving DecidableEq, Repr

def readHeader (bytes : List UInt8) : Decoding Header :=
  match bytes.drop 8 with
  | [depth, colour, method, filter, interlace] =>
    let width := bigEndian (bytes.take 4)
    let height := bigEndian ((bytes.drop 4).take 4)
    match ColourType.ofNumber? colour.toNat with
    | none => .error .malformed
    | some colour =>
      if width = 0 ∨ height = 0 ∨ depth.toNat ∉ colour.depths ∨ method ≠ 0 ∨ filter ≠ 0 ∨
          1 < interlace.toNat then
        .error .malformed
      else .ok ⟨width, height, depth.toNat, colour, interlace = 1⟩
  | _ => .error .malformed

/-! ### Chunks -/

def signature : List (List UInt8) := [[137, 80, 78, 71], [13, 10, 26, 10]]

def readSignature (source : List UInt8) : Decoding (List UInt8) :=
  signature.foldlM
    (fun source word => do
      let (found, rest) ← takeBytes word.length source
      if found = word then pure rest else throw .malformed)
    source

def chunkName (name : String) : List UInt8 := name.toList.map fun c => c.toNat.toUInt8

/-- Critical chunks have an upper-case first letter. -/
def isCritical (name : List UInt8) : Bool := ((name.headD 0).toNat / 32) % 2 = 0

def readChunkStart (source : List UInt8) : Decoding (Nat × List UInt8 × List UInt8) := do
  let (length, source) ← takeBytes 4 source
  let (name, source) ← takeBytes 4 source
  return (bigEndian length, name, source)

/-- Reads a chunk checksum; a mismatch is an error only in a critical chunk. -/
def readCheck (name contents source : List UInt8) : Decoding (Bool × List UInt8) := do
  let (check, source) ← takeBytes 4 source
  let isRight : Bool := bigEndian check = (checksum (name ++ contents)).toNat
  if isRight || !isCritical name then return (isRight, source) else throw .malformed

def maxColours : Nat := 256

def readPalette (preamble : Preamble) (contents : List UInt8) : Decoding Preamble :=
  let count := contents.length / 3
  if preamble.palette.isSome ∨ contents.length % 3 ≠ 0 ∨ count = 0 ∨ maxColours < count then
    .error .malformed
  else .ok { preamble with palette := some contents }

/-- Contents of a `tRNS` chunk: opacities of palette entries, or the transparent sample values. -/
def transparencyOf? (preamble : Preamble) (contents : List UInt8) : Option (List UInt8) :=
  let samples (size : Nat) : Option (List UInt8) :=
    if contents.length < size then none
    else if preamble.header.depth = 16 then some contents
    else some (contents.take size)
  match preamble.header.colour with
  | .grey => samples 2
  | .rgb => samples 6
  | .indexed => if preamble.palette.isSome then some contents else none
  | .greyAlpha | .rgba => none

/-- Takes over what announces a frame of an animation. The first frame is the picture itself, so
each frame that is announced before the image data covers all of it. -/
def readFrame (preamble : Preamble) (contents : List UInt8) : Decoding Preamble :=
  let field (i : Nat) : Nat := bigEndian ((contents.drop (4 * i)).take 4)
  match contents.drop 24 with
  | dispose :: blend :: _ =>
    if field 0 = preamble.frames ∧ field 1 = preamble.header.width ∧
        field 2 = preamble.header.height ∧ field 3 = 0 ∧ field 4 = 0 ∧ dispose.toNat < 3 ∧
        blend.toNat < 2 then
      .ok { preamble with frames := preamble.frames + 1 }
    else .error .malformed
  | _ => .error .malformed

/-- A chunk before the image data. A malformed or repeated `tRNS` chunk is ignored. -/
def readChunk (preamble : Option Preamble) (name contents : List UInt8) :
    Decoding (Option Preamble) :=
  match preamble with
  | none => do
    let header ← readHeader contents
    return some ⟨header, none, none, 0⟩
  | some preamble =>
    if name = chunkName "IHDR" then .error .malformed
    else if name = chunkName "PLTE" then some <$> readPalette preamble contents
    else if name = chunkName "tRNS" then
      .ok (some { preamble with
        transparency := preamble.transparency.or (transparencyOf? preamble contents) })
    else if name = chunkName "fcTL" then some <$> readFrame preamble contents
    else .ok (some preamble)

/-- Chunks up to the image data. Every chunk consumes input, so `fuel` is the number of bytes. -/
def readPreamble : Nat → Option Preamble → List UInt8 → Decoding (Preamble × Nat × List UInt8)
  | 0, _, _ => .error .cutShort
  | fuel + 1, preamble, source => do
    let (length, name, source) ← readChunkStart source
    match preamble with
    | some known =>
      if name = chunkName "IDAT" then
        return (known, length, source)
    | none =>
      if name ≠ chunkName "IHDR" then throw .malformed
    let (contents, source) ← takeBytes length source
    let (isRight, source) ← readCheck name contents source
    let preamble ← if isRight then readChunk preamble name contents else pure preamble
    if name = chunkName "IEND" then throw .malformed
    readPreamble fuel preamble source

/-- Concatenated image data, and the error that ended it, if any. -/
def readImageData : Nat → Nat → List UInt8 → List UInt8 → List UInt8 × Option DecodeFault
  | 0, _, _, data => (data, some .cutShort)
  | fuel + 1, length, source, data =>
    let data := data ++ source.take length
    let next : Decoding (Nat × List UInt8 × List UInt8) := do
      let (contents, source) ← takeBytes length source
      let (_, source) ← readCheck (chunkName "IDAT") contents source
      readChunkStart source
    match next with
    | .error fault => (data, some fault)
    | .ok (length, name, source) =>
      if name = chunkName "IDAT" then readImageData fuel length source data else (data, none)

/-! ### Filters -/

/-- Paeth predictor. -/
def nearest (left up corner : Nat) : Nat :=
  let estimate : Int := left + up - corner
  let fromLeft := (estimate - left).natAbs
  let fromUp := (estimate - up).natAbs
  let fromCorner := (estimate - corner).natAbs
  if fromLeft ≤ fromUp ∧ fromLeft ≤ fromCorner then left
  else if fromUp ≤ fromCorner then up
  else corner

def predict (filter left up corner : Nat) : Nat :=
  match filter with
  | 0 => 0
  | 1 => left
  | 2 => up
  | 3 => (left + up) / 2
  | _ => nearest left up corner

/-- Reverses the filter of a row. `stride` is the distance to the pixel on the left. -/
def restoreRow (filter stride : Nat) (above : Array UInt8) (row : List UInt8) : Array UInt8 :=
  row.foldl
    (fun restored byte =>
      let i := restored.size
      let before (bytes : Array UInt8) : Nat :=
        if stride ≤ i then (bytes.getD (i - stride) 0).toNat else 0
      let prediction := predict filter (before restored) (above.getD i 0).toNat (before above)
      restored.push (byte.toNat + prediction).toUInt8)
    #[]

def restoreRows (stride rowBytes : Nat) :
    Nat → Array UInt8 → List UInt8 → Decoding (List (Array UInt8) × List UInt8)
  | 0, _, data => .ok ([], data)
  | count + 1, above, data =>
    match data with
    | [] => .error .cutShort
    | filter :: data =>
      let row := data.take rowBytes
      if row.length < rowBytes then .error .cutShort
      else if 4 < filter.toNat then .error .malformed
      else do
        let restored := restoreRow filter.toNat stride above row
        let (rows, rest) ← restoreRows stride rowBytes count restored (data.drop rowBytes)
        return (restored :: rows, rest)

/-! ### Pixels -/

def samplesOfByte (depth : Nat) (byte : UInt8) : List Nat :=
  (List.range (8 / depth)).map fun i => byte.toNat / twoTo (8 - depth * (i + 1)) % twoTo depth

def wideSamples : List UInt8 → List Nat
  | high :: low :: rest => (256 * high.toNat + low.toNat) :: wideSamples rest
  | _ => []

def samplesOf (depth : Nat) (row : List UInt8) : List Nat :=
  match depth with
  | 16 => wideSamples row
  | 8 => row.map (·.toNat)
  | _ => row.flatMap (samplesOfByte depth)

def sampleByte (depth sample : Nat) : UInt8 :=
  match depth with
  | 16 => ((sample + 128) / 257).toUInt8
  | 8 => sample.toUInt8
  | 4 => (17 * sample).toUInt8
  | 2 => (85 * sample).toUInt8
  | _ => (255 * sample).toUInt8

def transparentSamples (preamble : Preamble) : Option (List Nat) :=
  preamble.transparency.map fun bytes =>
    if preamble.header.depth = 16 then wideSamples bytes
    else (wideSamples bytes).map (· % 256)

def opacity (preamble : Preamble) (samples : List Nat) : UInt8 :=
  if transparentSamples preamble = some samples then 0 else 255

/-- Palette lookup; a missing entry is black. The opacities are ignored if there are more of them
than colours. -/
def paletteColour (preamble : Preamble) (index : Nat) : List UInt8 :=
  let palette := preamble.palette.getD []
  let opacities := preamble.transparency.getD []
  let colour := (palette.drop (3 * index)).take 3
  let alpha := if 3 * opacities.length ≤ palette.length then opacities[index]?.getD 255 else 255
  if colour.length = 3 then colour ++ [alpha] else [0, 0, 0, 255]

def pixelOf (preamble : Preamble) (samples : List Nat) : List UInt8 :=
  let byte := sampleByte preamble.header.depth
  match preamble.header.colour, samples with
  | .grey, [value] => [byte value, byte value, byte value, opacity preamble samples]
  | .greyAlpha, [value, alpha] => [byte value, byte value, byte value, byte alpha]
  | .rgb, [red, green, blue] => [byte red, byte green, byte blue, opacity preamble samples]
  | .rgba, [red, green, blue, alpha] => [byte red, byte green, byte blue, byte alpha]
  | .indexed, [index] => paletteColour preamble index
  | _, _ => [0, 0, 0, 0]

/-- Consecutive groups of a length; an incomplete group is dropped. -/
def pieces {α : Type} (length : Nat) : Nat → List α → List (List α)
  | 0, _ => []
  | count + 1, items => items.take length :: pieces length count (items.drop length)

def pixelsOfRow (preamble : Preamble) (width : Nat) (row : Array UInt8) : List (List UInt8) :=
  let samples := samplesOf preamble.header.depth row.toList
  (pieces preamble.header.colour.sampleCount width samples).map (pixelOf preamble)

def Header.pixelBits (header : Header) : Nat := header.colour.sampleCount * header.depth

def readImage (preamble : Preamble) (width height : Nat) (data : List UInt8) :
    Decoding (List (List (List UInt8)) × List UInt8) := do
  let bits := preamble.header.pixelBits
  let (rows, rest) ←
    restoreRows (max 1 (bits / 8)) ((width * bits + 7) / 8) height #[] data
  return (rows.map (pixelsOfRow preamble width), rest)

/-! ### Interlacing -/

/-- Interlace pass: first column and row, column and row steps. -/
structure Pass where
  column : Nat
  row : Nat
  columnStep : Nat
  rowStep : Nat

def passes : List Pass :=
  [⟨0, 0, 8, 8⟩, ⟨4, 0, 8, 8⟩, ⟨0, 4, 4, 8⟩, ⟨2, 0, 4, 4⟩, ⟨0, 2, 2, 4⟩, ⟨1, 0, 2, 2⟩, ⟨0, 1, 1, 2⟩]

/-- Number of `first + k * step` below a bound. -/
def placeCount (first step bound : Nat) : Nat := (bound - first + step - 1) / step

def scatter (width : Nat) (pass : Pass) (rows : List (List (List UInt8)))
    (pixels : Array (List UInt8)) : Array (List UInt8) :=
  rows.zipIdx.foldl
    (fun pixels (row, y) =>
      row.zipIdx.foldl
        (fun pixels (pixel, x) =>
          pixels.setIfInBounds
            ((pass.row + y * pass.rowStep) * width + (pass.column + x * pass.columnStep)) pixel)
        pixels)
    pixels

def readInterlaced (preamble : Preamble) (data : List UInt8) : Decoding (List (List UInt8)) := do
  let header := preamble.header
  let blank := Array.replicate (header.width * header.height) [0, 0, 0, 0]
  let (pixels, _) ← passes.foldlM
    (fun (pixels, data) pass => do
      let width := placeCount pass.column pass.columnStep header.width
      let height := placeCount pass.row pass.rowStep header.height
      if width = 0 ∨ height = 0 then return (pixels, data)
      let (rows, data) ← readImage preamble width height data
      return (scatter header.width pass rows pixels, data))
    (blank, data)
  return pixels.toList

/-! ### Pictures -/

/-- Bytes per decoded pixel. -/
def Preamble.pixelBytes (preamble : Preamble) : Nat :=
  let alpha := if preamble.transparency.isSome then 1 else 0
  match preamble.header.colour with
  | .indexed => 3 + alpha
  | .grey | .rgb =>
    (preamble.header.colour.sampleCount + alpha) * ((preamble.header.depth + 7) / 8)
  | .greyAlpha | .rgba => preamble.header.pixelBits / 8

def decode (source : List UInt8) : Decoding (Nat × Nat × List UInt8) := do
  let chunks ← readSignature source
  let (preamble, length, rest) ← readPreamble chunks.length none chunks
  let header := preamble.header
  if maxPictureBytes < header.width * header.height * preamble.pixelBytes then throw .tooLarge
  if header.colour = .indexed ∧ preamble.palette.isNone then throw .malformed
  let (packed, fault) := readImageData rest.length length rest []
  let (data, flaw) := Inflate.inflate packed
  if flaw = some .malformed then throw .malformed
  let pixels : Decoding (List (List UInt8)) :=
    if header.interlaced then readInterlaced preamble data.toList
    else do
      let (rows, _) ← readImage preamble header.width header.height data.toList
      return rows.flatten
  match pixels, fault with
  | .ok pixels, none => return (header.width, header.height, pixels.flatten)
  | .error .cutShort, some fault | .ok _, some fault => throw fault
  | .error _, _ => throw .malformed

end ShaderPreview.Png
