import ShaderPreview.Picture.Fault
import ShaderPreview.Number.Single

/-!
# Bit fields

Colour components given by masks, scaled to eight bits; of a longer field the highest eight bits are
used.
-/

namespace ShaderPreview.Bitmap

/-- Bit field: shift and length. -/
structure Field where
  shift : Nat
  length : Nat
  deriving DecidableEq, Repr

namespace Field

def empty : Field := ⟨0, 0⟩

/-- Indices of the set bits, lowest first. -/
def places (mask : Nat) : List Nat := (List.range 32).filter mask.testBit

def ofMask (pixelBits mask : Nat) : Decoding Field :=
  match places mask with
  | [] => .ok empty
  | first :: rest =>
    let length := rest.length + 1
    if places mask ≠ List.range' first length ∨ pixelBits < first + length then .error .malformed
    else .ok ⟨first + (length - 8), min length 8⟩

def most (field : Field) : Nat := twoTo field.length - 1

def read (pixel : Nat) (field : Field) : UInt8 :=
  let value := pixel / twoTo field.shift % twoTo field.length
  ((value * 255 + field.most / 2) / field.most).toUInt8

end Field

structure Fields where
  red : Field
  green : Field
  blue : Field
  alpha : Field
  deriving DecidableEq, Repr

namespace Fields

def five : Fields := ⟨⟨10, 5⟩, ⟨5, 5⟩, ⟨0, 5⟩, .empty⟩

/-- The fields of the colour masks; each must be non-empty. -/
def ofMasks (pixelBits red green blue alpha : Nat) : Decoding Fields := do
  let red ← Field.ofMask pixelBits red
  let green ← Field.ofMask pixelBits green
  let blue ← Field.ofMask pixelBits blue
  let alpha ← Field.ofMask pixelBits alpha
  if [red, green, blue].any (·.length = 0) then throw .malformed
  return ⟨red, green, blue, alpha⟩

def colour (fields : Fields) (pixel : Nat) : List UInt8 :=
  [fields.red.read pixel, fields.green.read pixel, fields.blue.read pixel,
    if fields.alpha.length = 0 then 255 else fields.alpha.read pixel]

end Fields

end ShaderPreview.Bitmap
