import ShaderPreview.Number.Double

/-!
# Rounding

Rounding to integers and to narrower formats, to nearest with ties to even, and fused multiply-add.
-/

namespace ShaderPreview.Rounding

def magnitudeToInteger (x : Float) : Float :=
  let low := x.floor
  let part := x - low
  if part < 0.5 then low
  else if 0.5 < part then low + 1
  else if (low / 2).floor * 2 == low then low else low + 1

def toInteger (x : Float) : Float :=
  if x < 0 then -(magnitudeToInteger (-x)) else if x == 0 then x else magnitudeToInteger x

def toSingle (x : Float) : Float := x.toFloat32.toFloat

/-- Overflow threshold of binary16. -/
def halfBound : Float := 65520

/-- Rounds to binary16: eleven significant bits, minimal exponent -24. -/
def toHalf (x : Float) : Float :=
  if !x.isFinite || x == 0 then x
  else if halfBound ≤ x.abs then (if x < 0 then -(1 / 0) else 1 / 0)
  else
    let lowest := max (x.frExp.2 - 11) (-24)
    (toInteger (x.scaleB (-lowest))).scaleB lowest

/-- A finite number as integer times power of two. -/
def parts (x : Float) : Int × Int :=
  let (fraction, exponent) := x.frExp
  let mantissa : Int := (fraction.abs.scaleB 53).toUInt64.toNat
  (if x < 0 then -mantissa else mantissa, exponent - 53)

/-- Fused multiply-add. -/
def fused (single : Bool) (x y z : Float) : Float :=
  if !x.isFinite || !y.isFinite || !z.isFinite then x * y + z
  else
    let (xMantissa, xExponent) := parts x
    let (yMantissa, yExponent) := parts y
    let (zMantissa, zExponent) := parts z
    let lowest := min (xExponent + yExponent) zExponent
    let sum := xMantissa * yMantissa * twoTo (xExponent + yExponent - lowest).toNat +
      zMantissa * twoTo (zExponent - lowest).toNat
    if sum = 0 then (if x * y + z == 0 then x * y + z else 0)
    else
      let num := sum.natAbs * twoTo lowest.toNat
      let den := twoTo (-lowest).toNat
      if single then (Float32.ofBits (Single.ofRatio (sum < 0) num den).bits).toFloat
      else Float.ofBits (Double.ofRatio (sum < 0) num den).bits

end ShaderPreview.Rounding
