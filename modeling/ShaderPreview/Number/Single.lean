/-!
# Single precision numbers

IEEE 754 binary32 numbers as bit patterns. Operations are exact on ratios of natural numbers and
round once, to nearest with ties to even.
-/

namespace ShaderPreview

def twoTo (n : Nat) : Nat := Nat.pow 2 n

def tenTo (n : Nat) : Nat := Nat.pow 10 n

/-- binary32 bit pattern. -/
structure Single where
  bits : UInt32
  deriving DecidableEq, Repr, Inhabited

namespace Single

def infinityBits : Nat := 0x7f800000
def fractionSize : Nat := 0x800000

def ofMagnitude (negative : Bool) (magnitude : Nat) : Single :=
  ⟨(if negative then 0x80000000 + magnitude else magnitude).toUInt32⟩

def zero : Single := ⟨0⟩
def one : Single := ⟨0x3f800000⟩
def infinity : Single := ⟨0x7f800000⟩

def nan : Single := ⟨0x7fc00000⟩

/-- NaN of an invalid operation. -/
def invalid : Single := ⟨0xffc00000⟩

def isNegative (x : Single) : Bool := x.bits ≥ 0x80000000

def magnitude (x : Single) : Nat := x.bits.toNat % 0x80000000

def isNan (x : Single) : Bool := infinityBits < x.magnitude
def isInfinite (x : Single) : Bool := x.magnitude == infinityBits
def isZero (x : Single) : Bool := x.magnitude == 0

def negate (x : Single) : Single := ofMagnitude (!x.isNegative) x.magnitude

/-- Nearest integer to `num / den`, ties to even. -/
def roundedQuotient (num den : Nat) : Nat :=
  let quotient := num / den
  let twice := 2 * (num % den)
  if twice < den then quotient
  else if den < twice then quotient + 1
  else quotient + quotient % 2

/-- Greatest `e` with `2 ^ e ≤ num / den`. -/
def binaryExponent (num den : Nat) : Int :=
  let guess := (num.log2 : Int) - den.log2
  let fits := if 0 ≤ guess then den * twoTo guess.toNat ≤ num else den ≤ num * twoTo (-guess).toNat
  if fits then guess else guess - 1

/-- Nearest number to `num / den`, ties to even; overflow gives infinity. -/
def ofRatio (negative : Bool) (num den : Nat) : Single :=
  if num = 0 ∨ den = 0 then ofMagnitude negative 0
  else
    let exponent := max (binaryExponent num den) (-126)
    let shift := exponent - 23
    let steps :=
      if 0 ≤ shift then roundedQuotient num (den * twoTo shift.toNat)
      else roundedQuotient (num * twoTo (-shift).toNat) den
    ofMagnitude negative (min infinityBits ((exponent + 126).toNat * fractionSize + steps))

def ofNat (n : Nat) : Single := ofRatio false n 1

/-- Exact magnitude of a finite number. -/
def ratio (x : Single) : Nat × Nat :=
  let exponent := x.magnitude / fractionSize
  let fraction := x.magnitude % fractionSize
  let steps := if exponent = 0 then fraction else fraction + fractionSize
  let scale := max exponent 1
  if 150 ≤ scale then (steps * twoTo (scale - 150), 1) else (steps, twoTo (150 - scale))

def addPositive (x y : Single) : Single :=
  let (a, b) := x.ratio
  let (c, d) := y.ratio
  ofRatio false (a * d + c * b) (b * d)

def divide (x y : Single) : Single :=
  let negative := x.isNegative != y.isNegative
  if x.isNan then x
  else if y.isNan then y
  else if x.isInfinite then
    if y.isInfinite then invalid else ofMagnitude negative infinityBits
  else if y.isInfinite then ofMagnitude negative 0
  else
    let (a, b) := x.ratio
    let (c, d) := y.ratio
    ofRatio negative (a * d) (b * c)

/-- Rounds a binary64 bit pattern. -/
def ofDouble (bits : UInt64) : Single :=
  let negative := bits ≥ 0x8000000000000000
  let magnitude := bits.toNat % 0x8000000000000000
  let exponent := magnitude / 0x10000000000000
  let fraction := magnitude % 0x10000000000000
  if exponent = 2047 then
    if fraction = 0 then ofMagnitude negative infinityBits
    else ofMagnitude negative (0x7fc00000 + fraction / 0x20000000 % 0x400000)
  else
    let steps := if exponent = 0 then fraction else fraction + 0x10000000000000
    let scale := max exponent 1
    if 1075 ≤ scale then ofRatio negative (steps * twoTo (scale - 1075)) 1
    else ofRatio negative steps (twoTo (1075 - scale))

/-- Little-endian bytes. -/
def bytes (x : Single) : List UInt8 :=
  [x.bits.toUInt8, (x.bits >>> 8).toUInt8, (x.bits >>> 16).toUInt8, (x.bits >>> 24).toUInt8]

end Single

/-- Duration in seconds. Whole seconds and the fraction are rounded separately before they are
added. -/
def secondsOf (nanoseconds : Nat) : Single :=
  let whole := Single.ofNat (nanoseconds / 1000000000)
  let (num, den) := (Single.ofNat (nanoseconds % 1000000000)).ratio
  whole.addPositive (Single.ofRatio false num (den * 1000000000))

end ShaderPreview
