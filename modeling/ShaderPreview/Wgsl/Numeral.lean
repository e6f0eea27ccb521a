import ShaderPreview.Number.Reading
import ShaderPreview.Number.Rounding
import ShaderPreview.Wgsl.Scalar

/-!
# Numeric literals

Decimal and hexadecimal integers and floating point numbers with an optional type suffix; without
one the literal is abstract. Decimal integers have no leading zeros. A value outside the range of
its type is an error. A hexadecimal floating point literal must be exact, with a mantissa of 64 bits
and in its type; there are none of half precision.
-/

namespace ShaderPreview.Wgsl

open Text

inductive Literal where
  | bool (value : Bool)
  | int (scalar : Scalar) (value : Int)
  | float (scalar : Scalar) (value : Float)
  deriving Inhabited

def Literal.scalar : Literal → Scalar
  | .bool _ => .bool
  | .int scalar _ => scalar
  | .float scalar _ => scalar

inductive NumeralFault where
  | form
  | range
  deriving DecidableEq, Repr

def NumeralFault.message : NumeralFault → String
  | .form => "invalid numeric literal format"
  | .range => "numeric literal not representable by target type"

def Scalar.holds (scalar : Scalar) (value : Int) : Bool :=
  match scalar.kind with
  | .uint => 0 ≤ value && value < twoTo (8 * scalar.width)
  | _ => -(twoTo (8 * scalar.width - 1) : Int) ≤ value && value < twoTo (8 * scalar.width - 1)

namespace Numeral

abbrev Reading := Except NumeralFault Literal

def hexValue? (c : Char) : Option Nat :=
  if '0' ≤ c ∧ c ≤ '9' then some (c.toNat - '0'.toNat)
  else if 'a' ≤ c ∧ c ≤ 'f' then some (c.toNat - 'a'.toNat + 10)
  else if 'A' ≤ c ∧ c ≤ 'F' then some (c.toNat - 'A'.toNat + 10)
  else none

def spanHex (text : List Char) : List Char × List Char := text.span fun c => (hexValue? c).isSome

def hexNumber (digits : List Char) : Nat :=
  digits.foldl (fun value c => 16 * value + (hexValue? c).getD 0) 0

def mantissaSize : Nat := 64

def withDigit? (mantissa : Nat) (c : Char) : Option Nat :=
  if twoTo (mantissaSize - 4) ≤ mantissa then none
  else some (16 * mantissa + (hexValue? c).getD 0)

/-- The mantissa with the digits after the point, and the number of digits taken. Zeros are taken
only together with a digit that follows them; all of them have to fit. -/
def withFraction? (mantissa taken zeros : Nat) : List Char → Option (Nat × Nat)
  | [] => some (mantissa, taken)
  | c :: digits =>
    let digit := (hexValue? c).getD 0
    let fresh := zeros + 1
    if digit = 0 then withFraction? mantissa taken fresh digits
    else if mantissa = 0 then withFraction? digit (taken + fresh) 0 digits
    else if 16 ≤ fresh ∨ twoTo (mantissaSize - 4 * fresh) ≤ mantissa then none
    else withFraction? (mantissa * twoTo (4 * fresh) + digit) (taken + fresh) 0 digits

/-- The mantissa of a hexadecimal floating point number, and the number of digits after the point
that are part of it. -/
def hexMantissa? (whole part : List Char) : Option (Nat × Nat) := do
  withFraction? (← whole.foldlM withDigit? 0) 0 0 part

def decimalNumber (digits : List Char) : Nat := (digitsFrom? 0 digits).getD 0

def integerSuffix : List Char → Option Scalar × List Char
  | 'i' :: rest => (some .i32, rest)
  | 'u' :: rest => (some .u32, rest)
  | 'l' :: 'i' :: rest => (some .i64, rest)
  | 'l' :: 'u' :: rest => (some .u64, rest)
  | rest => (none, rest)

def floatSuffix : List Char → Option Scalar × List Char
  | 'h' :: rest => (some .f16, rest)
  | 'f' :: rest => (some .f32, rest)
  | 'l' :: 'f' :: rest => (some .f64, rest)
  | rest => (none, rest)

def integer (scalar : Option Scalar) (value : Nat) : Reading :=
  let scalar := scalar.getD .abstractInt
  if scalar.holds value then .ok (.int scalar value) else .error .range

def ofSingle (x : Single) : Float := (Float32.ofBits x.bits).toFloat

/-- `mantissa * 10 ^ power`; extreme powers are truncated to the range of the format. -/
def doubleOf (mantissa digitCount : Nat) (power : Int) : Float :=
  if mantissa = 0 then 0
  else if 400 < power then 1 / 0
  else if power + digitCount < -400 then 0
  else Float.ofScientific mantissa (power < 0) power.natAbs

def decimalFloat (scalar : Option Scalar) (mantissa digitCount : Nat) (power : Int) : Reading :=
  let scalar := scalar.getD .abstractFloat
  let value :=
    if scalar.width = 8 then doubleOf mantissa digitCount power
    else ofSingle (Single.ofDecimal false mantissa digitCount power)
  let value := if scalar = .f16 then Rounding.toHalf value else value
  if value.isFinite then .ok (.float scalar value) else .error .range

/-- Odd part and power of two of a mantissa. -/
def oddPart (mantissa : Nat) : Nat → Nat × Nat
  | 0 => (mantissa, 0)
  | fuel + 1 =>
    if mantissa = 0 ∨ mantissa % 2 = 1 then (mantissa, 0)
    else
      let (odd, twos) := oddPart (mantissa / 2) fuel
      (odd, twos + 1)

/-- `mantissa * 2 ^ power`, which must be representable. -/
def exactFloat (scalar : Option Scalar) (mantissa : Nat) (power : Int) : Reading :=
  let scalar := scalar.getD .abstractFloat
  let (odd, twos) := oddPart mantissa (mantissa.log2 + 1)
  let power := power + twos
  let (precision, least, greatest) : Nat × Int × Int :=
    if scalar.width = 8 then (53, -1074, 1024) else (24, -149, 128)
  if odd = 0 then .ok (.float scalar 0)
  else if odd < twoTo precision ∧ least ≤ power ∧ power + odd.log2 < greatest then
    .ok (.float scalar ((Float.ofNat odd).scaleB power))
  else .error .range

def hexFloat (whole part : List Char) (scalar : Option Scalar) (power : Int) : Reading :=
  match hexMantissa? whole part with
  | some (mantissa, taken) =>
    if scalar = some .f16 then .error .range else exactFloat scalar mantissa (power - 4 * taken)
  | none => .error .range

def exponent? (text : List Char) : Option (Int × List Char) :=
  let (negative, unsigned) := Single.takeSign text
  let (digits, rest) := Single.spanDigits unsigned
  if digits.isEmpty then none
  else
    let value : Int := decimalNumber digits
    some (if negative then -value else value, rest)

def afterSign (text : List Char) : List Char := (Single.takeSign text).2

/-- Exponent and suffix of a floating point literal. -/
def withExponent (letters : List Char) (text : List Char)
    (finish : Option Scalar → Int → Reading) : Reading × List Char :=
  match text with
  | c :: rest =>
    if letters.contains c then
      match exponent? rest with
      | some (power, rest) =>
        let (suffix, rest) := floatSuffix rest
        (finish suffix power, rest)
      | none => (.error .form, afterSign rest)
    else
      let (suffix, rest) := floatSuffix text
      (finish suffix 0, rest)
  | [] => (finish none 0, [])

def readHex (text : List Char) : Reading × List Char :=
  let (whole, rest) := spanHex text
  match rest with
  | '.' :: after =>
    let (part, tail) := spanHex after
    if whole.isEmpty && part.isEmpty then (.error .form, tail)
    else match tail with
      | 'p' :: _ | 'P' :: _ => withExponent ['p', 'P'] tail (hexFloat whole part)
      | _ => (hexFloat whole part none 0, tail)
  | _ =>
    if whole.isEmpty then (.error .form, rest)
    else match rest with
      | 'p' :: _ | 'P' :: _ => withExponent ['p', 'P'] rest (hexFloat whole [])
      | _ =>
        let (suffix, rest) := integerSuffix rest
        (integer suffix (hexNumber whole), rest)

/-- Decimal integer, or a floating point literal that has only a suffix. -/
def readWhole (digits rest : List Char) : Reading × List Char :=
  if 1 < digits.length && digits.head? == some '0' then (.error .form, rest)
  else match integerSuffix rest with
    | (some scalar, rest) => (integer (some scalar) (decimalNumber digits), rest)
    | (none, _) => match floatSuffix rest with
      | (some scalar, rest) =>
        (decimalFloat (some scalar) (decimalNumber digits) digits.length 0, rest)
      | (none, _) => (integer none (decimalNumber digits), rest)

def readDecimal (text : List Char) : Reading × List Char :=
  let (whole, rest) := Single.spanDigits text
  let finish (part : List Char) (suffix : Option Scalar) (power : Int) : Reading :=
    decimalFloat suffix (decimalNumber (whole ++ part)) (whole ++ part).length
      (power - part.length)
  match rest with
  | '.' :: after =>
    let (part, tail) := Single.spanDigits after
    if whole.isEmpty && part.isEmpty then (.error .form, tail)
    else withExponent ['e', 'E'] tail (finish part)
  | c :: _ =>
    if c = 'e' ∨ c = 'E' then withExponent ['e', 'E'] rest (finish [])
    else readWhole whole rest
  | [] => readWhole whole []

def read (text : List Char) : Reading × List Char :=
  match text with
  | '0' :: 'x' :: rest | '0' :: 'X' :: rest => readHex rest
  | _ => readDecimal text

end Numeral

end ShaderPreview.Wgsl
