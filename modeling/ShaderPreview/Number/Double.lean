import ShaderPreview.Number.Single

/-!
# Double precision numbers

IEEE 754 binary64 numbers as bit patterns, with shortest decimal output: the fewest digits that read
back as the number, and the closest of those.
-/

namespace ShaderPreview

/-- binary64 bit pattern. -/
structure Double where
  bits : UInt64
  deriving DecidableEq, Repr, Inhabited

namespace Double

def fractionSize : Nat := 0x10000000000000
def infinityBits : Nat := 0x7ff0000000000000

def ofMagnitude (negative : Bool) (magnitude : Nat) : Double :=
  ⟨(if negative then 0x8000000000000000 + magnitude else magnitude).toUInt64⟩

def infinity : Double := ⟨0x7ff0000000000000⟩
def nan : Double := ⟨0x7ff8000000000000⟩

def isNegative (x : Double) : Bool := x.bits ≥ 0x8000000000000000

def magnitude (x : Double) : Nat := x.bits.toNat % 0x8000000000000000

def negate (x : Double) : Double := ofMagnitude (!x.isNegative) x.magnitude

/-- Nearest number to `num / den`, ties to even; overflow gives infinity. -/
def ofRatio (negative : Bool) (num den : Nat) : Double :=
  if num = 0 ∨ den = 0 then ofMagnitude negative 0
  else
    let exponent := max (Single.binaryExponent num den) (-1022)
    let shift := exponent - 52
    let steps :=
      if 0 ≤ shift then Single.roundedQuotient num (den * twoTo shift.toNat)
      else Single.roundedQuotient (num * twoTo (-shift).toNat) den
    ofMagnitude negative (min infinityBits ((exponent + 1022).toNat * fractionSize + steps))

/-- Nearest number to `mantissa * 10 ^ power`; extreme powers are truncated to keep the computation
small. -/
def ofDecimal (negative : Bool) (mantissa digitCount : Nat) (power : Int) : Double :=
  if mantissa = 0 then ofMagnitude negative 0
  else if 400 < power then ofMagnitude negative infinityBits
  else if power + digitCount < -400 then ofMagnitude negative 0
  else if 0 ≤ power then ofRatio negative (mantissa * tenTo power.toNat) 1
  else ofRatio negative mantissa (tenTo (-power).toNat)

/-! ### Shortest texts -/

/-- The magnitudes that read back as a number, in quarters of the distance to its neighbour: the
least, the number itself, and the greatest. The quarter is the ratio `num / den`; the ends belong to
the range when `closed` holds. -/
structure ReadBack where
  least : Nat
  exact : Nat
  greatest : Nat
  num : Nat
  den : Nat
  closed : Bool

def readBack (x : Double) : ReadBack :=
  let exponent := x.magnitude / fractionSize
  let fraction := x.magnitude % fractionSize
  let steps := if exponent = 0 then fraction else fraction + fractionSize
  let scale := max exponent 1
  -- At a power of two the neighbour below is half as far away.
  let below := if fraction = 0 ∧ 1 < exponent then 1 else 2
  { least := 4 * steps - below
    exact := 4 * steps
    greatest := 4 * steps + 2
    num := twoTo (scale - 1077)
    den := twoTo (1077 - scale)
    closed := steps % 2 = 0 }

/-- The magnitude `digits * 10 ^ power` in quarters, times a common denominator, and the factor that
brings quarters to it. -/
def scaled (range : ReadBack) (digits : Nat) (power : Int) : Nat × Nat :=
  (digits * tenTo power.toNat * range.den, range.num * tenTo (-power).toNat)

def ReadBack.holds (range : ReadBack) (digits : Nat) (power : Int) : Bool :=
  let (value, unit) := scaled range digits power
  if range.closed then range.least * unit ≤ value && value ≤ range.greatest * unit
  else range.least * unit < value && value < range.greatest * unit

def ReadBack.distance (range : ReadBack) (digits : Nat) (power : Int) : Nat :=
  let (value, unit) := scaled range digits power
  ((value : Int) - range.exact * unit).natAbs

def decimalExponent (num den : Nat) : Int :=
  if den ≤ num then ((Nat.toDigits 10 (num / den)).length : Int) - 1
  else -((Nat.toDigits 10 ((den - 1) / num)).length : Int)

/-- Of the two neighbours of a number among the multiples of `10 ^ power`, the nearer one that
reads back; the greater one in a tie. -/
def neighbour? (range : ReadBack) (power : Int) : Option Nat :=
  let num := range.exact * range.num * tenTo (-power).toNat
  let den := range.den * tenTo power.toNat
  let low := num / den
  match range.holds low power, range.holds (low + 1) power with
  | true, true =>
    some (if range.distance (low + 1) power ≤ range.distance low power then low + 1 else low)
  | true, false => some low
  | false, true => some (low + 1)
  | false, false => none

def maxDigits : Nat := 17

/-- The shortest digits that read back, and the power of ten of the last one. The search begins at
the power above the first digit, where a number just below a power of ten is met by that power. -/
def shortest (x : Double) : Nat × Int :=
  let range := readBack x
  let first := decimalExponent (range.exact * range.num) range.den
  let powers := (List.range (maxDigits + 1)).map fun (count : Nat) => first + 1 - (count : Int)
  match powers.findSome? fun power => (neighbour? range power).map (·, power) with
  | some found => found
  | none => (0, 0)

/-- Positional notation. -/
def positional (digits : Nat) (power : Int) : String :=
  let text := Nat.toDigits 10 digits
  let zeros (count : Nat) : List Char := List.replicate count '0'
  if 0 ≤ power then String.ofList (text ++ zeros power.toNat ++ ['.', '0'])
  else
    let places := (-power).toNat
    let padded := zeros (places + 1 - text.length) ++ text
    let whole := padded.length - places
    String.ofList (padded.take whole ++ '.' :: padded.drop whole)

/-- Positional notation with at least one digit after the point. -/
def toText (x : Double) : String :=
  let sign := if x.isNegative then "-" else ""
  if infinityBits < x.magnitude then "NaN"
  else if x.magnitude = infinityBits then sign ++ "inf"
  else if x.magnitude = 0 then sign ++ "0.0"
  else
    let (digits, power) := shortest x
    sign ++ positional digits power

/-- Scientific notation. -/
def scientific (digits : Nat) (power : Int) : String :=
  let text := Nat.toDigits 10 digits
  let exponent := power + text.length - 1
  let rest := text.drop 1
  let fraction := if rest.all (· = '0') then [] else '.' :: rest
  String.ofList (text.take 1 ++ fraction) ++ s!"e{exponent}"

/-- Scientific notation for exponents below -4 or above 15. -/
def toBriefText (x : Double) : String :=
  if infinityBits ≤ x.magnitude || x.magnitude = 0 then x.toText
  else
    let (digits, power) := shortest x
    let exponent := power + (Nat.toDigits 10 digits).length - 1
    if -4 ≤ exponent && exponent < 16 then x.toText
    else (if x.isNegative then "-" else "") ++ scientific digits power

end Double

end ShaderPreview
