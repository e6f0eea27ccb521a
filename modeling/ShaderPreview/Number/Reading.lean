import ShaderPreview.Number.Single
import ShaderPreview.Text.Character
import ShaderPreview.Text.Digit
import ShaderPreview.Text.Search

/-!
# Reading floating point numbers

Optional sign, digits with an optional point, optional exponent, or one of the words for infinity
and NaN; rounded once.
-/

namespace ShaderPreview.Single

open Text

def takeSign : List Char → Bool × List Char
  | '-' :: rest => (true, rest)
  | '+' :: rest => (false, rest)
  | text => (false, text)

def spanDigits (text : List Char) : List Char × List Char :=
  text.span fun c => '0' ≤ c && c ≤ '9'

def exponent? : List Char → Option Int
  | [] => some 0
  | e :: rest =>
    if e = 'e' ∨ e = 'E' then
      let (negative, digits) := takeSign rest
      (digits? digits).map fun value => if negative then -value else value
    else none

/-- Nearest number to `mantissa * 10 ^ power`; extreme powers are truncated to keep the computation
small. -/
def ofDecimal (negative : Bool) (mantissa digitCount : Nat) (power : Int) : Single :=
  if mantissa = 0 then ofMagnitude negative 0
  else if 400 < power then ofMagnitude negative infinityBits
  else if power + digitCount < -400 then ofMagnitude negative 0
  else if 0 ≤ power then ofRatio negative (mantissa * tenTo power.toNat) 1
  else ofRatio negative mantissa (tenTo (-power).toNat)

def readUnsigned? (negative : Bool) (text : List Char) : Option Single :=
  let (whole, rest) := spanDigits text
  let (part, tail) := match rest with
    | '.' :: after => spanDigits after
    | _ => ([], rest)
  if whole.isEmpty && part.isEmpty then none
  else match exponent? tail, digitsFrom? 0 (whole ++ part) with
    | some power, some mantissa =>
      some (ofDecimal negative mantissa (whole ++ part).length (power - part.length))
    | _, _ => none

/-- `inf`, `infinity` and `nan`. -/
def readWord? (text : List Char) : Option Single :=
  let word := text.map lowerAscii
  if word = "inf".toList ∨ word = "infinity".toList then some infinity
  else if word = "nan".toList then some nan
  else none

def read? (text : List Char) : Option Single :=
  let (negative, rest) := takeSign text
  match readWord? rest with
  | some value => some (if negative then value.negate else value)
  | none => readUnsigned? negative rest

end ShaderPreview.Single
