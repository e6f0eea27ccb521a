import ShaderPreview.Toml.Item
import ShaderPreview.Toml.Reader
import ShaderPreview.Text.Digit

/-!
# TOML numbers and dates

Integers, floating point numbers and dates, with underscores between digits. Integers must fit 64
bits; dates and times must exist.
-/

namespace ShaderPreview.Toml

open Reader

def isDecimal (c : Char) : Bool := '0' ≤ c && c ≤ '9'

/-- Digits with single underscores in between. -/
def digitRun (accept : Char → Bool) : Reader (List Char) := do
  let first ← one accept
  let rest ← many (do discard (maybe (char '_')); one accept)
  return first :: rest

def sign : Reader Bool := do
  match ← maybe (one fun c => c == '+' || c == '-') with
  | some '-' => pure true
  | _ => pure false

def decimalDigits : Reader (List Char) := do
  match ← peek with
  | some '0' =>
    char '0'
    pure ['0']
  | _ => digitRun isDecimal

def digitValue (c : Char) : Nat :=
  if c ≤ '9' then c.toNat - '0'.toNat
  else if c ≤ 'F' then c.toNat - 'A'.toNat + 10
  else c.toNat - 'a'.toNat + 10

def numberIn (base : Nat) (digits : List Char) : Nat :=
  digits.foldl (fun value c => base * value + digitValue c) 0

def maxInteger : Int := 9223372036854775807
def minInteger : Int := -9223372036854775808

def fitting (value : Int) : Reader Item :=
  if minInteger ≤ value ∧ value ≤ maxInteger then pure (.integer value) else refuse

/-- Integer after the letter of its base prefix. -/
def basedInteger : Reader Item := do
  char '0'
  match ← one fun _ => true with
  | 'x' =>
    let digits ← digitRun fun c => isDecimal c || ('a' ≤ c && c ≤ 'f') || ('A' ≤ c && c ≤ 'F')
    fitting (numberIn 16 digits)
  | 'o' => fitting (numberIn 8 (← digitRun fun c => '0' ≤ c && c ≤ '7'))
  | 'b' => fitting (numberIn 2 (← digitRun fun c => c == '0' || c == '1'))
  | _ => refuse

def decimalInteger : Reader Item := do
  let negative ← sign
  let value := numberIn 10 (← decimalDigits)
  fitting (if negative then -value else value)

def exponentPart : Reader Int := do
  discard (one fun c => c == 'e' || c == 'E')
  let negative ← sign
  let value := numberIn 10 (← digitRun isDecimal)
  return if negative then -value else value

/-- Number with a fraction or exponent; overflow is an error. -/
def decimalFloat : Reader Item := do
  let negative ← sign
  let whole ← decimalDigits
  let part ← maybe (do char '.'; digitRun isDecimal)
  let power ← maybe exponentPart
  if part.isNone && power.isNone then refuse
  let part := part.getD []
  let digits := whole ++ part
  let value := Double.ofDecimal negative (numberIn 10 digits) digits.length
    (power.getD 0 - part.length)
  if value = Double.infinity then refuse else pure (.float value)

def wordFloat : Reader Item := do
  let negative ← sign
  let value ← (do word "inf"; pure Double.infinity) <|> (do word "nan"; pure Double.nan)
  return .float (if negative then value.negate else value)

/-! ### Dates -/

def fixedDigits : Nat → Nat → Reader Nat
  | 0, value => pure value
  | count + 1, value => do
    let c ← one isDecimal
    fixedDigits count (10 * value + (c.toNat - '0'.toNat))

def twoDigits (least greatest : Nat) : Reader Nat := do
  let value ← fixedDigits 2 0
  if least ≤ value ∧ value ≤ greatest then pure value else refuse

def isLeapYear (year : Nat) : Bool := year % 4 == 0 && (year % 100 != 0 || year % 400 == 0)

def daysIn (year month : Nat) : Nat :=
  if month = 2 then if isLeapYear year then 29 else 28
  else if month = 4 ∨ month = 6 ∨ month = 9 ∨ month = 11 then 30
  else 31

def day : Reader Unit := do
  let year ← fixedDigits 4 0
  char '-'
  let month ← twoDigits 1 12
  char '-'
  discard (twoDigits 1 (daysIn year month))

/-- Time of day; second 60 is accepted as a leap second. -/
def timeOfDay : Reader Unit := do
  discard (twoDigits 0 23)
  char ':'
  discard (twoDigits 0 59)
  char ':'
  discard (twoDigits 0 60)
  discard (maybe (do char '.'; span1 isDecimal))

/-- UTC offset. -/
def zone : Reader Unit :=
  discard (one fun c => c == 'Z' || c == 'z') <|> (do
    discard (one fun c => c == '+' || c == '-')
    discard (twoDigits 0 23)
    char ':'
    discard (twoDigits 0 59))

def date : Reader Item := do
  (do
    day
    discard (maybe (do
      discard (one fun c => c == 'T' || c == 't' || c == ' ')
      timeOfDay
      maybe zone))) <|> timeOfDay
  return .date

def number : Reader Item :=
  date <|> decimalFloat <|> wordFloat <|> basedInteger <|> decimalInteger

end ShaderPreview.Toml
