import ShaderPreview.Toml.Reader

/-!
# TOML strings and keys

Basic and literal strings, single-line and multi-line. A line break at the beginning of a multi-line
string is dropped, and line breaks are normalised to line feeds.
-/

namespace ShaderPreview.Toml

open Reader

def hexDigit? (c : Char) : Option Nat :=
  if '0' ≤ c ∧ c ≤ '9' then some (c.toNat - '0'.toNat)
  else if 'a' ≤ c ∧ c ≤ 'f' then some (c.toNat - 'a'.toNat + 10)
  else if 'A' ≤ c ∧ c ≤ 'F' then some (c.toNat - 'A'.toNat + 10)
  else none

def hexNumber : Nat → Nat → Reader Nat
  | 0, value => pure value
  | count + 1, value => do
    let c ← one fun _ => true
    match hexDigit? c with
    | some digit => hexNumber count (16 * value + digit)
    | none => refuse

def codePoint (digits : Nat) : Reader Char := do
  let value ← hexNumber digits 0
  if value.isValidChar then pure (Char.ofNat value) else refuse

def escape : Reader Char := do
  char '\\'
  match ← one fun _ => true with
  | 'b' => pure '\x08'
  | 't' => pure '\t'
  | 'n' => pure '\n'
  | 'f' => pure '\x0c'
  | 'r' => pure '\r'
  | '"' => pure '"'
  | '\\' => pure '\\'
  | 'u' => codePoint 4
  | 'U' => codePoint 8
  | _ => refuse

/-- Allowed unescaped in a basic string. -/
def isPlain (c : Char) : Bool := isPrintable c && c != '"' && c != '\\'

/-- Allowed in a literal string. -/
def isLiteral (c : Char) : Bool := isPrintable c && c != '\''

def quotedText : Reader (List Char) := do
  char '"'
  let text ← many (one isPlain <|> escape)
  char '"'
  return text

def literalText : Reader (List Char) := do
  char '\''
  let text ← span isLiteral
  char '\''
  return text

/-! ### Texts of several lines -/

/-- Line continuation: an escaped line end with the white space after it. -/
def foldedLine : Reader (List Char) := do
  char '\\'
  spaces
  lineBreak
  discard (many (discard (one isSpace) <|> lineBreak))
  return []

/-- Piece of a multi-line basic string. -/
def longPiece : Reader (List Char) :=
  span1 isPlain <|> foldedLine <|> ((fun c => [c]) <$> escape) <|> (do lineBreak; return ['\n'])

/-- Piece of a multi-line literal string. -/
def longLiteralPiece : Reader (List Char) :=
  span1 isLiteral <|> (do lineBreak; return ['\n'])

/-- One or two quotes inside a multi-line string. -/
def innerQuotes (quote : Char) : Reader (List Char) := do
  let run ← span1 (· == quote)
  if run.length < 3 then pure run else refuse

/-- Closing delimiter; up to two additional quotes belong to the string. -/
def closingQuotes (quote : Char) : Reader (List Char) := fun text =>
  let run := text.takeWhile (· == quote)
  if run.length < 3 then none
  else
    let inner := min (run.length - 3) 2
    some (run.take inner, text.drop (inner + 3))

def longText (quote : Char) (piece : Reader (List Char)) : Reader (List Char) := do
  word (String.ofList [quote, quote, quote])
  discard (maybe lineBreak)
  let pieces ← many (piece <|> innerQuotes quote)
  let last ← closingQuotes quote
  return pieces.flatten ++ last

def anyText : Reader String :=
  String.ofList <$>
    (longText '"' longPiece <|> quotedText <|> longText '\'' longLiteralPiece <|> literalText)

/-! ### Keys -/

def isKeyChar (c : Char) : Bool :=
  ('a' ≤ c && c ≤ 'z') || ('A' ≤ c && c ≤ 'Z') || ('0' ≤ c && c ≤ '9') || c == '-' || c == '_'

def simpleKey : Reader String :=
  String.ofList <$> (quotedText <|> literalText <|> span1 isKeyChar)

/-- Nesting limit of tables, arrays and dotted keys. -/
def maxDepth : Nat := 80

/-- Dotted key: path and last part. -/
def key : Reader (List String × String) := do
  let parts ← dividedBy (char '.') (do
    spaces
    let part ← simpleKey
    spaces
    return part)
  match parts.reverse with
  | last :: before => if parts.length < maxDepth then pure (before.reverse, last) else refuse
  | [] => refuse

end ShaderPreview.Toml
