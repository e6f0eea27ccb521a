import ShaderPreview.Text.Search

/-!
# TOML parsers

Parser combinators. A parser that fails consumes nothing.
-/

namespace ShaderPreview.Toml

/-- Parser of a prefix of the text. -/
abbrev Reader (α : Type) := StateT (List Char) Option α

namespace Reader

variable {α : Type}

def refuse : Reader α := fun _ => none

def one (accept : Char → Bool) : Reader Char := fun text =>
  match text with
  | c :: rest => if accept c then some (c, rest) else none
  | [] => none

def char (c : Char) : Reader Unit := discard (one (· == c))

def word (expected : String) : Reader Unit := fun text =>
  (Text.dropWord? expected.toList text).map ((), ·)

/-- Longest prefix of characters of a class. -/
def span (accept : Char → Bool) : Reader (List Char) := fun text =>
  some (text.takeWhile accept, text.dropWhile accept)

def span1 (accept : Char → Bool) : Reader (List Char) := do
  let found ← span accept
  if found.isEmpty then refuse else pure found

def peek : Reader (Option Char) := fun text => some (text.head?, text)

def finish : Reader Unit := fun text => if text.isEmpty then some ((), text) else none

def maybe (read : Reader α) : Reader (Option α) := fun text =>
  match read text with
  | some (value, rest) => some (some value, rest)
  | none => some (none, text)

/-- Repeats `read` until it fails, at most `fuel` times. -/
def manyFrom (read : Reader α) : Nat → Reader (List α)
  | 0 => pure []
  | fuel + 1 => do
    match ← maybe read with
    | some value => return value :: (← manyFrom read fuel)
    | none => return []

/-- Repeats `read` until it fails. `read` must consume input. -/
def many (read : Reader α) : Reader (List α) := fun text => manyFrom read (text.length + 1) text

/-- One or more `read`, separated by `between`. -/
def dividedBy (between : Reader Unit) (read : Reader α) : Reader (List α) := do
  let first ← read
  let rest ← many (do between; read)
  return first :: rest

end Reader

/-! ### Spaces and lines -/

def isSpace (c : Char) : Bool := c == ' ' || c == '\t'

/-- Allowed in comments and strings: no control character except the tab. -/
def isPrintable (c : Char) : Bool := c == '\t' || (0x20 ≤ c.toNat && c.toNat ≠ 0x7f)

def spaces : Reader Unit := discard (Reader.span isSpace)

def lineBreak : Reader Unit := Reader.char '\n' <|> Reader.word "\r\n"

def comment : Reader Unit := do
  Reader.char '#'
  discard (Reader.span isPrintable)

def lineEnd : Reader Unit := lineBreak <|> Reader.finish

/-- Trailing blanks and comment of a line. -/
def lineTail : Reader Unit := do
  spaces
  discard (Reader.maybe comment)
  lineEnd

def blankLines : Reader Unit := do
  spaces
  discard (Reader.many (do
    discard (Reader.maybe comment)
    lineBreak
    spaces))

end ShaderPreview.Toml
