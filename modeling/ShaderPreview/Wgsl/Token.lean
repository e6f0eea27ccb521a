import ShaderPreview.Text.Letter
import ShaderPreview.Text.Place
import ShaderPreview.Wgsl.Numeral

/-!
# Tokens

The tokeniser. Line comments end at any line break; block comments nest. At the end of a template
list `<` and `>` are single tokens.
-/

namespace ShaderPreview.Wgsl

open Text

inductive Mark where
  | separator (c : Char)
  | paren (c : Char)
  | attribute
  | operation (c : Char)
  /-- `==`, `!=`, `<=`, `>=`, `&&` or `||`, by their first character. -/
  | logical (c : Char)
  /-- `<<` or `>>`. -/
  | shift (c : Char)
  /-- An assignment with an operation, by the operation's first character. -/
  | assignment (c : Char)
  | increment
  | decrement
  | arrow
  deriving DecidableEq, Repr, Inhabited

inductive Token where
  | mark (mark : Mark)
  | word (text : String)
  | number (value : Numeral.Reading)
  | unknown (c : Char)
  /-- The end of the text. -/
  | finish
  deriving Inhabited

namespace Token

def isMark (mark : Mark) : Token → Bool
  | .mark other => other = mark
  | _ => false

def isWord (text : String) : Token → Bool
  | .word other => other == text
  | _ => false

end Token

/-- Result of a scan: a token or skipped text, its length in bytes, and the rest. -/
structure Lexeme where
  token : Option Token
  size : Nat
  rest : List Char

def endsLine (c : Char) : Bool :=
  let n := c.toNat
  (0xa ≤ n && n ≤ 0xd) || n == 0x85 || n == 0x2028 || n == 0x2029

def isSpace (c : Char) : Bool :=
  let n := c.toNat
  n == 0x20 || (0x9 ≤ n && n ≤ 0xd) || n == 0x85 || n == 0x200e || n == 0x200f ||
    n == 0x2028 || n == 0x2029

def beginsWord (c : Char) : Bool := c == '_' || isLetter c

def continuesWord (c : Char) : Bool := isLetterOrMark c

namespace Lexeme

def mark (mark : Mark) (size : Nat) (rest : List Char) : Lexeme := ⟨some (.mark mark), size, rest⟩

def skipped (text rest : List Char) : Lexeme := ⟨none, Text.byteCount text, rest⟩

def lineComment (text : List Char) : Lexeme :=
  skipped (text.takeWhile (!endsLine ·)) (text.dropWhile (!endsLine ·))

/-- Nested block comment at depth `depth + 1`; an unterminated one extends to the end. -/
def blockComment (depth size : Nat) : List Char → Lexeme
  | [] => ⟨some .finish, size, []⟩
  | '*' :: '/' :: rest => match depth with
    | 0 => ⟨none, size + 2, rest⟩
    | outer + 1 => blockComment outer (size + 2) rest
  | '/' :: '*' :: rest => blockComment (depth + 1) (size + 2) rest
  | c :: rest => blockComment depth (size + c.utf8Size) rest

def numeral (text : List Char) : Lexeme :=
  let (value, rest) := Numeral.read text
  ⟨some (.number value), text.length - rest.length, rest⟩

def sign (c : Char) (doubled assigned : Option Mark) (rest : List Char) : Lexeme :=
  match rest with
  | d :: after =>
    if d = c then match doubled with
      | some found => mark found 2 after
      | none => mark (.operation c) 1 rest
    else if d = '=' then match assigned with
      | some found => mark found 2 after
      | none => mark (.operation c) 1 rest
    else mark (.operation c) 1 rest
  | [] => mark (.operation c) 1 rest

def angle (template : Bool) (c : Char) (rest : List Char) : Lexeme :=
  if template then mark (.paren c) 1 rest
  else match rest with
    | d :: after =>
      if d = '=' then mark (.logical c) 2 after
      else if d = c then match after with
        | '=' :: after => mark (.assignment c) 3 after
        | _ => mark (.shift c) 2 after
      else mark (.paren c) 1 rest
    | [] => mark (.paren c) 1 rest

def punctuation (template : Bool) (c : Char) (rest : List Char) : Lexeme :=
  match c with
  | ':' | ';' | ',' => mark (.separator c) 1 rest
  | '.' => match rest with
    | d :: _ => if '0' ≤ d ∧ d ≤ '9' then numeral ('.' :: rest) else mark (.separator c) 1 rest
    | [] => mark (.separator c) 1 rest
  | '@' => mark .attribute 1 rest
  | '(' | ')' | '{' | '}' | '[' | ']' => mark (.paren c) 1 rest
  | '<' | '>' => angle template c rest
  | '/' => match rest with
    | '/' :: _ => lineComment ('/' :: rest)
    | '*' :: after => blockComment 0 2 after
    | '=' :: after => mark (.assignment c) 2 after
    | _ => mark (.operation c) 1 rest
  | '-' => match rest with
    | '>' :: after => mark .arrow 2 after
    | _ => sign c (some .decrement) (some (.assignment c)) rest
  | '+' => sign c (some .increment) (some (.assignment c)) rest
  | '*' | '%' | '^' => sign c none (some (.assignment c)) rest
  | '~' => mark (.operation c) 1 rest
  | '=' => sign c (some (.logical c)) none rest
  | '!' => sign c none (some (.logical c)) rest
  | '&' | '|' => sign c (some (.logical c)) (some (.assignment c)) rest
  | _ => ⟨some (.unknown c), c.utf8Size, rest⟩

def scan (template : Bool) : List Char → Lexeme
  | [] => ⟨some .finish, 0, []⟩
  | c :: rest =>
    if isSpace c then
      skipped ((c :: rest).takeWhile isSpace) ((c :: rest).dropWhile isSpace)
    else if '0' ≤ c ∧ c ≤ '9' then numeral (c :: rest)
    else if beginsWord c then
      let word := c :: rest.takeWhile continuesWord
      ⟨some (.word (String.ofList word)), Text.byteCount word, rest.dropWhile continuesWord⟩
    else punctuation template c rest

end Lexeme

end ShaderPreview.Wgsl
