/-!
# JSON

JSON values, pretty-printed with an indentation of two spaces; empty arrays and objects stay on one
line.
-/

namespace ShaderPreview

/-- JSON value; object members keep their order. -/
inductive JsonValue where
  | null
  | number (value : Nat)
  | text (value : String)
  | array (elements : List JsonValue)
  | object (members : List (String × JsonValue))
  deriving Repr, Inhabited

namespace JsonValue

def ofOption {α : Type} (value : α → JsonValue) : Option α → JsonValue
  | some found => value found
  | none => null

/-! ### Texts -/

def hexDigit (n : Nat) : Char := Nat.digitChar (n % 16)

/-- A character inside a string literal. -/
def escaped (c : Char) : List Char :=
  if c = '"' ∨ c = '\\' then ['\\', c]
  else if c = '\x08' then ['\\', 'b']
  else if c = '\t' then ['\\', 't']
  else if c = '\n' then ['\\', 'n']
  else if c = '\x0c' then ['\\', 'f']
  else if c = '\r' then ['\\', 'r']
  else if c.toNat < 0x20 then
    ['\\', 'u', '0', '0', hexDigit (c.toNat / 16), hexDigit c.toNat]
  else [c]

def quoted (text : String) : String :=
  String.ofList ('"' :: text.toList.flatMap escaped ++ ['"'])

/-! ### Layout -/

/-- Line break followed by the indentation for `depth`. -/
def newLine (depth : Nat) : String := "\n" ++ String.ofList (List.replicate (2 * depth) ' ')

def enclosed (opening closing : String) (depth : Nat) : List String → String
  | [] => opening ++ closing
  | parts =>
    let start := newLine (depth + 1)
    opening ++ start ++ ("," ++ start).intercalate parts ++ newLine depth ++ closing

mutual

/-- Pretty-printed value at nesting level `depth`. -/
def prettyAt (depth : Nat) : JsonValue → String
  | null => "null"
  | number value => s!"{value}"
  | text value => quoted value
  | array elements => enclosed "[" "]" depth (prettyElements (depth + 1) elements)
  | object members => enclosed "\x7b" "\x7d" depth (prettyMembers (depth + 1) members)

def prettyElements (depth : Nat) : List JsonValue → List String
  | [] => []
  | element :: elements => prettyAt depth element :: prettyElements depth elements

def prettyMembers (depth : Nat) : List (String × JsonValue) → List String
  | [] => []
  | (name, value) :: members =>
    (quoted name ++ ": " ++ prettyAt depth value) :: prettyMembers depth members

end

def pretty (value : JsonValue) : String := prettyAt 0 value

end JsonValue

end ShaderPreview
