import ShaderPreview.Toml.Number
import ShaderPreview.Toml.Text

/-!
# TOML values

Strings, numbers, dates, booleans, arrays and inline tables. Only arrays may span lines or have a
trailing comma.
-/

namespace ShaderPreview.Toml

open Reader

def truth : Reader Item :=
  (do word "true"; pure (.boolean true)) <|> (do word "false"; pure (.boolean false))

def scalar : Reader Item := (.string <$> anyText) <|> truth <|> number

def elements (element : Reader Item) : Reader (List Item) := do
  let items ← dividedBy (char ',') (do
    blankLines
    let item ← element
    blankLines
    return item)
  discard (maybe (char ','))
  return items

def array (element : Reader Item) : Reader Item := do
  char '['
  let items ← maybe (elements element)
  blankLines
  char ']'
  return .array (items.getD [])

def keyValue (value : Reader Item) : Reader ((List String × String) × Item) := do
  let key ← key
  char '='
  spaces
  let item ← value
  spaces
  return (key, item)

def insertAll : List ((List String × String) × Item) → Entries → Option Entries
  | [], entries => some entries
  | ((path, key), item) :: rest, entries => do
    insertAll rest (← insertAt path key item .inline entries)

def inlineTable (value : Reader Item) : Reader Item := do
  char '{'
  let found ← maybe (dividedBy (char ',') (keyValue value))
  spaces
  char '}'
  match insertAll (found.getD []) [] with
  | some entries => pure (.table .inline entries)
  | none => refuse

/-- Value with at most `depth` levels of nesting. -/
def valueWithin : Nat → Reader Item
  | 0 => scalar
  | depth + 1 => scalar <|> array (valueWithin depth) <|> inlineTable (valueWithin depth)

def value : Reader Item := valueWithin (maxDepth - 1)

end ShaderPreview.Toml
