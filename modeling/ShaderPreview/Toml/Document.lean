import ShaderPreview.Toml.Value

/-!
# TOML documents

Line-oriented parser for documents: table headers and key-value pairs.
-/

namespace ShaderPreview.Toml

open Reader

/-- Root table so far, and the path of the current table. -/
structure Draft where
  root : Entries
  current : List String

def Draft.empty : Draft := ⟨[], []⟩

def Draft.changed (draft : Draft) (path : List String) (change : Change) : Reader Entries :=
  fun rest => (changeAt false change path .header draft.root).map (·, rest)

def header (opening closing : String) (change : String → Change) (draft : Draft) :
    Reader Draft := do
  word opening
  let (path, last) ← key
  word closing
  lineTail
  let root ← draft.changed path (change last)
  return ⟨root, path ++ [last]⟩

def entry (draft : Draft) : Reader Draft := do
  let (path, last) ← key
  char '='
  spaces
  let item ← value
  lineTail
  let root ← draft.changed draft.current (insertAt path last item)
  return ⟨root, draft.current⟩

def emptyLine : Reader Unit :=
  (do comment; lineEnd) <|> lineBreak

def line (draft : Draft) : Reader Draft := do
  spaces
  (do emptyLine; pure draft) <|>
    header "[[" "]]" openElement draft <|>
    header "[" "]" openTable draft <|>
    entry draft

def lines : Nat → Draft → Reader Entries
  | 0, _ => refuse
  | fuel + 1, draft => do
    match ← maybe (do spaces; finish) with
    | some () => pure draft.root
    | none => lines fuel (← line draft)

def byteOrderMark : Char := '\ufeff'

def document : Reader Entries := do
  discard (maybe (char byteOrderMark))
  fun rest => lines (rest.length + 1) Draft.empty rest

def entriesOf? (text : String) : Option Entries :=
  (document text.toList).map (·.1)

/-- Document parser: the entries of the root table, or an error message. -/
abbrev Parser : Type := String → Except String Entries

def parse : Parser := fun text =>
  match entriesOf? text with
  | some entries => .ok entries
  | none => .error "not a TOML document"

end ShaderPreview.Toml
