import ShaderPreview.Number.Double

/-!
# TOML items

Values and tables of a document. A table keeps its entries in order of definition, and how it was
defined, which decides whether it may be extended.
-/

namespace ShaderPreview.Toml

/-- How a table was defined. -/
inductive Origin where
  /-- By a header, or as the root. -/
  | header
  /-- As a parent of a table header. -/
  | implied
  /-- By a dotted key. -/
  | dotted
  /-- As an inline table. -/
  | inline
  deriving DecidableEq, Repr

/-- Value; dates are recognised but their contents are not kept. -/
inductive Item where
  | string (text : String)
  | integer (value : Int)
  | float (value : Double)
  | boolean (value : Bool)
  | date
  | array (items : List Item)
  | table (origin : Origin) (entries : List (String × Item))
  | tables (elements : List (List (String × Item)))
  deriving Repr, Inhabited

abbrev Entries := List (String × Item)

/-- Replaces or appends an entry. -/
def Entries.put (entries : Entries) (key : String) (item : Item) : Entries :=
  if entries.any (·.1 == key) then
    entries.map fun entry => if entry.1 == key then (key, item) else entry
  else entries ++ [(key, item)]

def Entries.remove (entries : Entries) (key : String) : Entries :=
  entries.filter fun entry => !(entry.1 == key)

/-! ### Growing tables -/

abbrev Change := Origin → Entries → Option Entries

/-- Changes the table at the end of a path. Tables on the way are made when there are none. A key
with dots does not lead through tables that a header has opened; in an array of tables the way leads
through the last element. -/
def changeAt (dotted : Bool) (change : Change) : List String → Change
  | [], origin, entries => change origin entries
  | key :: path, _, entries =>
    match entries.lookup key with
    | none => do
      let origin := if dotted then Origin.dotted else .implied
      let inner ← changeAt dotted change path origin []
      pure (Entries.put entries key (.table origin inner))
    | some (.table origin inner) =>
      if origin = .inline ∨ (dotted ∧ origin = .header) then none
      else do
        let inner ← changeAt dotted change path origin inner
        pure (Entries.put entries key (.table origin inner))
    | some (.tables elements) => match elements.reverse with
      | [] => none
      | last :: before => do
        let last ← changeAt dotted change path .header last
        pure (Entries.put entries key (.tables (before.reverse ++ [last])))
    | some _ => none

/-- Adds an entry to a table. Dotted keys extend only tables that dotted keys defined. -/
def insertNew (key : String) (item : Item) (viaDots : Bool) : Change := fun origin entries =>
  if (origin == .dotted) != viaDots then none
  else if (entries.lookup key).isSome then none
  else some (entries ++ [(key, item)])

def insertAt (path : List String) (key : String) (item : Item) : Change :=
  changeAt true (insertNew key item !path.isEmpty) path

def openTable (key : String) : Change := fun _ entries =>
  match entries.lookup key with
  | none => some (entries ++ [(key, .table .header [])])
  | some (.table .implied inner) =>
    some (Entries.remove entries key ++ [(key, .table .header inner)])
  | some _ => none

def openElement (key : String) : Change := fun _ entries =>
  match entries.lookup key with
  | none => some (entries ++ [(key, .tables [[]])])
  | some (.tables elements) => some (Entries.put entries key (.tables (elements ++ [[]])))
  | some _ => none

end ShaderPreview.Toml
