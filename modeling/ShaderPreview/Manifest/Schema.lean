import ShaderPreview.Text.Digit
import ShaderPreview.Text.Quoted
import ShaderPreview.Toml.Item

/-!
# Schemas

Deserialisation of records. Keys are taken in document order and the first error is reported. A
record may also be given as an array of all its values in schema order.
-/

namespace ShaderPreview

inductive SchemaFault where
  | wrongType (found : Toml.Item) (expected : String)
  | outOfRange (value : Int) (expected : String)
  | unknownKey (key : String) (known : List String)
  | missingKey (key : String)
  | tooShort (count : Nat) (expected : String) (needed : Nat)
  deriving Repr

namespace SchemaFault

def marked (word : String) : String := "`" ++ word ++ "`"

/-- Description of a value in type errors. -/
def describe : Toml.Item → String
  | .string text => "string " ++ Text.quoted text
  | .integer value => "integer " ++ marked s!"{value}"
  | .float value => "floating point " ++ marked value.toText
  | .boolean value => "boolean " ++ marked (if value then "true" else "false")
  | .array _ | .tables _ => "sequence"
  | .table _ _ | .date => "map"

def message : SchemaFault → String
  | .wrongType found expected => s!"invalid type: {describe found}, expected {expected}"
  | .outOfRange value expected =>
    s!"invalid value: {describe (.integer value)}, expected {expected}"
  | .unknownKey key known =>
    s!"unknown field {marked key}, expected one of " ++ ", ".intercalate (known.map marked)
  | .missingKey key => s!"missing field {marked key}"
  | .tooShort count expected needed =>
    s!"invalid length {count}, expected {expected} with {needed} elements"

end SchemaFault

/-! ### Values -/

abbrev Fitted (α : Type) := Except SchemaFault α

/-- A string; `expected` is the type named in errors. -/
def asText (expected : String) : Toml.Item → Fitted String
  | .string text => .ok text
  | item => .error (.wrongType item expected)

def asTruth : Toml.Item → Fitted Bool
  | .boolean value => .ok value
  | item => .error (.wrongType item "a boolean")

def asWord32 : Toml.Item → Fitted Nat
  | .integer value =>
    if 0 ≤ value ∧ value < Text.word32Bound then .ok value.toNat
    else .error (.outOfRange value "u32")
  | item => .error (.wrongType item "u32")

/-! ### Records -/

/-- A key with the update it makes on the record. -/
structure SchemaField (ρ : Type) where
  key : String
  keep : Toml.Item → ρ → Fitted ρ

/-- A record type: its name in errors and its keys. -/
structure Schema (ρ : Type) where
  name : String
  fields : List (SchemaField ρ)

namespace Schema

variable {ρ : Type}

def keys (schema : Schema ρ) : List String := schema.fields.map (·.key)

def keepEntry (schema : Schema ρ) (state : ρ) (entry : String × Toml.Item) : Fitted ρ :=
  match schema.fields.find? (·.key == entry.1) with
  | some field => field.keep entry.2 state
  | none => .error (.unknownKey entry.1 schema.keys)

def keepItems (schema : Schema ρ) : List (SchemaField ρ) → List Toml.Item → ρ → Fitted ρ
  | [], _, state => .ok state
  | left, [], _ =>
    let needed := schema.fields.length
    .error (.tooShort (needed - left.length) schema.name needed)
  | field :: left, item :: items, state => do
    schema.keepItems left items (← field.keep item state)

/-- Key of the single-entry table that a date-time deserialises to. -/
def dateKey : String := "$__toml_private_datetime"

/-- Fills a record from a table or from an array of its values in schema order. -/
def fit (schema : Schema ρ) (standard : ρ) : Toml.Item → Fitted ρ
  | .table _ entries => entries.foldlM schema.keepEntry standard
  | .array items => schema.keepItems schema.fields items standard
  | .tables elements =>
    schema.keepItems schema.fields (elements.map (.table .header)) standard
  | .date => .error (.unknownKey dateKey schema.keys)
  | item => .error (.wrongType item schema.name)

end Schema

end ShaderPreview
