/-!
# Source locations

Byte spans and their location as shown to the user: line and column from 1, the latter in bytes of
UTF-8, with offset and length.
-/

namespace ShaderPreview.Text

def bytes (text : String) : List UInt8 := text.toByteArray.data.toList

def byteCount : List Char → Nat
  | [] => 0
  | c :: rest => c.utf8Size + byteCount rest

def newline : UInt8 := 10

/-- Half-open range of byte offsets. -/
structure Span where
  first : Nat
  last : Nat
  deriving DecidableEq, Repr, Inhabited

/-- Unknown location. -/
def Span.nowhere : Span := ⟨0, 0⟩

def Span.isKnown (span : Span) : Bool := span ≠ .nowhere

def Span.isWithin (span outer : Span) : Bool := outer.first ≤ span.first && span.last ≤ outer.last

/-- Line and column, from 1, with offset and length in bytes. -/
structure Place where
  line : Nat
  column : Nat
  offset : Nat
  length : Nat
  deriving DecidableEq, Repr, Inhabited

/-- Line of a byte offset, from 1. -/
def lineAt (text : List UInt8) (offset : Nat) : Nat := (text.take offset).count newline + 1

/-- Column of a byte offset in bytes, from 1. -/
def columnAt (text : List UInt8) (offset : Nat) : Nat :=
  ((text.take offset).reverse.takeWhile (· ≠ newline)).length + 1

def Place.ofSpan (text : List UInt8) (span : Span) : Place :=
  ⟨lineAt text span.first, columnAt text span.first, span.first, span.last - span.first⟩

theorem lineAt_append (before text : List UInt8) (offset : Nat) :
    lineAt (before ++ text) (before.length + offset) =
      before.count newline + lineAt text offset := by
  simp [lineAt, List.take_append, List.take_of_length_le (Nat.le_add_right _ _), Nat.add_assoc]

end ShaderPreview.Text
