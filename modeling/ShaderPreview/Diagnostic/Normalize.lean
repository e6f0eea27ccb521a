import ShaderPreview.Diagnostic.Basic
import ShaderPreview.Diagnostic.Dialect
import ShaderPreview.Diagnostic.Status

/-!
# The normalizer

Turns any text into a list of diagnostics in the user's lines (SPEC_FULL.md, section 4.4). Blank
texts and status lines give none. Otherwise the first dialect with a usable match decides; the
fallbacks are a loose mention of a line number and, finally, line 1.

Text with a compilation marker counts lines in the composed source: the header offset is subtracted,
and the result is clamped to at least 1.
-/

namespace ShaderPreview.Diagnostic

open Text

/-- Markers of text that counts lines in the composed source. -/
def compilationMarkers : List String :=
  ["[error]", "[warning]", "compilation", "unresolved", "Invalid"]

/-- The header offset is subtracted from the line of this match. -/
def countsHeader (reading : List Char) : Bool :=
  compilationMarkers.any fun marker => hasWord marker.toList reading

/-- Parses a line or column number: ASCII digits, positive, 32 bits. -/
def position? (written : List Char) : Option Nat :=
  match word32? written with
  | some (n + 1) => some (n + 1)
  | _ => none

/-- Diagnostic before the offset is applied, and whether it applies. -/
structure Placed where
  message : String
  line : Nat
  column : Option Nat
  severity : Severity
  counted : Bool
  deriving DecidableEq, Repr

/-- Applies the header offset. -/
def Placed.below (placed : Placed) (header : Nat) : Diagnostic :=
  { message := placed.message
    line := max 1 (if placed.counted then placed.line - header else placed.line)
    column := placed.column
    severity := placed.severity
    offset := 0
    length := 0 }

/-- Diagnostic of a match; `none` if its line is no number or its message is declined or blank. -/
def place? (declines : List Char → Bool) (found : Excerpt × List Char) : Option Placed :=
  let message := trim found.1.message
  if message.isEmpty || declines message then none
  else match position? found.1.line with
    | none => none
    | some line =>
      let cleaned := cleanText message
      if cleaned.isEmpty then none
      else some ⟨String.ofList cleaned, line, position? found.1.column, found.1.severity,
        countsHeader found.2⟩

/-- Usable matches of one dialect. -/
def readings (dialect : Dialect × (List Char → Bool)) (text : List Char) : List Placed :=
  (findAll dialect.1 text).filterMap (place? dialect.2)

def firstReadings (text : List Char) : List (Dialect × (List Char → Bool)) → List Placed
  | [] => []
  | dialect :: others => match readings dialect text with
    | [] => firstReadings text others
    | found => found

/-- `line`, blanks or a colon, and a number. -/
def looseLine : Option Char → Scan (List Char × List Char) := fun _ =>
  caseless "line" (blanks (either
    (char ':' (blanks (digits fun line rest => some (line, rest))))
    (someBlanks (digits fun line rest => some (line, rest)))))

def mentionedLine? (text : List Char) : Option Nat :=
  (findAll looseLine text).findSome? fun found => position? found.1

/-- The whole text as one diagnostic, at the first line number it mentions. -/
def wholeText (text : List Char) : Placed :=
  match mentionedLine? text with
  | some line => ⟨String.ofList text, line, none, .error, true⟩
  | none =>
    let cleaned := cleanText text
    ⟨String.ofList (if cleaned.isEmpty then text else cleaned), 1, none, .error, false⟩

/-- All diagnostics before the offset is applied. -/
def locateAll (raw : List Char) : List Placed :=
  let text := trim raw
  if text.isEmpty || isStatusLine text then []
  else match firstReadings text dialects with
    | [] => [wholeText text]
    | found => found

/-- Diagnostics of free text below a header of `header` lines (SPEC_FULL.md, section 4.4). -/
def normalize (raw : String) (header : Nat) : List Diagnostic :=
  (locateAll raw.toList).map (·.below header)

end ShaderPreview.Diagnostic
