import ShaderPreview.Diagnostic.Basic
import ShaderPreview.Text.Scan

/-!
# Message cleaning

Removes preambles and repeated locations from the text of a message (SPEC_FULL.md, section 4.4,
`cleanErrorMessage`).
-/

namespace ShaderPreview.Diagnostic

open Text

/-- Markers that end a preamble. -/
def anchors : List String := ["error:", "Invalid", "compilation failed"]

/-- Position of the first marker. -/
def anchor? (text : List Char) : Option Nat :=
  (anchors.filterMap fun word => indexOf? word.toList text).min?

def dropPreamble (text : List Char) : List Char := text.drop ((anchor? text).getD 0)

def severityWord (next : Severity → Scan α) : Scan α :=
  either (caseless "error" (next .error))
    (either (caseless "warning" (next .warning)) (caseless "info" (next .info)))

/-- `column N`, after an optional comma. -/
def columnReference (next : Scan α) : Scan α :=
  optional (char ',') (blanks (caseless "column" (someBlanks (digits fun _ => next))))

def dropColons (text : List Char) : List Char := text.dropWhile fun c => c == ':' || isBlank c

/-- `at line N, column M:` where only `line N` is required. Returns the rest. -/
def lineReference : Scan (List Char) :=
  optional (fun next => caseless "at" (someBlanks next))
    (caseless "line" (someBlanks (digits fun _ =>
      optional columnReference fun rest => some (dropColons rest))))

/-- `N:M - severity:`. Returns the rest. -/
def rangePrefix : Scan (List Char) :=
  digits fun _ => char ':' (digits fun _ => blanks (char '-' (blanks (severityWord fun _ =>
    blanks (char ':' fun rest => some (trimStart rest))))))

/-- `error:`. Returns the rest. -/
def errorPrefix : Scan (List Char) :=
  caseless "error" (blanks (char ':' fun rest => some (trimStart rest)))

/-- Removes a match at the beginning. -/
def dropLeading (find : Scan (List Char)) (text : List Char) : List Char :=
  (find text).getD text

/-- Message text without preamble, locations and severity prefixes. -/
def cleanText (raw : List Char) : List Char :=
  let text := trimStart (removeAll lineReference (dropPreamble raw))
  trim (dropLeading errorPrefix (dropLeading rangePrefix text))

def clean (raw : String) : String := String.ofList (cleanText raw.toList)

end ShaderPreview.Diagnostic
