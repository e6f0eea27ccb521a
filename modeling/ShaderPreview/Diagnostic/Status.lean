import ShaderPreview.Text.Scan

/-!
# Status lines

The filter for text that reports progress or success (SPEC_FULL.md, section 4.4). Text with an error
marker is never filtered out.
-/

namespace ShaderPreview.Diagnostic

open Text

/-- A text that contains one of these is never a status line. -/
def errorMarkers : List String :=
  ["[error]", "error:", "GPU Error", "compilation failed", "Invalid", "Expected"]

/-- Words separated by blanks, case-insensitive. -/
def phrase : List String → Scan Unit
  | [] => fun _ => some ()
  | [word] => caseless word fun _ => some ()
  | word :: words => caseless word (someBlanks (phrase words))

def leadingWord (word : String) : Scan Unit := caseless word (someBlanks fun _ => some ())

/-- Phrases that mark a status line anywhere in the text. -/
def statusPhrases : List (List String) :=
  [["compiled", "and", "executed", "successfully"], ["successfully"], ["shader", "compiled"],
   ["compilation", "successful"], ["no", "errors"], ["detected", "shader", "type"],
   ["initialising", "gpu"], ["initialising", "renderer"], ["initialising", "device"],
   ["initializing", "gpu"], ["initializing", "renderer"], ["initializing", "device"],
   ["texture", "provided"]]

/-- Patterns that mark a status line at its beginning. -/
def statusOpenings : List (Scan Unit) :=
  [leadingWord "creating", leadingWord "loaded", phrase ["shader", "type:"]]

def hasErrorMarker (text : List Char) : Bool :=
  errorMarkers.any fun marker => hasWord marker.toList text

def readsAsStatus (text : List Char) : Bool :=
  statusPhrases.any (fun words => occurs (phrase words) text) ||
    statusOpenings.any fun opening => (opening text).isSome

def isStatusLine (text : List Char) : Bool := !hasErrorMarker text && readsAsStatus text

end ShaderPreview.Diagnostic
