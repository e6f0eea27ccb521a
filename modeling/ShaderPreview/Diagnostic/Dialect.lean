import ShaderPreview.Diagnostic.Clean
import ShaderPreview.Text.Word

/-!
# Error dialects

The extraction patterns of the normalizer (SPEC_FULL.md, section 4.4), one for each format in which
the upstream tools write locations. Captured numbers are kept as text. The order of the list
matters: the first dialect with a usable match decides.
-/

namespace ShaderPreview.Diagnostic

open Text

/-- Captures of a dialect: line and column as written, severity, message. -/
structure Excerpt where
  line : List Char
  column : List Char
  severity : Severity
  message : List Char
  deriving DecidableEq, Repr

/-- A dialect matches at a position, given the preceding character. -/
abbrev Dialect := Option Char → Scan (Excerpt × List Char)

def excerpt (line column : List Char) (severity : Severity) (message : List Char) :
    Scan (Excerpt × List Char) :=
  fun rest => some (⟨line, column, severity, message⟩, rest)

/-- `[severity] Lline:column message`. -/
def bracketed : Dialect := fun _ =>
  char '[' (severityWord fun severity => char ']' (blanks (caseless "l"
    (digits fun line => char ':' (digits fun column =>
      someBlanks (restOfLine fun message => excerpt line column severity message))))))

/-- One or two full stops, preferring two. -/
def fullStops (next : Scan α) : Scan α :=
  either (char '.' (char '.' next)) (char '.' next)

/-- `message. Line:line`, where the message may be followed by a second full stop. -/
def stopped : Dialect := fun _ text =>
  lineText (fun stop => fullStops (blanks (caseless "line:"
    (digits fun line => excerpt line [] .error (between text stop)))) stop) text

/-- `line:column - severity: message`. -/
def ranged : Dialect := fun _ =>
  digits fun line => char ':' (digits fun column => blanks (char '-' (blanks
    (severityWord fun severity => blanks (char ':' (blanks
      (restOfLine fun message => excerpt line column severity message)))))))

/-- `error: message at line line`. -/
def errorAtLine : Dialect := fun _ =>
  caseless "error" (blanks (char ':' (blanks fun start =>
    lineText (fun stop => someBlanks (caseless "at" (someBlanks (caseless "line" (someBlanks
      (digits fun line => excerpt line [] .error (between start stop)))))) stop) start)))

/-- Tail of `atLineColumn` from the colon on. -/
def colonMessage (line column : List Char) : Scan (Excerpt × List Char) :=
  blanks (char ':' (blanks
    (restOfLine fun message => excerpt line column .error message)))

/-- `at line line, column column: message`; the column is optional. -/
def atLineColumn : Dialect := fun _ =>
  caseless "at" (someBlanks (caseless "line" (someBlanks (digits fun line =>
    either
      (char ',' (blanks (caseless "column" (someBlanks
        (digits fun column => colonMessage line column)))))
      (colonMessage line [])))))

/-- `line line: message`, with `line` at a word boundary. -/
def linePrefixed : Dialect := fun before text =>
  if noWord before then
    caseless "line" (someBlanks (digits fun line => colonMessage line [])) text
  else none

/-- `line: message` at the beginning of a line. -/
def numbered : Dialect := fun before text =>
  if before = none ∨ before = some '\n' then
    blanks (digits fun line => colonMessage line []) text
  else none

def reportsSuccess (message : List Char) : Bool :=
  hasWord "success".toList (message.map lowerAscii)

/-- The dialects in the order of SPEC_FULL.md, section 4.4, each with the messages it declines. -/
def dialects : List (Dialect × (List Char → Bool)) :=
  [(bracketed, fun _ => false), (stopped, fun _ => false), (ranged, fun _ => false),
   (errorAtLine, fun _ => false), (atLineColumn, fun _ => false),
   (linePrefixed, reportsSuccess), (numbered, fun _ => false)]

end ShaderPreview.Diagnostic
