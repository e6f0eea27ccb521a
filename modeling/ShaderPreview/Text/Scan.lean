import ShaderPreview.Text.Blank
import ShaderPreview.Text.Character
import ShaderPreview.Text.Digit
import ShaderPreview.Text.Search

/-!
# Pattern matching

Backtracking matchers in continuation style: each step takes the matcher of what follows. `blanks`
is greedy and `lineText` is lazy; the first alternative that the continuation accepts is taken.
`findAll` gives the leftmost non-overlapping matches of a text.
-/

namespace ShaderPreview.Text

/-- Matcher at the beginning of a text. -/
abbrev Scan (α : Type) := List Char → Option α

variable {α : Type}

def caseless (word : String) (next : Scan α) : Scan α := fun text =>
  (dropCaseless? word.toList text).bind next

def char (c : Char) (next : Scan α) : Scan α
  | [] => none
  | d :: rest => if d = c then next rest else none

/-- Greedy run of blanks, with backtracking. -/
def blanks (next : Scan α) : Scan α
  | [] => next []
  | c :: rest =>
    if isBlank c then (blanks next rest).or (next (c :: rest)) else next (c :: rest)

/-- Greedy non-empty run of blanks, with backtracking. -/
def someBlanks (next : Scan α) : Scan α
  | [] => none
  | c :: rest => if isBlank c then blanks next rest else none

/-- Maximal run of digits. -/
def digits (next : List Char → Scan α) : Scan α := fun text =>
  let run := text.takeWhile isDigit
  if run.isEmpty then none else next run (text.dropWhile isDigit)

/-- Ordered choice. -/
def either (first second : Scan α) : Scan α := fun text => (first text).or (second text)

/-- Optional match, preferred if the rest then matches. -/
def optional (step : Scan α → Scan α) (next : Scan α) : Scan α := either (step next) next

/-- Lazy non-empty run of characters other than a line feed. -/
def lineText (next : Scan α) : Scan α
  | [] => none
  | c :: rest => if c = '\n' then none else (next rest).or (lineText next rest)

/-- Non-empty rest of the line. -/
def restOfLine (next : List Char → Scan α) : Scan α := fun text =>
  let run := text.takeWhile (· ≠ '\n')
  if run.isEmpty then none else next run (text.dropWhile (· ≠ '\n'))

/-- Leftmost non-overlapping matches, each found with the character before it. -/
def findFrom (find : Option Char → Scan (α × List Char)) :
    Option Char → Nat → List Char → List (α × List Char)
  | _, _, [] => []
  | _, skip + 1, c :: text => findFrom find (some c) skip text
  | before, 0, c :: text => match find before (c :: text) with
    | some (answer, rest) =>
      (answer, between (c :: text) rest) ::
        findFrom find (some c) (text.length - rest.length) text
    | none => findFrom find (some c) 0 text

/-- Leftmost non-overlapping matches with the text they cover. -/
def findAll (find : Option Char → Scan (α × List Char)) (text : List Char) :
    List (α × List Char) :=
  findFrom find none 0 text

def occurs (find : Scan Unit) : List Char → Bool
  | [] => (find []).isSome
  | c :: rest => (find (c :: rest)).isSome || occurs find rest

def removeFrom (find : Scan (List Char)) : Nat → List Char → List Char
  | _, [] => []
  | skip + 1, _ :: text => removeFrom find skip text
  | 0, c :: text => match find (c :: text) with
    | some rest => removeFrom find (text.length - rest.length) text
    | none => c :: removeFrom find 0 text

/-- Removes all matches. -/
def removeAll (find : Scan (List Char)) (text : List Char) : List Char := removeFrom find 0 text

end ShaderPreview.Text
