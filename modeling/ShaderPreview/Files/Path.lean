import ShaderPreview.Text.Search

/-!
# Paths

Paths with `/` as separator; a leading `/` makes a path absolute. Paths are joined as text: empty
and `.` components are kept.
-/

namespace ShaderPreview

/-- A path as written; nothing is normalised. -/
structure Path where
  text : String
  deriving DecidableEq, Repr, Inhabited

namespace Path

def empty : Path := ⟨""⟩

def isEmpty (path : Path) : Bool := path.text.toList.isEmpty

def isAbsolute (path : Path) : Bool := path.text.toList.head? == some '/'

/-- A separator has to be inserted before the joined path. -/
def needsSlash (path : Path) : Bool :=
  match path.text.toList.getLast? with
  | none => false
  | some last => last != '/'

/-- Appends `path` to `base`; an absolute `path` replaces `base`. -/
def join (base path : Path) : Path :=
  if path.isAbsolute then path
  else if base.needsSlash then ⟨base.text ++ "/" ++ path.text⟩
  else ⟨base.text ++ path.text⟩

@[simp] theorem join_absolute {base path : Path} (h : path.isAbsolute = true) :
    base.join path = path := by simp [join, h]

/-! ### Steps -/

def stepsOf (text : List Char) : List (List Char) := Text.splitAt (· == '/') text

/-- Empty and `.` components do not move. -/
def isIdle (step : List Char) : Bool := step.isEmpty || step == ['.']

/-- Splits off the root or a leading `.` component. -/
def splitLead : List Char → List Char × List Char
  | '/' :: rest => (['/'], rest)
  | ['.'] => (['.'], [])
  | '.' :: '/' :: rest => (['.'], '/' :: rest)
  | text => ([], text)

/-- Components in reverse, without trailing idle ones. -/
def movesBack (path : Path) : List (List Char) :=
  (stepsOf (splitLead path.text.toList).2).reverse.dropWhile isIdle

/-- The path without its last component; the root and the empty path have none. -/
def parent? (path : Path) : Option Path :=
  let lead := (splitLead path.text.toList).1
  match path.movesBack with
  | [] => if lead = ['.'] then some empty else none
  | _ :: before =>
    let steps := (before.dropWhile isIdle).reverse
    some ⟨String.ofList (lead ++ List.intercalate ['/'] steps)⟩

/-- The part of the file name after its last dot, unless the name begins with that dot. -/
def extension? (path : Path) : Option (List Char) :=
  match path.movesBack with
  | [] => none
  | name :: _ =>
    if name = ['.', '.'] then none
    else match Text.cutAt? (· == '.') name.reverse with
      | some (after, before) => if before.isEmpty then none else some after.reverse
      | none => none

end Path

end ShaderPreview
