import ShaderPreview.Files.Fault
import ShaderPreview.Number.Reading
import ShaderPreview.Text.Blank
import ShaderPreview.Text.Place

/-!
# Material libraries

Only the names of the materials are used. A library with a line that cannot be parsed is ignored.
-/

namespace ShaderPreview.Material

open Text

/-- Lines of a file; `none` where a line is not valid UTF-8. -/
def linesOf (contents : List UInt8) : List (Option (List Char)) :=
  (Text.splitAt (· == newline) contents).map fun line => (textOf? line).map (·.toList)

def hasNumbers (count : Nat) (words : List (List Char)) : Bool :=
  let numbers := words.take count
  numbers.length == count && numbers.all fun word => (Single.read? word).isSome

def numberWords : List (String × Nat) :=
  [("Ka", 3), ("Kd", 3), ("Ks", 3), ("Ns", 1), ("Ni", 1), ("d", 1)]

def fileWords : List String :=
  ["map_Ka", "map_Kd", "map_Ks", "map_Ns", "map_Bump", "map_bump", "bump", "map_d"]

def isReadable (word : List Char) (rest : List (List Char)) : Bool :=
  let word := String.ofList word
  match numberWords.lookup word with
  | some count => hasNumbers count rest
  | none =>
    if fileWords.contains word || word == "newmtl" then !rest.isEmpty
    else if word == "illum" then (rest.head?.bind (unsigned? 256)).isSome
    else true

def introduced (line : List Char) : List Char := trim ((trim line).drop "newmtl".length)

def readLine (names : List (List Char)) (line : Option (List Char)) :
    Option (List (List Char)) :=
  match line with
  | none => none
  | some line => match blankSeparated line with
    | [] => some names
    | word :: rest =>
      if isReadable word rest = false then none
      else if word = "newmtl".toList then some (names ++ [introduced line])
      else some names

/-- Names of the materials of a library in order; `none` if some line cannot be parsed. -/
def namesIn (contents : List UInt8) : Option (List (List Char)) :=
  (linesOf contents).foldlM readLine []

end ShaderPreview.Material
