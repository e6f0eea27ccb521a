/-!
# Similarity of words

Jaro similarity: the mean of the matched share of either word and the share of matches in order.
-/

namespace ShaderPreview.Text

/-- Marks the first unmarked occurrence of a character in a window. -/
def markNear (c : Char) : Nat → Nat → List (Char × Bool) → Option (List (Char × Bool))
  | _, _, [] => none
  | skip + 1, width, entry :: rest => (markNear c skip width rest).map (entry :: ·)
  | 0, 0, _ => none
  | 0, width + 1, entry :: rest =>
    if entry.1 = c ∧ entry.2 = false then some ((c, true) :: rest)
    else (markNear c 0 width rest).map (entry :: ·)

def matchedFrom (reach : Nat) : Nat → List Char → List (Char × Bool) →
    List Char × List (Char × Bool)
  | _, [], marked => ([], marked)
  | i, c :: rest, marked =>
    let start := i - reach
    match markNear c start (i + reach + 1 - start) marked with
    | some marked =>
      let (found, marked) := matchedFrom reach (i + 1) rest marked
      (c :: found, marked)
    | none => matchedFrom reach (i + 1) rest marked

def matchReach (a b : List Char) : Nat := max a.length b.length / 2 - 1

/-- Matching characters of two words, in the order of each. -/
def matching (a b : List Char) : List Char × List Char :=
  let (found, marked) := matchedFrom (matchReach a b) 0 a (b.map (·, false))
  (found, (marked.filter (·.2)).map (·.1))

def transpositions (a b : List Char) : Nat := (a.zip b).countP (fun pair => pair.1 ≠ pair.2) / 2

/-- Jaro similarity of at least 0.7. -/
def isSimilar (a b : List Char) : Bool :=
  let (inA, inB) := matching a b
  let found := inA.length
  let ordered := found - transpositions inA inB
  let (sizeA, sizeB) := (a.length, b.length)
  0 < found && 21 * sizeA * sizeB * found ≤
    10 * (found * found * (sizeA + sizeB) + ordered * sizeA * sizeB)

end ShaderPreview.Text
