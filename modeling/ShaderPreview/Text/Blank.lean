import ShaderPreview.Text.Character
import ShaderPreview.Text.Search

/-!
# White space

The Unicode property White_Space, and trimming. The zero width space, the byte order mark and the
information separators are not white space.
-/

namespace ShaderPreview.Text

/-- Unicode property White_Space. -/
def blankRanges : List (Nat × Nat) :=
  [(0x9, 0xd), (0x20, 0x20), (0x85, 0x85), (0xa0, 0xa0), (0x1680, 0x1680), (0x2000, 0x200a),
   (0x2028, 0x2029), (0x202f, 0x202f), (0x205f, 0x205f), (0x3000, 0x3000)]

def isBlank (c : Char) : Bool := inRanges blankRanges c

def trimStart (text : List Char) : List Char := text.dropWhile isBlank

def trimEnd (text : List Char) : List Char := (text.reverse.dropWhile isBlank).reverse

def trim (text : List Char) : List Char := trimEnd (trimStart text)

def blankSeparated (text : List Char) : List (List Char) :=
  (splitAt isBlank text).filter fun run => !run.isEmpty

theorem trimStart_head_not_blank {text rest : List Char} {c : Char}
    (h : trimStart text = c :: rest) : isBlank c = false := by
  have := List.head?_dropWhile_not isBlank text
  simp only [trimStart] at h
  simpa [h] using this

end ShaderPreview.Text
