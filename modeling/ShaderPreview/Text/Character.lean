/-!
# Character classes

Classes as lists of code point ranges, both ends included, and case-insensitive comparison by simple
case folding: besides the upper-case letters, the long s (U+017F) folds to `s` and the Kelvin sign
(U+212A) to `k`.
-/

namespace ShaderPreview.Text

def lowerAscii (c : Char) : Char :=
  if 'A' ≤ c ∧ c ≤ 'Z' then Char.ofNat (c.toNat + 32) else c

/-- Simple case folding, as far as it yields an ASCII letter. -/
def foldCase (c : Char) : Char :=
  if c = 'ſ' then 's' else if c = 'K' then 'k' else lowerAscii c

/-- Removes `word`, which is in lower case, from the front of `text`. -/
def dropCaseless? : List Char → List Char → Option (List Char)
  | [], text => some text
  | _ :: _, [] => none
  | w :: word, c :: text => if foldCase c = w then dropCaseless? word text else none

theorem dropCaseless?_length {word text rest : List Char}
    (h : dropCaseless? word text = some rest) : text.length = word.length + rest.length := by
  induction word generalizing text with
  | nil => simp_all [dropCaseless?]
  | cons w word ih =>
    cases text with
    | nil => simp [dropCaseless?] at h
    | cons c text =>
      simp only [dropCaseless?] at h
      split at h
      · simp [ih h, Nat.add_right_comm]
      · simp at h

def inRanges (table : List (Nat × Nat)) (c : Char) : Bool :=
  table.any fun range => range.1 ≤ c.toNat && c.toNat ≤ range.2

theorem inRanges_iff (table : List (Nat × Nat)) (c : Char) :
    inRanges table c = true ↔ ∃ range ∈ table, range.1 ≤ c.toNat ∧ c.toNat ≤ range.2 := by
  simp [inRanges]

variable {first second : List (Nat × Nat)} {c : Char}

theorem not_inRanges_of_lt {table : List (Nat × Nat)} {bound : Nat} (h : c.toNat < bound)
    (hbound : (table.all fun range => bound.ble range.1) = true) : inRanges table c = false := by
  rw [← Bool.not_eq_true, inRanges_iff]
  rintro ⟨range, hrange, hlow, _⟩
  have hfrom := Nat.le_of_ble_eq_true (List.all_eq_true.1 hbound range hrange)
  omega

theorem inRanges_of_first (first : Nat × Nat) (rest : List (Nat × Nat)) {bound : Nat}
    (h : c.toNat < bound) (hbound : (rest.all fun range => bound.ble range.1) = true) :
    inRanges (first :: rest) c = (first.1 ≤ c.toNat && c.toNat ≤ first.2) := by
  rw [inRanges, List.any_cons, show List.any rest _ = inRanges rest c from rfl,
    not_inRanges_of_lt h hbound, Bool.or_false]

theorem not_inRanges_of_apart
    (hapart : ∀ range ∈ first, ∀ other ∈ second, range.2 < other.1 ∨ other.2 < range.1)
    (h : inRanges first c = true) : inRanges second c = false := by
  obtain ⟨range, hrange, hlow, hhigh⟩ := (inRanges_iff first c).1 h
  rw [← Bool.not_eq_true, inRanges_iff]
  rintro ⟨other, hother, hfrom, hto⟩
  have := hapart range hrange other hother
  omega

end ShaderPreview.Text
