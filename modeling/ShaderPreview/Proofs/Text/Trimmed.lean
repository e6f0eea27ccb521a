import Mathlib.Data.List.DropRight
import ShaderPreview.Proofs.Text.Padding
import ShaderPreview.Proofs.Text.Written

/-!
# Trimming and numerals

Trimming removes exactly the outer blanks. If a text is split at a non-blank character, trimming the
whole trims the outer end of each part.

A numeral with outer blanks parses exactly if its value is below the bound; its value is unique.
-/

namespace ShaderPreview.Text

/-- No blank at either end. -/
structure Trimmed (text : List Char) : Prop where
  first : ∀ c ∈ text.head?, isBlank c = false
  last : ∀ c ∈ text.getLast?, isBlank c = false

theorem trimEnd_eq (text : List Char) : trimEnd text = text.rdropWhile isBlank := rfl

theorem trimmed_trim (text : List Char) : Trimmed (trim text) := by
  have hend : trim text = (trimStart text).rdropWhile isBlank := trimEnd_eq _
  have hprefix : trim text <+: trimStart text := by
    rw [hend]
    exact List.rdropWhile_prefix isBlank _
  constructor
  · intro c hc
    cases htrim : trim text with
    | nil =>
      rw [htrim] at hc
      cases hc
    | cons d rest =>
      rw [htrim] at hc hprefix
      obtain ⟨after, hafter⟩ := hprefix
      cases hc
      exact trimStart_head_not_blank hafter.symm
  · intro c hc
    have hne : trim text ≠ [] := by
      rintro hnil
      rw [hnil] at hc
      cases hc
    rw [hend] at hc hne
    have hlast := List.rdropWhile_last_not isBlank (trimStart text) hne
    rw [List.getLast?_eq_getLast_of_ne_nil hne] at hc
    cases hc
    exact Bool.eq_false_iff.2 hlast

theorem Trimmed.trim {text : List Char} (h : Trimmed text) : Text.trim text = text := by
  have hstart : trimStart text = text := by
    cases text with
    | nil => rfl
    | cons c rest => exact List.dropWhile_cons_of_neg (Bool.eq_false_iff.1 (h.first c rfl))
  rw [Text.trim, hstart, trimEnd_eq, List.rdropWhile_eq_self_iff]
  exact fun hne => Bool.eq_false_iff.1 (h.last _ (List.getLast?_eq_getLast_of_ne_nil hne))

theorem trimStart_trimStart (text : List Char) : trimStart (trimStart text) = trimStart text :=
  List.dropWhile_idempotent _ text

theorem trim_trimStart (text : List Char) : trim (trimStart text) = trim text := by
  rw [trim, trimStart_trimStart, trim]

theorem trim_trimEnd (text : List Char) : trim (trimEnd text) = trim text :=
  (padded_trimEnd text).trim

/-! ### Blanks around a text -/

/-- The second text is the first surrounded by blanks. -/
def Spaced (text spaced : List Char) : Prop :=
  ∃ lead trail, (∀ c ∈ lead, isBlank c = true) ∧ (∀ c ∈ trail, isBlank c = true) ∧
    spaced = lead ++ text ++ trail

theorem Spaced.refl (text : List Char) : Spaced text text :=
  ⟨[], [], nofun, nofun, (List.append_nil text).symm⟩

theorem spaced_trim (text : List Char) : Spaced (trim text) text := by
  obtain ⟨trail, htrail, hrest⟩ := padded_trimEnd (trimStart text)
  refine ⟨text.takeWhile isBlank, trail, fun c hc => List.mem_takeWhile_imp hc, htrail, ?_⟩
  rw [List.append_assoc, trim, ← hrest]
  exact List.takeWhile_append_dropWhile.symm

theorem Spaced.trim {text spaced : List Char} (h : Spaced text spaced) :
    Text.trim spaced = Text.trim text := by
  obtain ⟨lead, trail, hlead, htrail, rfl⟩ := h
  have hstart : trimStart (lead ++ text ++ trail) = trimStart (text ++ trail) := by
    rw [List.append_assoc]
    exact List.dropWhile_append_of_pos hlead
  have hpadded : Padded text (text ++ trail) := ⟨trail, htrail, rfl⟩
  rw [Text.trim, hstart, ← Text.trim, ← hpadded.trim]

theorem trim_eq_iff {text left : List Char} :
    trim text = left ↔ Trimmed left ∧ Spaced left text := by
  constructor
  · rintro rfl
    exact ⟨trimmed_trim text, spaced_trim text⟩
  · rintro ⟨htrimmed, hspaced⟩
    rw [hspaced.trim, htrimmed.trim]

theorem trim_eq_nil_iff {text : List Char} :
    trim text = [] ↔ ∀ c ∈ text, isBlank c = true := by
  rw [trim_eq_iff]
  constructor
  · rintro ⟨_, lead, trail, hlead, htrail, rfl⟩
    rw [List.append_nil]
    exact List.forall_mem_append.2 ⟨hlead, htrail⟩
  · intro hblank
    exact ⟨⟨nofun, nofun⟩, text, [], hblank, nofun, by simp⟩

/-! ### Parts of a text -/

theorem trimEnd_append {text : List Char} (before : List Char) (h : trimEnd text ≠ []) :
    trimEnd (before ++ text) = before ++ trimEnd text := by
  have hreverse : (text.reverse.dropWhile isBlank).isEmpty = false := by
    rw [List.isEmpty_eq_false_iff]
    intro hnil
    refine h ?_
    rw [trimEnd, hnil]
    rfl
  rw [trimEnd, List.reverse_append, List.dropWhile_append, hreverse, if_neg Bool.false_ne_true,
    List.reverse_append, List.reverse_reverse]
  rfl

theorem trimStart_cut {c : Char} (hc : isBlank c = false) (before after : List Char) :
    trimStart (before ++ c :: after) = trimStart before ++ c :: after := by
  rw [trimStart, List.dropWhile_append, List.dropWhile_cons_of_neg (Bool.eq_false_iff.1 hc)]
  split
  · rename_i hempty
    rw [trimStart, List.isEmpty_iff.1 hempty, List.nil_append]
  · rfl

theorem trimEnd_cons {c : Char} (hc : isBlank c = false) (text : List Char) :
    trimEnd (c :: text) = c :: trimEnd text := by
  rw [trimEnd, List.reverse_cons, List.dropWhile_append,
    List.dropWhile_cons_of_neg (Bool.eq_false_iff.1 hc)]
  split
  · rename_i hempty
    rw [trimEnd, List.isEmpty_iff.1 hempty]
    rfl
  · rw [List.reverse_append, ← trimEnd]
    rfl

theorem trim_cut {c : Char} (hc : isBlank c = false) (before after : List Char) :
    trim (before ++ c :: after) = trimStart before ++ c :: trimEnd after := by
  have hsome : trimEnd (c :: after) ≠ [] := by
    rw [trimEnd_cons hc]
    exact List.cons_ne_nil _ _
  rw [trim, trimStart_cut hc, trimEnd_append _ hsome, trimEnd_cons hc]

/-! ### Numerals -/

theorem ascii_not_blank {c : Char} (h : c.isDigit = true) : isBlank c = false := by
  rw [← Bool.not_eq_true]
  intro hblank
  have hdigit := isDigit_blank hblank
  rw [isDigit_of_ascii h] at hdigit
  cases hdigit

/-- Optional plus sign and ASCII digits with this value. -/
def Numeral (text : List Char) (value : Nat) : Prop :=
  ∃ digits, digits ≠ [] ∧ (∀ c ∈ digits, c.isDigit = true) ∧
    (text = digits ∨ text = '+' :: digits) ∧ Nat.ofDigitChars 10 digits 0 = value

/-- Numeral surrounded by blanks. -/
def SpacedNumeral (text : List Char) (value : Nat) : Prop :=
  ∃ numeral, Numeral numeral value ∧ Spaced numeral text

/-! ### Reading digits -/

theorem ascii_of_digitValue? {c : Char} {digit : Nat} (h : digitValue? c = some digit) :
    c.isDigit = true := by
  obtain ⟨hrange, _⟩ := Option.ite_none_right_eq_some.1 h
  exact Char.isDigit_iff_toNat.2 hrange

theorem ascii_of_digitsFrom? {text : List Char} {before value : Nat}
    (h : digitsFrom? before text = some value) : ∀ c ∈ text, c.isDigit = true := by
  induction text generalizing before with
  | nil => nofun
  | cons c rest ih =>
    rw [digitsFrom?] at h
    cases hc : digitValue? c with
    | none =>
      rw [hc] at h
      cases h
    | some digit =>
      rw [hc] at h
      exact List.forall_mem_cons.2 ⟨ascii_of_digitValue? hc, ih h⟩

theorem digits?_eq_some {text : List Char} {value : Nat} : digits? text = some value ↔
    text ≠ [] ∧ (∀ c ∈ text, c.isDigit = true) ∧ Nat.ofDigitChars 10 text 0 = value := by
  cases text with
  | nil => exact ⟨nofun, fun h => absurd rfl h.1⟩
  | cons c rest =>
    have hread : digits? (c :: rest) = digitsFrom? 0 (c :: rest) := rfl
    rw [hread]
    constructor
    · intro h
      have hascii := ascii_of_digitsFrom? h
      rw [digitsFrom?_ascii _ hascii] at h
      exact ⟨List.cons_ne_nil _ _, hascii, Option.some.inj h⟩
    · rintro ⟨_, hascii, rfl⟩
      exact digitsFrom?_ascii _ hascii 0

/-! ### Reading numerals -/

theorem numeral_plus {digits : List Char} {value : Nat} (h : digits? digits = some value) :
    Numeral ('+' :: digits) value := by
  obtain ⟨hne, hascii, hvalue⟩ := digits?_eq_some.1 h
  exact ⟨digits, hne, hascii, .inr rfl, hvalue⟩

theorem numeral_bare {digits : List Char} {value : Nat} (h : digits? digits = some value) :
    Numeral digits value := by
  obtain ⟨hne, hascii, hvalue⟩ := digits?_eq_some.1 h
  exact ⟨digits, hne, hascii, .inl rfl, hvalue⟩

theorem unsigned?_numeral {text : List Char} {value : Nat} (h : Numeral text value) (bound : Nat) :
    unsigned? bound text = if value < bound then some value else none := by
  obtain ⟨digits, hne, hascii, htext, hvalue⟩ := h
  have hread : digits? digits = some value := digits?_eq_some.2 ⟨hne, hascii, hvalue⟩
  obtain rfl | rfl := htext
  · -- the sign is no digit, so the text begins with none
    unfold unsigned?
    split
    · rename_i rest
      exact absurd (hascii '+' List.mem_cons_self) (by decide)
    · simp only [hread]
  · simp only [unsigned?, hread]

theorem unsigned?_eq_some {bound value : Nat} {text : List Char} :
    unsigned? bound text = some value ↔ Numeral text value ∧ value < bound := by
  constructor
  · intro h
    refine ⟨?_, unsigned?_lt h⟩
    simp only [unsigned?] at h
    split at h
    · next found hread =>
      obtain ⟨_, hfound⟩ := Option.ite_none_right_eq_some.1 h
      obtain rfl := Option.some.inj hfound
      split at hread
      · exact numeral_plus hread
      · exact numeral_bare hread
    · cases h
  · rintro ⟨hnumeral, hlt⟩
    rw [unsigned?_numeral hnumeral, if_pos hlt]

theorem numeral_decimal (n : Nat) : Numeral (decimal n) n := by
  refine ⟨decimal n, decimal_ne_nil n, decimal_ascii n, .inl rfl, ?_⟩
  exact Nat.ofDigitChars_toDigits (by decide) (by decide)

theorem word32?_decimal {n : Nat} (h : n < word32Bound) : word32? (decimal n) = some n :=
  unsigned?_eq_some.2 ⟨numeral_decimal n, h⟩

/-! ### Blanks around a numeral -/

theorem Numeral.char {text : List Char} {value : Nat} (h : Numeral text value) :
    ∀ c ∈ text, c.isDigit = true ∨ c = '+' := by
  obtain ⟨digits, _, hascii, rfl | rfl, _⟩ := h
  · exact fun c hc => .inl (hascii c hc)
  · exact List.forall_mem_cons.2 ⟨.inr rfl, fun c hc => .inl (hascii c hc)⟩

theorem Numeral.trimmed {text : List Char} {value : Nat} (h : Numeral text value) :
    Trimmed text := by
  have hbare : ∀ c ∈ text, isBlank c = false := by
    intro c hc
    obtain hdigit | rfl := h.char c hc
    · exact ascii_not_blank hdigit
    · decide
  exact ⟨fun c hc => hbare c (List.mem_of_mem_head? hc),
    fun c hc => hbare c (List.mem_of_getLast? hc)⟩

theorem spacedNumeral_decimal (n : Nat) : SpacedNumeral (decimal n) n :=
  ⟨decimal n, numeral_decimal n, .refl _⟩

theorem spacedNumeral_iff {text : List Char} {value : Nat} :
    SpacedNumeral text value ↔ Numeral (trim text) value := by
  constructor
  · rintro ⟨numeral, hnumeral, hspaced⟩
    rwa [trim_eq_iff.2 ⟨hnumeral.trimmed, hspaced⟩]
  · exact fun h => ⟨trim text, h, spaced_trim text⟩

theorem SpacedNumeral.unique {text : List Char} {first second : Nat}
    (hfirst : SpacedNumeral text first)
    (hsecond : SpacedNumeral text second) : first = second := by
  have hread := unsigned?_numeral (spacedNumeral_iff.1 hfirst) (first + second + 1)
  rw [unsigned?_numeral (spacedNumeral_iff.1 hsecond), if_pos (by omega),
    if_pos (by omega)] at hread
  exact (Option.some.inj hread).symm

theorem SpacedNumeral.absent {text : List Char} {value : Nat} (h : SpacedNumeral text value)
    {c : Char}
    (hblank : isBlank c = false) (hdigit : c.isDigit = false) (hplus : c ≠ '+') : c ∉ text := by
  obtain ⟨numeral, hnumeral, lead, trail, hlead, htrail, rfl⟩ := h
  have hgap {gap : List Char} (hgap : ∀ d ∈ gap, isBlank d = true) : c ∉ gap :=
    fun hc => Bool.eq_false_iff.1 hblank (hgap c hc)
  have hwithin : c ∉ numeral := by
    intro hc
    obtain hc | hc := hnumeral.char c hc
    · exact Bool.eq_false_iff.1 hdigit hc
    · exact hplus hc
  simp only [List.mem_append, not_or]
  exact ⟨⟨hgap hlead, hwithin⟩, hgap htrail⟩

end ShaderPreview.Text
