import Mathlib.Data.List.Basic
import ShaderPreview.Proofs.Text.Acceptance

/-!
# Matching a concatenation

If a text is the concatenation of the parts that the steps of a matcher read, each step reads its
part. Along a text, a matcher that ignores the preceding character restarts after each match.
-/

namespace ShaderPreview.Text

variable {α : Type} {first next : Scan α}

/-! ### Steps -/

theorem caseless_written {word : String} {written : List Char}
    (h : written.map foldCase = word.toList) (rest : List Char) :
    caseless word next (written ++ rest) = next rest := by
  have hdrop : dropCaseless? word.toList (written ++ rest) = some rest :=
    (dropCaseless?_eq_some _ _ _).2 ⟨written, rfl, h⟩
  rw [caseless, hdrop, Option.bind_some]

theorem caseless_other {word : String} {w c : Char} {letters : List Char}
    (hword : word.toList = w :: letters) (hc : foldCase c ≠ w) (rest : List Char) :
    caseless word next (c :: rest) = none := by
  rw [caseless, hword, dropCaseless?, if_neg hc, Option.bind_none]

theorem char_written (c : Char) (rest : List Char) : char c next (c :: rest) = next rest :=
  if_pos rfl

theorem char_other {c d : Char} (h : d ≠ c) (rest : List Char) :
    char c next (d :: rest) = none :=
  if_neg h

theorem digits_written {next : List Char → Scan α} {run rest : List Char} (hne : run ≠ [])
    (hrun : ∀ c ∈ run, isDigit c = true) (hrest : ∀ c ∈ rest.head?, isDigit c = false) :
    digits next (run ++ rest) = next run rest := by
  have hstop : rest.takeWhile isDigit = [] ∧ rest.dropWhile isDigit = rest := by
    cases rest with
    | nil => exact ⟨rfl, rfl⟩
    | cons c rest =>
      have hc : isDigit c = false := hrest c rfl
      simp only [List.takeWhile_cons, List.dropWhile_cons, hc, Bool.false_eq_true, if_false,
        and_self]
  have htake : (run ++ rest).takeWhile isDigit = run := by
    rw [List.takeWhile_append_of_pos hrun, hstop.1, List.append_nil]
  have hdrop : (run ++ rest).dropWhile isDigit = rest := by
    rw [List.dropWhile_append_of_pos hrun, hstop.2]
  simp only [digits, htake, hdrop, List.isEmpty_eq_false_iff.2 hne, Bool.false_eq_true, if_false]

theorem blanks_written {gap rest : List Char} (hgap : ∀ c ∈ gap, isBlank c = true)
    (hrest : ∀ c ∈ rest.head?, isBlank c = false) (hnext : (next rest).isSome = true) :
    blanks next (gap ++ rest) = next rest := by
  induction gap with
  | nil =>
    cases rest with
    | nil => rfl
    | cons c rest =>
      have hc : isBlank c = false := hrest c rfl
      rw [List.nil_append, blanks, hc, if_neg Bool.false_ne_true]
  | cons c gap ih =>
    obtain ⟨hc, hgap⟩ := List.forall_mem_cons.1 hgap
    rw [List.cons_append, blanks, if_pos hc, ih hgap]
    exact Option.or_of_isSome hnext

theorem someBlanks_written {gap rest : List Char} (hne : gap ≠ [])
    (hgap : ∀ c ∈ gap, isBlank c = true) (hrest : ∀ c ∈ rest.head?, isBlank c = false)
    (hnext : (next rest).isSome = true) : someBlanks next (gap ++ rest) = next rest := by
  cases gap with
  | nil => contradiction
  | cons c gap =>
    obtain ⟨hc, hgap⟩ := List.forall_mem_cons.1 hgap
    rw [List.cons_append, someBlanks, if_pos hc]
    exact blanks_written hgap hrest hnext

theorem blankOrColon_written {gap rest : List Char} (hne : gap ≠ [])
    (hgap : ∀ c ∈ gap, isBlank c = true) (hrest : ∀ c ∈ rest.head?, isBlank c = false ∧ c ≠ ':')
    (hnext : (next rest).isSome = true) :
    blanks (either (char ':' first) (someBlanks next)) (gap ++ rest) = next rest := by
  induction gap with
  | nil => contradiction
  | cons c gap ih =>
    obtain ⟨hc, hmore⟩ := List.forall_mem_cons.1 hgap
    rw [List.cons_append, blanks, if_pos hc]
    cases gap with
    | nil =>
      have hcolon : c ≠ ':' := by
        rintro rfl
        exact absurd hc (by decide)
      have hhere : either (char ':' first) (someBlanks next) (c :: rest) = next rest := by
        rw [either, char_other hcolon, Option.none_or]
        exact someBlanks_written (List.cons_ne_nil c []) hgap (fun d hd => (hrest d hd).1) hnext
      have hbehind : blanks (either (char ':' first) (someBlanks next)) rest = none := by
        cases rest with
        | nil => rfl
        | cons d rest =>
          obtain ⟨hd, hother⟩ := hrest d rfl
          rw [blanks, hd, if_neg Bool.false_ne_true, either, char_other hother, someBlanks, hd,
            if_neg Bool.false_ne_true, Option.or_none]
      rw [List.nil_append, hbehind, Option.none_or, hhere]
    | cons d gap =>
      rw [ih (List.cons_ne_nil d gap) hmore]
      exact Option.or_of_isSome hnext

theorem restOfLine_written {next : List Char → Scan α} {line rest : List Char} (hne : line ≠ [])
    (hline : '\n' ∉ line) (hrest : ∀ c ∈ rest.head?, c = '\n') :
    restOfLine next (line ++ rest) = next line rest := by
  have hpart : ∀ c ∈ line, decide (c ≠ '\n') = true := by
    intro c hc
    rw [decide_eq_true_eq]
    rintro rfl
    exact hline hc
  have hstop : rest.takeWhile (· ≠ '\n') = [] ∧ rest.dropWhile (· ≠ '\n') = rest := by
    cases rest with
    | nil => exact ⟨rfl, rfl⟩
    | cons c rest =>
      obtain rfl : c = '\n' := hrest c rfl
      exact ⟨rfl, rfl⟩
  have htake : (line ++ rest).takeWhile (· ≠ '\n') = line := by
    rw [List.takeWhile_append_of_pos hpart, hstop.1, List.append_nil]
  have hdrop : (line ++ rest).dropWhile (· ≠ '\n') = rest := by
    rw [List.dropWhile_append_of_pos hpart, hstop.2]
  simp only [restOfLine, htake, hdrop, List.isEmpty_eq_false_iff.2 hne, Bool.false_eq_true,
    if_false]

theorem lineText_written {read rest : List Char} (hne : read ≠ []) (hline : '\n' ∉ read)
    (hnext : (next rest).isSome = true)
    (hearlier : ∀ first more, read = first ++ more → first ≠ [] → more ≠ [] →
      next (more ++ rest) = none) :
    lineText next (read ++ rest) = next rest := by
  induction read with
  | nil => contradiction
  | cons c read ih =>
    obtain ⟨hc, hread⟩ := not_or.1 (mt List.mem_cons.2 hline)
    rw [List.cons_append, lineText, if_neg (Ne.symm hc)]
    cases read with
    | nil => exact Option.or_of_isSome hnext
    | cons d read =>
      have hfirst : next ((d :: read) ++ rest) = none :=
        hearlier [c] (d :: read) rfl (List.cons_ne_nil _ _) (List.cons_ne_nil _ _)
      rw [hfirst, Option.none_or]
      refine ih (List.cons_ne_nil _ _) hread fun first more hsplit hfirst hmore => ?_
      exact hearlier (c :: first) more (congrArg (c :: ·) hsplit) (List.cons_ne_nil _ _) hmore

/-! ### Readings -/

section

variable {find : Option Char → Scan (α × List Char)}

theorem findFrom_skip (hblind : ∀ before, find before = find none) (before : Option Char)
    (skip : Nat) (text : List Char) :
    findFrom find before skip text = findAll find (text.drop skip) := by
  induction text generalizing before skip with
  | nil =>
    rw [List.drop_nil]
    rfl
  | cons c text ih =>
    cases skip with
    | zero => rw [List.drop_zero, findAll, findFrom, findFrom, hblind before]
    | succ skip => exact ih (some c) skip

theorem findAll_read (hblind : ∀ before, find before = find none) {read rest : List Char}
    {answer : α} (hne : read ≠ []) (hfind : find none (read ++ rest) = some (answer, rest)) :
    findAll find (read ++ rest) = (answer, read) :: findAll find rest := by
  cases read with
  | nil => contradiction
  | cons c read =>
    rw [List.cons_append] at hfind ⊢
    have hskip : (read ++ rest).length - rest.length = read.length := by
      rw [List.length_append, Nat.add_sub_cancel]
    rw [findAll, findFrom, hfind]
    simp only [findFrom_skip hblind, hskip, List.drop_left, ← List.cons_append, between_append]

theorem findAll_pass (hblind : ∀ before, find before = find none) {c : Char} {text : List Char}
    (hfind : find none (c :: text) = none) : findAll find (c :: text) = findAll find text := by
  rw [findAll, findFrom, hfind]
  exact findFrom_skip hblind (some c) 0 text

theorem findAll_nothing (hblind : ∀ before, find before = find none) {text : List Char}
    (h : ∀ part, part <:+ text → find none part = none) : findAll find text = [] := by
  induction text with
  | nil => rfl
  | cons c text ih =>
    rw [findAll_pass hblind (h _ List.suffix_rfl)]
    exact ih fun part hpart => h part (hpart.trans (List.suffix_cons c text))

end

/-! ### Decimal numerals -/

theorem isDigit_of_ascii {c : Char} (h : c.isDigit = true) : isDigit c = true := by
  rw [Char.isDigit_iff_toNat] at h
  rw [isDigit, inRanges_iff]
  exact ⟨(0x30, 0x39), List.mem_cons_self, h⟩

theorem digitsFrom?_ascii (text : List Char) (h : ∀ c ∈ text, c.isDigit = true) (value : Nat) :
    digitsFrom? value text = some (Nat.ofDigitChars 10 text value) := by
  induction text generalizing value with
  | nil => rfl
  | cons c text ih =>
    obtain ⟨hc, htext⟩ := List.forall_mem_cons.1 h
    have hdigit : digitValue? c = some (c.toNat - '0'.toNat) := by
      rw [Char.isDigit_iff_toNat] at hc
      exact if_pos hc
    rw [digitsFrom?, hdigit, Nat.ofDigitChars_cons]
    exact ih htext _

theorem toList_toString (n : Nat) : (toString n).toList = decimal n := by
  rw [Nat.toString_eq_ofList_toDigits, String.toList_ofList]
  rfl

theorem decimal_ascii (n : Nat) : ∀ c ∈ decimal n, c.isDigit = true := fun _ hc =>
  Nat.isDigit_of_mem_toDigits (Nat.succ_pos 9) (Nat.le_refl 10) hc

theorem decimal_ne_nil (n : Nat) : decimal n ≠ [] := Nat.toDigits_ne_nil

end ShaderPreview.Text
