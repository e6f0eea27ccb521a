import Mathlib.Data.List.Infix
import ShaderPreview.Proofs.Diagnostic.Label

/-!
# Reports about a line

A report has the form `line N: message`. Every word that a search looks for has a character near its
beginning that does not occur before the message, so it is found in the report only if it is found
in the message.
-/

namespace ShaderPreview.Diagnostic

open Text

/-! ### Characters before a message -/

/-- Blank, digit or colon. -/
def Joins (c : Char) : Prop := isBlank c = true ∨ c.isDigit = true ∨ c = ':'

instance (c : Char) : Decidable (Joins c) := inferInstanceAs (Decidable (_ ∨ _))

/-- A character that `line`, in any letter case, or the rest of the opening may contain. -/
def Opens (c : Char) : Prop := foldCase c ∈ "line".toList ∨ Joins c

instance (c : Char) : Decidable (Opens c) := inferInstanceAs (Decidable (_ ∨ _))

variable {c : Char}

/-- Characters that fold to an ASCII letter. -/
def foldedRanges : List (Nat × Nat) :=
  [(0x41, 0x5a), (0x61, 0x7a), (0x17f, 0x17f), (0x212a, 0x212a)]

theorem inRanges_folded (h : 'a' ≤ foldCase c ∧ foldCase c ≤ 'z') :
    inRanges foldedRanges c = true := by
  unfold foldCase at h
  split at h
  · rename_i hs
    rw [hs]
    decide
  split at h
  · rename_i hk
    rw [hk]
    decide
  unfold lowerAscii at h
  split at h
  · rename_i hupper
    exact (inRanges_iff _ c).2 ⟨(0x41, 0x5a), List.mem_cons_self, hupper.1, hupper.2⟩
  · exact (inRanges_iff _ c).2
      ⟨(0x61, 0x7a), List.mem_cons_of_mem _ List.mem_cons_self, h.1, h.2⟩

theorem letter_not_blank (h : 'a' ≤ foldCase c ∧ foldCase c ≤ 'z') : isBlank c = false :=
  not_inRanges_of_apart (by decide) (inRanges_folded h)

theorem letter_not_digit (h : 'a' ≤ foldCase c ∧ foldCase c ≤ 'z') : isDigit c = false :=
  not_inRanges_of_apart (by decide +kernel) (inRanges_folded h)

theorem Joins.not_letter (h : Joins c) : ¬ ('a' ≤ foldCase c ∧ foldCase c ≤ 'z') := by
  intro hletter
  obtain hblank | hdigit | rfl := h
  · rw [letter_not_blank hletter] at hblank
    cases hblank
  · exact (delimits_digit hdigit).2 hletter
  · exact absurd hletter (by decide)

/-! ### Words that begin elsewhere -/

/-- The word does not begin with a joining character, and one of its first four characters cannot
occur in an opening. -/
structure Foreign (word : List Char) : Prop where
  first : ∀ c ∈ word.head?, ¬ Joins c
  early : ∃ c ∈ word.take 4, ¬ Opens c

theorem foreign_iff (word : List Char) : Foreign word ↔
    (word.head?.all fun c => !decide (Joins c)) = true ∧
      ((word.take 4).any fun c => !decide (Opens c)) = true := by
  rw [Option.all_eq_true, List.any_eq_true]
  simp only [Bool.not_eq_true', decide_eq_false_iff_not]
  exact ⟨fun h => ⟨h.first, h.early⟩, fun ⟨hfirst, hearly⟩ => ⟨hfirst, hearly⟩⟩

instance (word : List Char) : Decidable (Foreign word) := decidable_of_iff' _ (foreign_iff word)

theorem Foreign.ne_nil {word : List Char} (h : Foreign word) : word ≠ [] := by
  rintro rfl
  obtain ⟨c, hc, _⟩ := h.early
  cases hc

theorem Foreign.append {word : List Char} (h : Foreign word) (rest : List Char) :
    Foreign (word ++ rest) where
  first := by
    rw [List.head?_append_of_ne_nil _ h.ne_nil]
    exact h.first
  early := by
    obtain ⟨c, hc, hforeign⟩ := h.early
    exact ⟨c, (List.IsPrefix.take (List.prefix_append word rest) 4).subset hc, hforeign⟩

/-- The first letters of a word in lower case, one of which cannot occur in an opening. -/
def Unopened (word : String) : Prop :=
  (∀ w ∈ word.toList.head?, 'a' ≤ w ∧ w ≤ 'z') ∧
    ∃ w ∈ word.toList.take 4, ('a' ≤ w ∧ w ≤ 'z') ∧ w ∉ "line".toList

theorem unopened_iff (word : String) : Unopened word ↔
    (word.toList.head?.all fun w => 'a' ≤ w ∧ w ≤ 'z') = true ∧
      ((word.toList.take 4).any fun w => ('a' ≤ w ∧ w ≤ 'z') ∧ w ∉ "line".toList) = true := by
  rw [Option.all_eq_true, List.any_eq_true]
  simp only [decide_eq_true_iff]
  exact Iff.rfl

instance (word : String) : Decidable (Unopened word) := decidable_of_iff' _ (unopened_iff word)

theorem foreign_spelled {word : String} (h : Unopened word) {written : List Char}
    (hspelled : written.map foldCase = word.toList) : Foreign written := by
  obtain ⟨hfirst, w, hw, hletter, hother⟩ := h
  rw [← hspelled] at hfirst hw
  constructor
  · intro c hc hjoins
    exact hjoins.not_letter (hfirst _ (by rw [List.head?_map, hc]; rfl))
  · rw [← List.map_take] at hw
    obtain ⟨c, hc, rfl⟩ := List.mem_map.1 hw
    exact ⟨c, hc, fun hopens => hopens.elim hother fun hjoins => hjoins.not_letter hletter⟩

theorem foreign_marker : ∀ marker ∈ errorMarkers, Foreign marker.toList := by
  decide +kernel

theorem Writes.spells {word : String} {words : List String} {written : List Char}
    (h : Writes (word :: words) written) :
    ∃ read rest, written = read ++ rest ∧ read.map foldCase = word.toList := by
  cases h with
  | word spelled => exact ⟨written, [], (List.append_nil _).symm, spelled⟩
  | words spelled apart blank continues => exact ⟨_, _, rfl, spelled⟩

theorem foreign_phrase {words : List String} (hwords : words ∈ statusPhrases ++ openings)
    {written : List Char} (h : Writes words written) : Foreign written := by
  have hall : ∀ words ∈ statusPhrases ++ openings,
      words.head?.any (fun word => decide (Unopened word)) = true := by decide +kernel
  have hfirst := hall words hwords
  cases words with
  | nil => cases hfirst
  | cons word words =>
    obtain ⟨read, rest, rfl, hread⟩ := h.spells
    exact (foreign_spelled (of_decide_eq_true hfirst) hread).append rest

/-! ### Reports -/

/-- A message about a line, with its layout. -/
structure LineReport where
  word : String
  gap : String
  line : Nat
  lead : String
  message : String

namespace LineReport

/-- `line N: message`, with `gap` before the number and `lead` before the colon. -/
def print (report : LineReport) : String :=
  s!"{report.word}{report.gap}{report.line}{report.lead}: {report.message}"

/-- The word is `line` in any letter case, only blanks surround the number, and the report is on one
line. -/
structure Printable (report : LineReport) : Prop where
  word : report.word.toList.map foldCase = "line".toList
  apart : report.gap.toList ≠ []
  gap : ∀ c ∈ report.gap.toList, isBlank c = true
  lead : ∀ c ∈ report.lead.toList, isBlank c = true
  oneLine : '\n' ∉ report.print.toList

def joint (report : LineReport) : List Char :=
  report.gap.toList ++ (decimal report.line ++ (report.lead.toList ++ [':', ' ']))

/-- Everything before the message. -/
def opening (report : LineReport) : List Char := report.word.toList ++ report.joint

variable {report : LineReport}

theorem toList_print (report : LineReport) :
    report.print.toList = report.opening ++ report.message.toList := by
  have htext (text : String) : toString text = text := rfl
  simp only [print, htext, String.toList_append, Text.toList_toString, opening, joint,
    List.append_assoc]
  rfl

theorem Printable.joins (h : report.Printable) : ∀ c ∈ report.joint, Joins c := by
  intro c hc
  simp only [joint, List.mem_append, List.mem_cons, List.not_mem_nil, or_false] at hc
  obtain hgap | hline | hlead | rfl | rfl := hc
  · exact .inl (h.gap c hgap)
  · exact .inr (.inl (decimal_ascii _ c hline))
  · exact .inl (h.lead c hlead)
  · exact .inr (.inr rfl)
  · exact .inl rfl

theorem Printable.opens (h : report.Printable) : ∀ c ∈ report.opening, Opens c := by
  intro c hc
  obtain hword | hjoint := List.mem_append.1 hc
  · rw [Opens, ← h.word]
    exact .inl (List.mem_map_of_mem hword)
  · exact .inr (h.joins c hjoint)

theorem Printable.length_joint (h : report.Printable) : 4 ≤ report.joint.length := by
  have hgap := List.length_pos_iff.2 h.apart
  have hline := List.length_pos_iff.2 (decimal_ne_nil report.line)
  simp only [joint, List.length_append, List.length_cons, List.length_nil]
  omega

theorem Printable.word_cons (h : report.Printable) :
    ∃ c letters, report.word.toList = c :: letters ∧ foldCase c = 'l' := by
  obtain ⟨c, letters, hletters, hc, _⟩ := List.map_eq_cons_iff.1 h.word
  exact ⟨c, letters, hletters, hc⟩

theorem Printable.opening_cons (h : report.Printable) :
    ∃ c more, report.opening = c :: more ∧ foldCase c = 'l' := by
  obtain ⟨c, letters, hword, hc⟩ := h.word_cons
  exact ⟨c, letters ++ report.joint, by rw [opening, hword]; rfl, hc⟩

theorem Printable.opening_ne_nil (h : report.Printable) : report.opening ≠ [] := by
  obtain ⟨c, more, hopening, _⟩ := h.opening_cons
  rw [hopening]
  exact List.cons_ne_nil _ _

theorem opening_append (report : LineReport) (text : List Char) :
    report.opening ++ text = report.word.toList ++ (report.gap.toList ++
      (decimal report.line ++ (report.lead.toList ++ ':' :: ' ' :: text))) := by
  simp only [opening, joint, List.append_assoc, List.cons_append, List.nil_append]

theorem Printable.opening_colon (h : report.Printable) :
    ∃ stem, report.opening = stem ++ [':', ' '] ∧ ':' ∉ stem := by
  refine ⟨report.word.toList ++ (report.gap.toList ++ (decimal report.line ++ report.lead.toList)),
    by simp only [opening, joint, List.append_assoc], ?_⟩
  intro hmem
  simp only [List.mem_append] at hmem
  obtain hword | hgap | hline | hlead := hmem
  · have hfold : foldCase ':' ∈ "line".toList := by
      rw [← h.word]
      exact List.mem_map_of_mem hword
    exact absurd hfold (by decide)
  · exact absurd (h.gap _ hgap) (by decide)
  · exact absurd (decimal_ascii _ _ hline) (by decide)
  · exact absurd (h.lead _ hlead) (by decide)

/-! ### What is found in a report -/

theorem Printable.not_prefix (h : report.Printable) {word : List Char} (hforeign : Foreign word)
    {tail : List Char} (htail : tail <:+ report.opening) (hne : tail ≠ []) (text : List Char) :
    ¬ word <+: tail ++ text := by
  intro hprefix
  have hjoint : report.joint <:+ report.opening := List.suffix_append _ _
  obtain hshort | hlong := List.suffix_or_suffix_of_suffix htail hjoint
  · cases tail with
    | nil => contradiction
    | cons c tail =>
      cases word with
      | nil => exact hforeign.ne_nil rfl
      | cons w word =>
        obtain ⟨rfl, _⟩ := List.cons_prefix_cons.1 hprefix
        exact hforeign.first w rfl (h.joins w (hshort.subset List.mem_cons_self))
  · obtain ⟨c, hc, hother⟩ := hforeign.early
    have hlength : (word.take 4).length ≤ tail.length :=
      (List.length_take_le 4 word).trans (h.length_joint.trans hlong.length_le)
    have hwithin : word.take 4 <+: tail := List.prefix_of_prefix_length_le
      ((List.take_prefix 4 word).trans hprefix) (List.prefix_append tail text) hlength
    exact hother (h.opens c (htail.subset (hwithin.subset hc)))

theorem Printable.infix_message (h : report.Printable) {word text : List Char}
    (hforeign : Foreign word) (hword : word <:+: report.opening ++ text) : word <:+: text := by
  have hpast : ∀ opening, opening <:+ report.opening → word <:+: opening ++ text →
      word <:+: text := by
    intro opening hopening hword
    induction opening with
    | nil => exact hword
    | cons c opening ih =>
      obtain hprefix | hinfix := List.infix_cons_iff.1 hword
      · exact absurd hprefix (h.not_prefix hforeign hopening (List.cons_ne_nil _ _) text)
      · exact ih ((List.suffix_cons c opening).trans hopening) hinfix
  exact hpast _ List.suffix_rfl hword

/-! ### Trimming -/

theorem Printable.trim_print (h : report.Printable) (hsome : trimEnd report.message.toList ≠ []) :
    trim report.print.toList = report.opening ++ trimEnd report.message.toList := by
  obtain ⟨c, more, hopening, hc⟩ := h.opening_cons
  have hletter : isBlank c = false := letter_not_blank (by rw [hc]; decide)
  have hstart : trimStart report.print.toList = report.print.toList := by
    rw [toList_print, hopening]
    exact List.dropWhile_cons_of_neg (Bool.eq_false_iff.1 hletter)
  rw [trim, hstart, toList_print, trimEnd_append _ hsome]

/-! ### The number of the line -/

theorem decimal_head (n : Nat) (rest : List Char) :
    ∀ c ∈ (decimal n ++ rest).head?, c.isDigit = true := by
  intro c hc
  rw [List.head?_append_of_ne_nil _ (decimal_ne_nil n)] at hc
  exact decimal_ascii n c (List.mem_of_head? hc)

theorem Printable.lead_head (h : report.Printable) (rest : List Char) :
    ∀ c ∈ (report.lead.toList ++ ':' :: rest).head?, isDigit c = false := by
  have hlead := h.lead
  generalize report.lead.toList = lead at hlead ⊢
  cases lead with
  | nil =>
    rintro _ ⟨rfl⟩
    decide
  | cons d lead =>
    rintro _ ⟨rfl⟩
    exact isDigit_blank (hlead d List.mem_cons_self)

theorem Printable.line_written {α : Type} {next : List Char → Scan α} (h : report.Printable)
    {text : List Char}
    (hnext : (next (decimal report.line)
      (report.lead.toList ++ ':' :: ' ' :: text)).isSome = true) :
    caseless "line" (someBlanks (digits next)) (report.opening ++ text) =
      next (decimal report.line) (report.lead.toList ++ ':' :: ' ' :: text) := by
  have hnumber : digits next
      (decimal report.line ++ (report.lead.toList ++ ':' :: ' ' :: text)) =
      next (decimal report.line) (report.lead.toList ++ ':' :: ' ' :: text) :=
    digits_written (decimal_ne_nil _) (digit_ascii_run _) (h.lead_head _)
  rw [opening_append, caseless_written h.word, someBlanks_written h.apart h.gap]
  · exact hnumber
  · exact fun c hc => ascii_not_blank (decimal_head _ _ c hc)
  · rw [hnumber]
    exact hnext

end LineReport

end ShaderPreview.Diagnostic
