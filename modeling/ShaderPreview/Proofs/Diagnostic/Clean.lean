import Mathlib.Data.List.Induction
import ShaderPreview.Diagnostic.Clean
import ShaderPreview.Proofs.Text.Padding
import ShaderPreview.Proofs.Text.Written

/-!
# Cleaning and outer blanks

Cleaning gives the same result with and without outer blanks, since neither preamble markers nor
locations begin or end with a blank.
-/

namespace ShaderPreview.Diagnostic

open Text

/-! ### Blanks behind a message -/

theorem isPrefixOf_padded {word text padded : List Char}
    (hlast : ∀ c ∈ word.getLast?, isBlank c = false) (h : Padded text padded) :
    word.isPrefixOf padded = word.isPrefixOf text := by
  obtain ⟨gap, hgap, rfl⟩ := h
  rw [Bool.eq_iff_iff, List.isPrefixOf_iff_prefix, List.isPrefixOf_iff_prefix]
  refine ⟨?_, fun h => h.trans (List.prefix_append text gap)⟩
  rintro ⟨rest, hrest⟩
  obtain ⟨inner, htext, _⟩ | ⟨last, hword, hlonger⟩ := List.append_eq_append_iff.1 hrest
  · exact ⟨inner, htext.symm⟩
  · -- a word that reaches into the padding would end with a blank
    cases last using List.reverseRecOn with
    | nil =>
      rw [List.append_nil] at hword
      exact hword ▸ List.prefix_rfl
    | append_singleton last c =>
      have hmem : c ∈ gap := by
        rw [hlonger]
        simp only [List.mem_append, List.mem_singleton, true_or, or_true]
      have hc : c ∈ word.getLast? := by
        rw [hword, ← List.append_assoc, List.getLast?_concat]
        rfl
      have hblank := hlast c hc
      rw [hgap c hmem] at hblank
      cases hblank

theorem indexOf?_padded {word text padded : List Char} (hne : word ≠ [])
    (hlast : ∀ c ∈ word.getLast?, isBlank c = false) (h : Padded text padded) :
    indexOf? word padded = indexOf? word text := by
  induction padded generalizing text with
  | nil =>
    obtain ⟨rfl, _⟩ | ⟨c, rest, longer, _, hcons, _⟩ := h.cases
    · rfl
    · cases hcons
  | cons c padded ih =>
    have hempty : word.isEmpty = false := List.isEmpty_eq_false_iff.2 hne
    have hprefix := isPrefixOf_padded hlast h
    obtain ⟨rfl, hblank⟩ | ⟨d, rest, longer, rfl, hcons, hrest⟩ := h.cases
    · have hnone : word.isPrefixOf [] = false := by
        cases word with
        | nil => contradiction
        | cons w word => rfl
      have hrest := ih (padded_nil.2 (List.forall_mem_cons.1 hblank).2)
      rw [indexOf?, hempty] at hrest
      rw [indexOf?, indexOf?, hprefix, hnone, hempty, hrest]
      rfl
    · obtain ⟨rfl, rfl⟩ := List.cons.inj hcons
      rw [indexOf?, indexOf?, hprefix, ih hrest]

theorem bare_of_any {outer : Option Char} (h : outer.any isBlank = false) :
    ∀ c ∈ outer, isBlank c = false := by
  rintro c rfl
  exact h

theorem anchors_bare : ∀ word ∈ anchors, word.toList ≠ [] ∧
    (∀ c ∈ word.toList.head?, isBlank c = false) ∧
    ∀ c ∈ word.toList.getLast?, isBlank c = false := by
  have hall : ∀ word ∈ anchors, word.toList ≠ [] ∧ word.toList.head?.any isBlank = false ∧
      word.toList.getLast?.any isBlank = false := by decide +kernel
  intro word hword
  obtain ⟨hne, hhead, hlast⟩ := hall word hword
  exact ⟨hne, bare_of_any hhead, bare_of_any hlast⟩

theorem anchor?_le {text : List Char} {i : Nat} (h : anchor? text = some i) : i ≤ text.length := by
  obtain ⟨word, _, hindex⟩ := List.mem_filterMap.1 (List.min?_mem h)
  exact indexOf?_lt hindex

theorem padded_dropPreamble {text padded : List Char} (h : Padded text padded) :
    Padded (dropPreamble text) (dropPreamble padded) := by
  have hanchor : anchor? padded = anchor? text := by
    unfold anchor?
    refine congrArg List.min? (List.filterMap_congr fun word hword => ?_)
    obtain ⟨hne, _, hlast⟩ := anchors_bare word hword
    exact indexOf?_padded hne hlast h
  obtain ⟨gap, hgap, rfl⟩ := h
  unfold dropPreamble
  rw [hanchor]
  cases hfound : anchor? text with
  | none => exact ⟨gap, hgap, rfl⟩
  | some i =>
    refine ⟨gap, hgap, ?_⟩
    rw [Option.getD_some]
    exact List.drop_append_of_le_length (anchor?_le hfound)

theorem steady_severityWord {next : Severity → Scan (List Char)}
    (h : ∀ level, Steady (next level)) :
    Steady (severityWord next) :=
  steady_either (steady_caseless (by decide) (h .error))
    (steady_either (steady_caseless (by decide) (h .warning))
      (steady_caseless (by decide) (h .info)))

theorem steady_dropColons : Steady fun rest => some (dropColons rest) :=
  steady_dropWhile fun c hc => by rw [hc, Bool.or_true]

theorem steady_columnReference {next : Scan (List Char)} (h : Steady next) :
    Steady (columnReference next) := by
  have hcolumn : Steady (blanks (caseless "column" (someBlanks (digits fun _ => next)))) :=
    steady_blanks (steady_caseless (by decide) (steady_someBlanks rfl (steady_digits fun _ => h)))
  exact steady_either (steady_char (by decide) hcolumn) hcolumn

theorem steady_numberedLine : Steady (someBlanks (digits fun _ =>
    optional columnReference fun rest => some (dropColons rest))) :=
  steady_someBlanks rfl (steady_digits fun _ =>
    steady_either (steady_columnReference steady_dropColons) steady_dropColons)

theorem steady_line : Steady (caseless "line" (someBlanks (digits fun _ =>
    optional columnReference fun rest => some (dropColons rest)))) :=
  steady_caseless (by decide) steady_numberedLine

theorem steady_lineReference : Steady lineReference :=
  steady_either (steady_caseless (by decide) (steady_someBlanks rfl steady_line)) steady_line

theorem caseless_shorter {word : String} {next : Scan (List Char)} (hword : 0 < word.toList.length)
    (h : Steady next) {text rest : List Char} (hread : caseless word next text = some rest) :
    rest.length < text.length := by
  obtain ⟨part, hdrop, hnext⟩ := Option.bind_eq_some_iff.1 hread
  have hscan := h (.refl part)
  rw [hnext] at hscan
  cases hscan with
  | some hbehind =>
    have hlength := dropCaseless?_length hdrop
    have hsuffix := hbehind.suffix.length_le
    omega

theorem lineReference_shorter {text rest : List Char} (h : lineReference text = some rest) :
    rest.length < text.length := by
  obtain hat | ⟨_, hbare⟩ := Option.or_eq_some_iff.1 h
  · exact caseless_shorter (by decide) (steady_someBlanks rfl steady_line) hat
  · exact caseless_shorter (by decide) steady_numberedLine hbare

theorem steady_rangePrefix : Steady rangePrefix :=
  steady_digits fun _ => steady_char (by decide) (steady_digits fun _ => steady_blanks
    (steady_char (by decide) (steady_blanks (steady_severityWord fun _ => steady_blanks
      (steady_char (by decide) (steady_dropWhile fun _ hc => hc))))))

theorem steady_errorPrefix : Steady errorPrefix :=
  steady_caseless (by decide) (steady_blanks (steady_char (by decide)
    (steady_dropWhile fun _ hc => hc)))

theorem padded_dropLeading {find : Scan (List Char)} (h : Steady find) {text padded : List Char}
    (hpadded : Padded text padded) : Padded (dropLeading find text) (dropLeading find padded) := by
  have hscan := h hpadded
  unfold dropLeading
  generalize find text = rest at hscan ⊢
  generalize find padded = longer at hscan ⊢
  cases hscan with
  | some hbehind => exact hbehind.padding
  | none => exact hpadded

theorem cleanText_padded {text padded : List Char} (h : Padded text padded) :
    cleanText text = cleanText padded := by
  have hbody : Padded (trimStart (removeAll lineReference (dropPreamble text)))
      (trimStart (removeAll lineReference (dropPreamble padded))) :=
    ((padded_dropPreamble h).removeAll steady_lineReference
      fun _ _ => lineReference_shorter).trimStart
  exact (padded_dropLeading steady_errorPrefix (padded_dropLeading steady_rangePrefix hbody)).trim

/-! ### Blanks before a message -/

theorem min?_map_succ (places : List Nat) :
    (places.map (· + 1)).min? = places.min?.map (· + 1) := by
  cases places with
  | nil => rfl
  | cons place places =>
    simp only [List.map_cons, List.min?_cons', Option.map_some, Option.some.injEq]
    induction places generalizing place with
    | nil => rfl
    | cons other places ih =>
      rw [List.map_cons, List.foldl_cons, List.foldl_cons, Nat.add_min_add_right, ih]

theorem anchor?_blank {c : Char} (hc : isBlank c = true) (text : List Char) :
    anchor? (c :: text) = (anchor? text).map (· + 1) := by
  have hindex : ∀ word ∈ anchors,
      indexOf? word.toList (c :: text) = (indexOf? word.toList text).map (· + 1) := by
    intro word hword
    obtain ⟨hne, hhead, _⟩ := anchors_bare word hword
    have hprefix : word.toList.isPrefixOf (c :: text) = false := by
      cases hletters : word.toList with
      | nil => contradiction
      | cons w letters =>
        have hw : isBlank w = false := hhead w (by rw [hletters]; rfl)
        have hother : (w == c) = false := by
          rw [beq_eq_false_iff_ne]
          rintro rfl
          rw [hc] at hw
          cases hw
        rw [List.isPrefixOf, hother, Bool.false_and]
    rw [indexOf?, hprefix]
    rfl
  rw [anchor?, List.filterMap_congr hindex, ← List.map_filterMap, min?_map_succ, anchor?]

theorem lineReference_blank {c : Char} (hc : isBlank c = true) (text : List Char) :
    lineReference (c :: text) = none := by
  have hat : foldCase c ≠ 'a' := by
    rw [foldCase_blank hc]
    rintro rfl
    exact absurd hc (by decide)
  have hline : foldCase c ≠ 'l' := by
    rw [foldCase_blank hc]
    rintro rfl
    exact absurd hc (by decide)
  show (caseless "at" _ (c :: text)).or (caseless "line" _ (c :: text)) = none
  rw [caseless_other rfl hat, caseless_other rfl hline]
  rfl

theorem cleanText_blank {c : Char} (hc : isBlank c = true) (text : List Char) :
    cleanText (c :: text) = cleanText text := by
  have hbody : trimStart (removeAll lineReference (dropPreamble (c :: text))) =
      trimStart (removeAll lineReference (dropPreamble text)) := by
    unfold dropPreamble
    rw [anchor?_blank hc]
    cases anchor? text with
    | some i => rfl
    | none =>
      show trimStart (removeAll lineReference (c :: text)) =
        trimStart (removeAll lineReference text)
      rw [removeAll_pass (lineReference_blank hc text)]
      exact List.dropWhile_cons_of_pos hc
  unfold cleanText
  dsimp only
  rw [hbody]

theorem cleanText_trimStart (text : List Char) : cleanText (trimStart text) = cleanText text := by
  induction text with
  | nil => rfl
  | cons c text ih =>
    by_cases hc : isBlank c = true
    · rw [cleanText_blank hc, ← ih]
      exact congrArg cleanText (List.dropWhile_cons_of_pos hc)
    · exact congrArg cleanText (List.dropWhile_cons_of_neg hc)

theorem cleanText_trim (text : List Char) : cleanText (trim text) = cleanText text := by
  rw [trim, cleanText_padded (padded_trimEnd (trimStart text)), cleanText_trimStart]

theorem clean_trim (text : String) : clean (String.ofList (trim text.toList)) = clean text := by
  rw [clean, String.toList_ofList, cleanText_trim]
  rfl

end ShaderPreview.Diagnostic
