import ShaderPreview.Diagnostic.Status
import ShaderPreview.Proofs.Text.Acceptance

/-!
# Status lines

A text is a status line if it contains no error marker and contains a status phrase, or begins with
a status opening.
-/

namespace ShaderPreview.Diagnostic

open Text

/-- The text consists of the words, in any letter case, separated by blanks. -/
inductive Writes : List String → List Char → Prop
  | nothing : Writes [] []
  | word {word : String} {text : List Char} (spelled : text.map foldCase = word.toList) :
      Writes [word] text
  | words {word following : String} {words : List String} {text gap rest : List Char}
      (spelled : text.map foldCase = word.toList) (apart : gap ≠ [])
      (blank : ∀ c ∈ gap, isBlank c = true) (continues : Writes (following :: words) rest) :
      Writes (word :: following :: words) (text ++ (gap ++ rest))

theorem isSome_phrase (words : List String) (text : List Char) :
    (phrase words text).isSome = true ↔
      ∃ written rest, text = written ++ rest ∧ Writes words written := by
  induction words generalizing text with
  | nil => exact ⟨fun _ => ⟨[], text, rfl, .nothing⟩, fun _ => rfl⟩
  | cons word words ih =>
    cases words with
    | nil =>
      rw [phrase, isSome_caseless]
      constructor
      · rintro ⟨written, rest, htext, hspelled, _⟩
        exact ⟨written, rest, htext, .word hspelled⟩
      · rintro ⟨written, rest, htext, hwrites⟩
        cases hwrites with
        | word hspelled => exact ⟨written, rest, htext, hspelled, rfl⟩
    | cons following words =>
      simp only [phrase, isSome_caseless, isSome_someBlanks, ih]
      constructor
      · rintro ⟨written, _, rfl, hspelled, gap, _, rfl, hapart, hblank, read, rest, rfl, hread⟩
        exact ⟨written ++ (gap ++ read), rest, by simp only [List.append_assoc],
          .words hspelled hapart hblank hread⟩
      · rintro ⟨_, rest, rfl, hwrites⟩
        cases hwrites with
        | @words _ _ _ written gap read hspelled hapart hblank hread =>
          exact ⟨written, gap ++ (read ++ rest), by simp only [List.append_assoc], hspelled, gap,
            read ++ rest, rfl, hapart, hblank, read, rest, rfl, hread⟩

theorem occurs_phrase (words : List String) (text : List Char) :
    occurs (phrase words) text = true ↔
      ∃ before written rest, text = before ++ (written ++ rest) ∧ Writes words written := by
  simp only [occurs_iff, isSome_phrase]
  constructor
  · rintro ⟨before, _, rfl, written, rest, rfl, hwrites⟩
    exact ⟨before, written, rest, rfl, hwrites⟩
  · rintro ⟨before, written, rest, rfl, hwrites⟩
    exact ⟨before, written ++ rest, rfl, written, rest, rfl, hwrites⟩

/-- Opening words of status lines; the first two need a blank after them. -/
def openings : List (List String) := [["creating", ""], ["loaded", ""], ["shader", "type:"]]

/-- No error marker, and a status phrase anywhere or a status opening at the beginning. -/
structure IsStatusText (text : List Char) : Prop where
  unmarked : ∀ marker ∈ errorMarkers, ¬ marker.toList <:+: text
  reports : (∃ words ∈ statusPhrases, ∃ before written rest,
      text = before ++ (written ++ rest) ∧ Writes words written) ∨
    ∃ words ∈ openings, ∃ written rest, text = written ++ rest ∧ Writes words written

theorem leadingWord_eq (word : String) : leadingWord word = phrase [word, ""] := rfl

theorem isStatusLine_iff (text : List Char) : isStatusLine text = true ↔ IsStatusText text := by
  have hmarker : hasErrorMarker text = false ↔
      ∀ marker ∈ errorMarkers, ¬ marker.toList <:+: text := by
    simp only [hasErrorMarker, List.any_eq_false, hasWord_iff]
  have hopening : (statusOpenings.any fun opening => (opening text).isSome) = true ↔
      ∃ words ∈ openings, (phrase words text).isSome = true := by
    simp [statusOpenings, openings, leadingWord_eq]
  have hreads : readsAsStatus text = true ↔
      (∃ words ∈ statusPhrases, ∃ before written rest,
        text = before ++ (written ++ rest) ∧ Writes words written) ∨
      ∃ words ∈ openings, ∃ written rest, text = written ++ rest ∧ Writes words written := by
    rw [readsAsStatus, Bool.or_eq_true, hopening, List.any_eq_true]
    simp only [occurs_phrase, isSome_phrase]
  rw [isStatusLine, Bool.and_eq_true, Bool.not_eq_true', hmarker, hreads]
  exact ⟨fun ⟨hunmarked, hreports⟩ => ⟨hunmarked, hreports⟩, fun h => ⟨h.unmarked, h.reports⟩⟩

end ShaderPreview.Diagnostic
