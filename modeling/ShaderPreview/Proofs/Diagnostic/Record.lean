import ShaderPreview.Proofs.Diagnostic.Harmless
import ShaderPreview.Proofs.Diagnostic.Status
import ShaderPreview.Proofs.Text.Trimmed

/-!
# Well-formed records

Every text that is neither blank nor a status line yields well-formed records: matches with an
invalid number or an empty message are discarded, and if none is left the text itself is the
message.
-/

namespace ShaderPreview

namespace Diagnostic

open Text

/-! ### Readings that can be shown -/

theorem one_le_position {written : List Char} {n : Nat} (h : position? written = some n) :
    1 ≤ n := by
  unfold position? at h
  split at h
  · cases h
    exact Nat.le_add_left 1 _
  · cases h

structure Placed.Shows (placed : Placed) : Prop where
  column : ∀ column ∈ placed.column, 1 ≤ column
  message : placed.message.toList ≠ []
  trimmed : Trimmed placed.message.toList

theorem shows_place? {declines : List Char → Bool} {found : Excerpt × List Char} {placed : Placed}
    (h : place? declines found = some placed) : placed.Shows := by
  simp only [place?, Option.ite_none_left_eq_some] at h
  obtain ⟨_, h⟩ := h
  cases hline : position? found.1.line with
  | none =>
    rw [hline] at h
    cases h
  | some line =>
    rw [hline] at h
    obtain ⟨hcleaned, h⟩ := Option.ite_none_left_eq_some.1 h
    rw [← Option.some.inj h]
    refine ⟨fun column hcolumn => one_le_position hcolumn, ?_, ?_⟩
    · rw [String.toList_ofList]
      exact mt List.isEmpty_iff.2 hcleaned
    · rw [String.toList_ofList]
      exact trimmed_trim _

theorem shows_firstReadings (text : List Char) (dialects : List (Dialect × (List Char → Bool))) :
    ∀ placed ∈ firstReadings text dialects, placed.Shows := by
  induction dialects with
  | nil => nofun
  | cons dialect others ih =>
    rw [firstReadings]
    split
    · exact ih
    · intro placed hplaced
      obtain ⟨found, _, hplace⟩ := List.mem_filterMap.1 hplaced
      exact shows_place? hplace

theorem shows_wholeText {text : List Char} (hne : text ≠ []) (htrimmed : Trimmed text) :
    (wholeText text).Shows := by
  unfold wholeText
  split
  · refine ⟨nofun, ?_, ?_⟩
    · rwa [String.toList_ofList]
    · rwa [String.toList_ofList]
  · refine ⟨nofun, ?_, ?_⟩ <;> rw [String.toList_ofList]
    · split
      · exact hne
      · rename_i hcleaned
        exact mt List.isEmpty_iff.2 hcleaned
    · split
      · exact htrimmed
      · exact trimmed_trim _

theorem shows_locateAll (raw : List Char) : ∀ placed ∈ locateAll raw, placed.Shows := by
  by_cases hnil : trim raw = [] ∨ isStatusLine (trim raw) = true
  · rw [locateAll_nil hnil]
    nofun
  · obtain ⟨hblank, hstatus⟩ := not_or.1 hnil
    have hstatus : isStatusLine (trim raw) = false := Bool.eq_false_iff.2 hstatus
    by_cases hfirst : firstReadings (trim raw) dialects = []
    · rw [locateAll_whole hblank hstatus hfirst]
      exact List.forall_mem_singleton.2 (shows_wholeText hblank (trimmed_trim raw))
    · rw [locateAll_read hblank hstatus hfirst]
      exact shows_firstReadings _ _

/-! ### Records -/

/-- Positive line and column, non-blank message, no byte range. -/
structure WellFormed (record : Diagnostic) : Prop where
  line : 1 ≤ record.line
  column : ∀ column ∈ record.column, 1 ≤ column
  offset : record.offset = 0
  length : record.length = 0
  message : record.message ≠ ""
  trimmed : Trimmed record.message.toList

theorem Placed.Shows.wellFormed {placed : Placed} (h : placed.Shows) (header : Nat) :
    (placed.below header).WellFormed where
  line := Nat.le_max_left 1 _
  column := h.column
  offset := rfl
  length := rfl
  message := fun hempty => h.message (congrArg String.toList hempty)
  trimmed := h.trimmed

/-- A text yields no record exactly if it is blank or its trimmed text is a status line, and every
record is well formed. -/
theorem normalize_wellFormed (raw : String) (header : Nat) :
    (normalize raw header = [] ↔ (∀ c ∈ raw.toList, isBlank c = true) ∨
      ∃ text, Trimmed text ∧ Spaced text raw.toList ∧ IsStatusText text) ∧
    ∀ record ∈ normalize raw header, record.WellFormed := by
  refine ⟨?_, fun record hrecord => ?_⟩
  · rw [normalize_eq_nil, isStatusLine_iff, trim_eq_nil_iff]
    refine or_congr_right ⟨fun hstatus => ?_, ?_⟩
    · exact ⟨_, trimmed_trim _, spaced_trim _, hstatus⟩
    · rintro ⟨text, htrimmed, hspaced, hstatus⟩
      rwa [trim_eq_iff.2 ⟨htrimmed, hspaced⟩]
  · obtain ⟨placed, hplaced, rfl⟩ := List.mem_map.1 hrecord
    exact (shows_locateAll _ placed hplaced).wellFormed header

end Diagnostic

end ShaderPreview
