import ShaderPreview.Diagnostic.Normalize
import ShaderPreview.Proofs.Text.Scan

/-!
# Texts without errors

Only the dialects `bracketed` and `ranged` read a severity; all other records are errors. A text
yields no error if it is blank, a status line, or decided by one of the two without a match of
severity error.
-/

namespace ShaderPreview.Diagnostic

open Text

/-! ### Dialects that report errors only -/

def IsErrorExcerpt (answer : Excerpt × List Char) : Prop := answer.1.severity = .error

def ReportsErrors (dialect : Dialect) : Prop := ∀ before, Answers IsErrorExcerpt (dialect before)

theorem answers_excerpt (line column message : List Char) :
    Answers IsErrorExcerpt (excerpt line column .error message) := by
  rintro text answer ⟨rfl⟩
  rfl

theorem answers_colonMessage (line column : List Char) :
    Answers IsErrorExcerpt (colonMessage line column) :=
  answers_blanks (answers_char ':' (answers_blanks
    (answers_restOfLine fun message => answers_excerpt line column message)))

theorem reportsErrors_errorAtLine : ReportsErrors errorAtLine := by
  intro before
  refine answers_caseless "error" (answers_blanks (answers_char ':' (answers_blanks ?_)))
  intro start answer ha
  -- the message lies between `start` and the place where the scan of its end begins
  refine answers_lineText (P := IsErrorExcerpt) (fun stop result hb => ?_) ha
  exact answers_someBlanks (answers_caseless "at" (answers_someBlanks (answers_caseless "line"
    (answers_someBlanks (answers_digits fun line => answers_excerpt line [] _))))) hb

theorem reportsErrors_stopped : ReportsErrors stopped := by
  intro before text answer ha
  refine answers_lineText (P := IsErrorExcerpt) (fun stop result hb => ?_) ha
  have hend : Answers IsErrorExcerpt (blanks (caseless "line:"
      (digits fun line => excerpt line [] .error (between text stop)))) :=
    answers_blanks (answers_caseless "line:" (answers_digits fun line => answers_excerpt line [] _))
  exact answers_either (answers_char '.' (answers_char '.' hend)) (answers_char '.' hend) hb

theorem reportsErrors_atLineColumn : ReportsErrors atLineColumn :=
  fun _ => answers_caseless "at" (answers_someBlanks (answers_caseless "line" (answers_someBlanks
    (answers_digits fun line => answers_either
      (answers_char ',' (answers_blanks (answers_caseless "column" (answers_someBlanks
        (answers_digits fun column => answers_colonMessage line column)))))
      (answers_colonMessage line [])))))

theorem reportsErrors_linePrefixed : ReportsErrors linePrefixed := by
  intro before text answer ha
  rw [linePrefixed] at ha
  split at ha
  · exact answers_caseless "line" (answers_someBlanks
      (answers_digits fun line => answers_colonMessage line [])) ha
  · cases ha

theorem reportsErrors_numbered : ReportsErrors numbered := by
  intro before text answer ha
  rw [numbered] at ha
  split at ha
  · exact answers_blanks (answers_digits fun line => answers_colonMessage line []) ha
  · cases ha

/-! ### Readings and their severities -/

theorem place?_severity {declines : List Char → Bool} {found : Excerpt × List Char}
    {placed : Placed} (h : place? declines found = some placed) :
    placed.severity = found.1.severity := by
  simp only [place?, Option.ite_none_left_eq_some] at h
  obtain ⟨_, h⟩ := h
  cases hline : position? found.1.line with
  | none =>
    rw [hline] at h
    cases h
  | some line =>
    rw [hline] at h
    obtain ⟨_, h⟩ := Option.ite_none_left_eq_some.1 h
    rw [← Option.some.inj h]

theorem readings_errors {dialect : Dialect} (h : ReportsErrors dialect)
    (declines : List Char → Bool) (text : List Char) :
    ∀ placed ∈ readings (dialect, declines) text, placed.severity = .error := by
  intro placed hp
  obtain ⟨found, hf, hplace⟩ := List.mem_filterMap.1 hp
  have hfound : found.1.severity = .error :=
    findAll_answers (P := fun excerpt : Excerpt => excerpt.severity = .error) h text found hf
  exact (place?_severity hplace).trans hfound

theorem firstReadings_errors {others : List (Dialect × (List Char → Bool))}
    (h : ∀ dialect ∈ others, ReportsErrors dialect.1) (text : List Char) :
    ∀ placed ∈ firstReadings text others, placed.severity = .error := by
  induction others with
  | nil => nofun
  | cons dialect others ih =>
    obtain ⟨hdialect, hothers⟩ := List.forall_mem_cons.1 h
    have hread := readings_errors hdialect dialect.2 text
    rw [firstReadings]
    split
    · exact ih hothers
    · exact hread

theorem severity_wholeText (text : List Char) : (wholeText text).severity = .error := by
  unfold wholeText
  split <;> rfl

theorem rejects_below (placed : List Placed) (header : Nat) :
    rejects (placed.map (·.below header)) = false ↔ ∀ p ∈ placed, p.severity ≠ .error := by
  simp only [rejects, List.any_map, List.any_eq_false, Function.comp_apply, isError,
    Placed.below, beq_iff_eq, ne_eq]

/-! ### The dialect that decides -/

theorem firstReadings_skip {dialect : Dialect × (List Char → Bool)} {text : List Char}
    (others : List (Dialect × (List Char → Bool))) (h : readings dialect text = []) :
    firstReadings text (dialect :: others) = firstReadings text others := by
  simp only [firstReadings, h]

theorem firstReadings_take {dialect : Dialect × (List Char → Bool)} {text : List Char}
    (others : List (Dialect × (List Char → Bool))) (h : readings dialect text ≠ []) :
    firstReadings text (dialect :: others) = readings dialect text := by
  rw [firstReadings]
  split
  · contradiction
  · rfl

section

variable {raw : List Char} (hblank : trim raw ≠ []) (hstatus : isStatusLine (trim raw) = false)

include hblank hstatus

theorem locateAll_whole (h : firstReadings (trim raw) dialects = []) :
    locateAll raw = [wholeText (trim raw)] := by
  simp only [locateAll, List.isEmpty_eq_false_iff.2 hblank, hstatus, Bool.or_self,
    Bool.false_eq_true, if_false, h]

theorem locateAll_read (h : firstReadings (trim raw) dialects ≠ []) :
    locateAll raw = firstReadings (trim raw) dialects := by
  simp only [locateAll, List.isEmpty_eq_false_iff.2 hblank, hstatus, Bool.or_self,
    Bool.false_eq_true, if_false]

theorem locateAll_ne_nil : locateAll raw ≠ [] := by
  by_cases h : firstReadings (trim raw) dialects = []
  · rw [locateAll_whole hblank hstatus h]
    exact List.cons_ne_nil _ _
  · rwa [locateAll_read hblank hstatus h]

theorem locateAll_errors
    (hb : readings (bracketed, fun _ => false) (trim raw) = [])
    (hs : readings (stopped, fun _ => false) (trim raw) = [])
    (hr : readings (ranged, fun _ => false) (trim raw) = []) :
    ∀ placed ∈ locateAll raw, placed.severity = .error := by
  have hfirst : ∀ placed ∈ firstReadings (trim raw) dialects, placed.severity = .error := by
    rw [dialects, firstReadings_skip _ hb, firstReadings_skip _ hs, firstReadings_skip _ hr]
    refine firstReadings_errors ?_ (trim raw)
    simp only [List.forall_mem_cons, reportsErrors_errorAtLine, reportsErrors_atLineColumn,
      reportsErrors_linePrefixed, reportsErrors_numbered, List.not_mem_nil, false_implies,
      implies_true, and_self]
  by_cases h : firstReadings (trim raw) dialects = []
  · rw [locateAll_whole hblank hstatus h]
    exact List.forall_mem_singleton.2 (severity_wholeText _)
  · rwa [locateAll_read hblank hstatus h]

end

/-! ### Harmless texts -/

/-- The dialect matches, and no match has severity error. -/
def DecidesMildly (dialect : Dialect) (text : List Char) : Prop :=
  readings (dialect, fun _ => false) text ≠ [] ∧
    ∀ placed ∈ readings (dialect, fun _ => false) text, placed.severity ≠ .error

/-- Texts that yield no error. -/
inductive Harmless (raw : List Char) : Prop
  | blank (empty : trim raw = [])
  | status (reads : isStatusLine (trim raw) = true)
  | bracketed (mild : DecidesMildly bracketed (trim raw))
  | ranged (unbracketed : readings (Diagnostic.bracketed, fun _ => false) (trim raw) = [])
      (unstopped : readings (stopped, fun _ => false) (trim raw) = [])
      (mild : DecidesMildly ranged (trim raw))

theorem not_mild {placed : List Placed} (hne : placed ≠ [])
    (h : ∀ p ∈ placed, p.severity = .error) : ¬ ∀ p ∈ placed, p.severity ≠ .error := by
  intro hmild
  obtain ⟨p, rest, rfl⟩ := List.exists_cons_of_ne_nil hne
  exact hmild p List.mem_cons_self (h p List.mem_cons_self)

theorem locateAll_nil {raw : List Char} (h : trim raw = [] ∨ isStatusLine (trim raw) = true) :
    locateAll raw = [] := by
  obtain hblank | hstatus := h
  · simp only [locateAll, hblank, List.isEmpty_nil, Bool.true_or, if_true]
  · simp only [locateAll, hstatus, Bool.or_true, if_true]

theorem harmless_iff {raw : List Char} (hblank : trim raw ≠ [])
    (hstatus : isStatusLine (trim raw) = false) :
    Harmless raw ↔ DecidesMildly bracketed (trim raw) ∨
      (readings (bracketed, fun _ => false) (trim raw) = [] ∧
        readings (stopped, fun _ => false) (trim raw) = [] ∧
        DecidesMildly ranged (trim raw)) := by
  constructor
  · intro h
    cases h with
    | blank empty => contradiction
    | status reads =>
      rw [hstatus] at reads
      cases reads
    | bracketed mild => exact .inl mild
    | ranged unbracketed unstopped mild => exact .inr ⟨unbracketed, unstopped, mild⟩
  · rintro (mild | ⟨unbracketed, unstopped, mild⟩)
    · exact .bracketed mild
    · exact .ranged unbracketed unstopped mild

theorem locateAll_mild {raw : List Char} (hblank : trim raw ≠ [])
    (hstatus : isStatusLine (trim raw) = false) :
    (∀ placed ∈ locateAll raw, placed.severity ≠ .error) ↔ Harmless raw := by
  have hread (h : firstReadings (trim raw) dialects ≠ []) := locateAll_read hblank hstatus h
  rw [harmless_iff hblank hstatus]
  -- the cases follow the order in which the dialects are tried
  by_cases hb : readings (bracketed, fun _ => false) (trim raw) = []
  · by_cases hs : readings (stopped, fun _ => false) (trim raw) = []
    · by_cases hr : readings (ranged, fun _ => false) (trim raw) = []
      · have hall := locateAll_errors hblank hstatus hb hs hr
        have hnot := not_mild (locateAll_ne_nil hblank hstatus) hall
        simp only [hnot, DecidesMildly, hb, hs, hr, ne_eq, not_true_eq_false, false_and, and_false,
          or_self]
      · have hfirst : firstReadings (trim raw) dialects =
            readings (ranged, fun _ => false) (trim raw) := by
          rw [dialects, firstReadings_skip _ hb, firstReadings_skip _ hs, firstReadings_take _ hr]
        rw [hread (hfirst ▸ hr), hfirst]
        simp only [DecidesMildly, hb, hs, hr, ne_eq, not_true_eq_false, not_false_eq_true,
          false_and, true_and, false_or]
    · have hfirst : firstReadings (trim raw) dialects =
          readings (stopped, fun _ => false) (trim raw) := by
        rw [dialects, firstReadings_skip _ hb, firstReadings_take _ hs]
      rw [hread (hfirst ▸ hs), hfirst]
      have hnot := not_mild hs (readings_errors reportsErrors_stopped _ _)
      simp only [hnot, DecidesMildly, hb, hs, ne_eq, not_true_eq_false, false_and, and_false,
        or_self]
  · have hfirst : firstReadings (trim raw) dialects =
        readings (bracketed, fun _ => false) (trim raw) := by
      rw [dialects, firstReadings_take _ hb]
    rw [hread (hfirst ▸ hb), hfirst]
    simp only [DecidesMildly, hb, ne_eq, not_false_eq_true, false_and, true_and, or_false]

theorem normalize_eq_nil (raw : String) (header : Nat) :
    normalize raw header = [] ↔
      trim raw.toList = [] ∨ isStatusLine (trim raw.toList) = true := by
  rw [normalize, List.map_eq_nil_iff]
  refine ⟨fun h => ?_, locateAll_nil⟩
  by_cases hblank : trim raw.toList = []
  · exact .inl hblank
  · cases hstatus : isStatusLine (trim raw.toList) with
    | true => exact .inr rfl
    | false => exact absurd h (locateAll_ne_nil hblank hstatus)

theorem rejects_normalize (raw : String) (header : Nat) :
    rejects (normalize raw header) = false ↔ Harmless raw.toList := by
  rw [normalize, rejects_below]
  by_cases hnil : trim raw.toList = [] ∨ isStatusLine (trim raw.toList) = true
  · rw [locateAll_nil hnil]
    refine ⟨fun _ => ?_, fun _ => nofun⟩
    obtain hblank | hstatus := hnil
    · exact .blank hblank
    · exact .status hstatus
  · obtain ⟨hblank, hstatus⟩ := not_or.1 hnil
    exact locateAll_mild hblank (Bool.not_eq_true _ ▸ hstatus)

end ShaderPreview.Diagnostic
