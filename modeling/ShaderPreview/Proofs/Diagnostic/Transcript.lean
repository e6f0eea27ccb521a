import ShaderPreview.Proofs.Diagnostic.Clean
import ShaderPreview.Proofs.Diagnostic.Record

/-!
# Compiler transcripts

Every line is a remark with its label in brackets. A match starts at the bracket and extends to the
end of the line, so messages are not searched for further matches.
-/

namespace ShaderPreview.Diagnostic

open Text

/-- One line of compiler output. -/
structure Remark where
  severity : Severity
  label : String
  line : Nat
  column : Nat
  message : String

namespace Remark

/-- `[label] Lline:column message`. -/
def print (remark : Remark) : String :=
  s!"[{remark.label}] L{remark.line}:{remark.column} {remark.message}"

def transcript (remarks : List Remark) : String := "\n".intercalate (remarks.map print)

/-- The label is the word for the severity in any letter case, line and column are positive 32-bit
numbers, and the message is on one line and not cleaned to nothing. -/
structure Printable (remark : Remark) : Prop where
  label : remark.label.toList.map foldCase = remark.severity.label.toList
  line : 1 ≤ remark.line ∧ remark.line < word32Bound
  column : 1 ≤ remark.column ∧ remark.column < word32Bound
  oneLine : '\n' ∉ remark.message.toList
  stated : clean remark.message ≠ ""

def opening (remark : Remark) : List Char :=
  '[' :: (remark.label.toList ++ ']' :: ' ' :: 'L' ::
    (decimal remark.line ++ ':' :: (decimal remark.column ++ [' '])))

theorem toList_print (remark : Remark) :
    remark.print.toList = remark.opening ++ remark.message.toList := by
  have htext (text : String) : toString text = text := rfl
  simp only [print, htext, String.toList_append, toList_toString, opening, List.append_assoc,
    List.cons_append]
  rfl

theorem toList_transcript_single (remark : Remark) :
    (transcript [remark]).toList = remark.opening ++ remark.message.toList := by
  rw [transcript, String.toList_intercalate, List.map_map, List.map_singleton,
    List.intercalate_singleton]
  exact toList_print remark

theorem toList_transcript_cons (remark following : Remark) (remarks : List Remark) :
    (transcript (remark :: following :: remarks)).toList =
      remark.opening ++ remark.message.toList ++
        '\n' :: (transcript (following :: remarks)).toList := by
  have hfirst := toList_print remark
  simp only [transcript, String.toList_intercalate, List.map_cons, List.intercalate_cons_cons,
    hfirst]
  rw [List.append_assoc, List.append_assoc, List.append_assoc]
  rfl

/-! ### One remark -/

variable {remark : Remark}

theorem Printable.stated_trimmed (h : remark.Printable) :
    cleanText (trim remark.message.toList) ≠ [] := by
  rw [cleanText_trim]
  intro hnil
  refine h.stated ?_
  rw [clean, hnil]

theorem Printable.trim_ne_nil (h : remark.Printable) : trim remark.message.toList ≠ [] := by
  intro hnil
  refine h.stated_trimmed ?_
  rw [hnil]
  rfl

end Remark

theorem severityWord_written {α : Type} {next : Severity → Scan α} {level : Severity}
    {label : List Char} (h : label.map foldCase = level.label.toList) (rest : List Char) :
    severityWord next (label ++ rest) = next level rest := by
  have hne : label ≠ [] := by
    rintro rfl
    cases level <;> exact absurd h (by decide)
  have hhead : ∀ c ∈ label.head?, some (foldCase c) = level.label.toList.head? := by
    intro c hc
    rw [← h, List.head?_map, hc]
    rfl
  have hother (word : String) {w : Char} {letters : List Char} (hword : word.toList = w :: letters)
      (hfirst : level.label.toList.head? ≠ some w) {next : Scan α} :
      caseless word next (label ++ rest) = none := by
    cases label with
    | nil => contradiction
    | cons c label =>
      refine caseless_other hword (fun hfold => hfirst ?_) _
      rw [← hhead c rfl, hfold]
  unfold severityWord either
  cases level with
  | error =>
    have hread : caseless "error" (next .error) (label ++ rest) = next .error rest :=
      caseless_written h rest
    rw [hread, hother "warning" rfl (by decide), hother "info" rfl (by decide), Option.or_none,
      Option.or_none]
  | warning =>
    have hread : caseless "warning" (next .warning) (label ++ rest) = next .warning rest :=
      caseless_written h rest
    rw [hread, hother "error" rfl (by decide), hother "info" rfl (by decide), Option.or_none,
      Option.none_or]
  | info =>
    have hread : caseless "info" (next .info) (label ++ rest) = next .info rest :=
      caseless_written h rest
    rw [hread, hother "error" rfl (by decide), hother "warning" rfl (by decide), Option.none_or,
      Option.none_or]

theorem digit_ascii_run (n : Nat) : ∀ c ∈ decimal n, isDigit c = true :=
  fun c hc => isDigit_of_ascii (decimal_ascii n c hc)

theorem bracketed_printed {remark : Remark} (h : remark.Printable) {gap body rest : List Char}
    (hgap : ∀ c ∈ gap, isBlank c = true) (hne : body ≠ [])
    (hbody : ∀ c ∈ body.head?, isBlank c = false) (hline : '\n' ∉ body)
    (hrest : ∀ c ∈ rest.head?, c = '\n') (before : Option Char) :
    bracketed before (remark.opening ++ (gap ++ (body ++ rest))) =
      some (⟨decimal remark.line, decimal remark.column, remark.severity, body⟩, rest) := by
  -- the steps from the message back to the bracket
  have hmessage : restOfLine (fun message => excerpt (decimal remark.line) (decimal remark.column)
      remark.severity message) (body ++ rest) =
      some (⟨decimal remark.line, decimal remark.column, remark.severity, body⟩, rest) :=
    restOfLine_written hne hline hrest
  have hhead : ∀ c ∈ (body ++ rest).head?, isBlank c = false := by
    cases body with
    | nil => contradiction
    | cons d body => exact hbody
  have hblanks : someBlanks (restOfLine fun message => excerpt (decimal remark.line)
      (decimal remark.column) remark.severity message) (' ' :: gap ++ (body ++ rest)) =
      some (⟨decimal remark.line, decimal remark.column, remark.severity, body⟩, rest) := by
    rw [someBlanks_written (List.cons_ne_nil _ _) (List.forall_mem_cons.2 ⟨by decide, hgap⟩) hhead]
    · exact hmessage
    · rw [hmessage]
      rfl
  have hblank : ∀ c ∈ (' ' :: gap ++ (body ++ rest)).head?, isDigit c = false := by
    rintro _ ⟨rfl⟩
    decide
  have hcolon : ∀ c ∈ (':' :: (decimal remark.column ++ (' ' :: gap ++ (body ++ rest)))).head?,
      isDigit c = false := by
    rintro _ ⟨rfl⟩
    decide
  have hplace : caseless "l" (digits fun line => char ':' (digits fun column =>
      someBlanks (restOfLine fun message => excerpt line column remark.severity message)))
      (['L'] ++ (decimal remark.line ++ ':' :: (decimal remark.column ++
        (' ' :: gap ++ (body ++ rest))))) =
      some (⟨decimal remark.line, decimal remark.column, remark.severity, body⟩, rest) := by
    rw [caseless_written (by decide),
      digits_written (decimal_ne_nil _) (digit_ascii_run _) hcolon, char_written,
      digits_written (decimal_ne_nil _) (digit_ascii_run _) hblank]
    exact hblanks
  have htext : remark.opening ++ (gap ++ (body ++ rest)) =
      '[' :: (remark.label.toList ++ ']' :: ([' '] ++ (['L'] ++ (decimal remark.line ++
        ':' :: (decimal remark.column ++ (' ' :: gap ++ (body ++ rest))))))) := by
    simp only [Remark.opening, List.cons_append, List.append_assoc, List.nil_append]
  have hletter : ∀ c ∈ (['L'] ++ (decimal remark.line ++ ':' :: (decimal remark.column ++
      (' ' :: gap ++ (body ++ rest))))).head?, isBlank c = false := by
    rintro _ ⟨rfl⟩
    decide
  rw [bracketed, htext, char_written, severityWord_written h.label, char_written,
    blanks_written (List.forall_mem_singleton.2 rfl) hletter]
  · exact hplace
  · rw [hplace]
    rfl

/-! ### The words that are searched -/

theorem hasWord_padded {word text padded : List Char} (hne : word ≠ [])
    (hlast : ∀ c ∈ word.getLast?, isBlank c = false) (h : Padded text padded) :
    hasWord word padded = hasWord word text := by
  rw [hasWord, hasWord, indexOf?_padded hne hlast h]

theorem markers_bare : ∀ marker ∈ compilationMarkers ++ errorMarkers,
    marker.toList ≠ [] ∧ ∀ c ∈ marker.toList.getLast?, isBlank c = false := by
  have hall : ∀ marker ∈ compilationMarkers ++ errorMarkers,
      marker.toList ≠ [] ∧ marker.toList.getLast?.any isBlank = false := by decide +kernel
  exact fun marker hmarker => (hall marker hmarker).imp_right bare_of_any

theorem countsHeader_padded {text padded : List Char} (h : Padded text padded) :
    countsHeader padded = countsHeader text := by
  unfold countsHeader
  rw [Bool.eq_iff_iff, List.any_eq_true, List.any_eq_true]
  refine exists_congr fun marker => and_congr_right fun hmarker => ?_
  obtain ⟨hne, hlast⟩ := markers_bare marker (List.mem_append_left _ hmarker)
  rw [hasWord_padded hne hlast h]

theorem hasErrorMarker_padded {text padded : List Char} (h : Padded text padded) :
    hasErrorMarker padded = hasErrorMarker text := by
  unfold hasErrorMarker
  rw [Bool.eq_iff_iff, List.any_eq_true, List.any_eq_true]
  refine exists_congr fun marker => and_congr_right fun hmarker => ?_
  obtain ⟨hne, hlast⟩ := markers_bare marker (List.mem_append_right _ hmarker)
  rw [hasWord_padded hne hlast h]

/-! ### All remarks -/

theorem position?_decimal {n : Nat} (hpos : 1 ≤ n) (hlt : n < word32Bound) :
    position? (decimal n) = some n := by
  obtain ⟨m, rfl⟩ := Nat.exists_eq_add_of_le' hpos
  rw [position?, word32?_decimal hlt]

/-- Diagnostic of a remark before the header offset is applied. -/
def Remark.placed (remark : Remark) : Placed :=
  ⟨clean remark.message, remark.line, some remark.column, remark.severity,
    countsHeader remark.print.toList⟩

theorem place?_printed {remark : Remark} (h : remark.Printable) {body reading : List Char}
    (hbody : trim body = trim remark.message.toList)
    (hreading : Padded reading remark.print.toList) :
    place? (fun _ => false)
      (⟨decimal remark.line, decimal remark.column, remark.severity, body⟩, reading) =
      some remark.placed := by
  have hsome : (trim remark.message.toList).isEmpty = false :=
    List.isEmpty_eq_false_iff.2 h.trim_ne_nil
  have hstated : (cleanText (trim remark.message.toList)).isEmpty = false :=
    List.isEmpty_eq_false_iff.2 h.stated_trimmed
  simp only [place?, hbody, hsome, Bool.or_self, Bool.false_eq_true, if_false, hstated,
    position?_decimal h.line.1 h.line.2, position?_decimal h.column.1 h.column.2]
  rw [Remark.placed, clean, cleanText_trim, countsHeader_padded hreading]

theorem readings_printed {remark : Remark} (h : remark.Printable) {message rest : List Char}
    (hmessage : Padded message remark.message.toList) (hrest : ∀ c ∈ rest.head?, c = '\n') :
    readings (bracketed, fun _ => false) (remark.opening ++ message ++ rest) =
      remark.placed :: readings (bracketed, fun _ => false) rest := by
  have hparts : message.takeWhile isBlank ++ trimStart message = message :=
    List.takeWhile_append_dropWhile
  have htrim : trim (trimStart message) = trim remark.message.toList := by
    rw [trim, trimStart_trimStart]
    exact hmessage.trim
  have hne : trimStart message ≠ [] := by
    intro hnil
    rw [hnil] at htrim
    exact h.trim_ne_nil htrim.symm
  have hhead : ∀ c ∈ (trimStart message).head?, isBlank c = false := by
    intro c hc
    obtain ⟨more, hcons⟩ := List.head?_eq_some_iff.1 hc
    exact trimStart_head_not_blank hcons
  have hline : '\n' ∉ trimStart message := by
    intro hmem
    obtain ⟨gap, _, hlonger⟩ := hmessage
    refine h.oneLine ?_
    rw [hlonger]
    exact List.mem_append_left _ ((List.dropWhile_suffix isBlank).subset hmem)
  have hfind : bracketed none (remark.opening ++ message ++ rest) =
      some (⟨decimal remark.line, decimal remark.column, remark.severity, trimStart message⟩,
        rest) := by
    have hgap : ∀ c ∈ message.takeWhile isBlank, isBlank c = true :=
      fun c hc => List.mem_takeWhile_imp hc
    have hread := bracketed_printed h hgap hne hhead hline hrest none
    rwa [← List.append_assoc (message.takeWhile isBlank), hparts, ← List.append_assoc] at hread
  have hreading : Padded (remark.opening ++ message) remark.print.toList := by
    obtain ⟨gap, hgap, hlonger⟩ := hmessage
    exact ⟨gap, hgap, by rw [Remark.toList_print, hlonger, List.append_assoc]⟩
  have hnonempty : remark.opening ++ message ≠ [] := List.cons_ne_nil _ _
  rw [readings, findAll_read (fun _ => rfl) hnonempty hfind, List.filterMap_cons,
    place?_printed h htrim hreading]
  rfl

theorem trimEnd_printed {remark : Remark} (h : remark.Printable) :
    trimEnd (remark.opening ++ remark.message.toList) =
      remark.opening ++ trimEnd remark.message.toList := by
  refine trimEnd_append _ fun hnil => h.trim_ne_nil ?_
  have hpadded := (padded_trimEnd remark.message.toList).trim
  rw [← hpadded, hnil]
  rfl

/-- Only the last remark may have lost trailing blanks to trimming. -/
theorem readings_transcript {remarks : List Remark} (hne : remarks ≠ [])
    (h : ∀ remark ∈ remarks, remark.Printable) :
    trimEnd (Remark.transcript remarks).toList ≠ [] ∧
    readings (bracketed, fun _ => false) (trimEnd (Remark.transcript remarks).toList) =
      remarks.map Remark.placed := by
  induction remarks with
  | nil => contradiction
  | cons remark remarks ih =>
    obtain ⟨hremark, hremarks⟩ := List.forall_mem_cons.1 h
    cases remarks with
    | nil =>
      rw [Remark.toList_transcript_single, trimEnd_printed hremark]
      refine ⟨List.cons_ne_nil _ _, ?_⟩
      have hend : ∀ c ∈ ([] : List Char).head?, c = '\n' := nofun
      have hread := readings_printed hremark (padded_trimEnd remark.message.toList) hend
      rwa [List.append_nil] at hread
    | cons following remarks =>
      obtain ⟨hmore, hreadings⟩ := ih (List.cons_ne_nil _ _) hremarks
      have htrim : trimEnd (Remark.transcript (remark :: following :: remarks)).toList =
          remark.opening ++ remark.message.toList ++
            '\n' :: trimEnd (Remark.transcript (following :: remarks)).toList := by
        rw [Remark.toList_transcript_cons, List.append_cons, trimEnd_append _ hmore,
          ← List.append_cons]
      have hpass : bracketed none
          ('\n' :: trimEnd (Remark.transcript (following :: remarks)).toList) = none :=
        char_other (by decide) _
      rw [htrim]
      refine ⟨List.cons_ne_nil _ _, ?_⟩
      rw [readings_printed hremark (.refl _) (by rintro _ ⟨rfl⟩; rfl), readings,
        findAll_pass (fun _ => rfl) hpass]
      exact congrArg (remark.placed :: ·) hreadings

theorem trim_transcript {remarks : List Remark} (hne : remarks ≠ []) :
    trim (Remark.transcript remarks).toList = trimEnd (Remark.transcript remarks).toList := by
  have hstart : trimStart (Remark.transcript remarks).toList =
      (Remark.transcript remarks).toList := by
    cases remarks with
    | nil => contradiction
    | cons remark remarks =>
      cases remarks with
      | nil =>
        rw [Remark.toList_transcript_single]
        exact List.dropWhile_cons_of_neg (by decide)
      | cons following remarks =>
        rw [Remark.toList_transcript_cons]
        exact List.dropWhile_cons_of_neg (by decide)
  rw [trim, hstart]

theorem locateAll_transcript {remarks : List Remark} (hne : remarks ≠ [])
    (h : ∀ remark ∈ remarks, remark.Printable)
    (hstatus : isStatusLine (trim (Remark.transcript remarks).toList) = false) :
    locateAll (Remark.transcript remarks).toList = remarks.map Remark.placed := by
  obtain ⟨hblank, hreadings⟩ := readings_transcript hne h
  rw [← trim_transcript hne] at hblank hreadings
  have hsome : readings (bracketed, fun _ => false) (trim (Remark.transcript remarks).toList) ≠
      [] := by
    rw [hreadings]
    exact mt List.map_eq_nil_iff.1 hne
  have hfirst : firstReadings (trim (Remark.transcript remarks).toList) dialects =
      remarks.map Remark.placed := by
    rw [dialects, firstReadings_take _ hsome, hreadings]
  rw [locateAll_read hblank hstatus (hfirst ▸ hreadings ▸ hsome), hfirst]

/-! ### Errors and warnings -/

theorem Remark.infix_transcript {remark : Remark} {remarks : List Remark} (h : remark ∈ remarks) :
    remark.print.toList <:+: (Remark.transcript remarks).toList := by
  induction remarks with
  | nil => cases h
  | cons first remarks ih =>
    cases remarks with
    | nil =>
      refine ⟨[], [], ?_⟩
      rw [List.nil_append, List.append_nil, List.mem_singleton.1 h, toList_transcript_single,
        toList_print]
    | cons following remarks =>
      rw [toList_transcript_cons]
      rcases List.mem_cons.1 h with rfl | hmore
      · rw [← toList_print]
        exact (List.prefix_append _ _).isInfix
      · rw [List.append_cons]
        exact (ih hmore).trans (List.suffix_append _ _).isInfix

theorem Remark.infix_label (remark : Remark) :
    '[' :: (remark.label.toList ++ [']']) <:+: remark.print.toList := by
  rw [toList_print]
  refine List.IsPrefix.isInfix ⟨' ' :: 'L' :: (decimal remark.line ++ ':' ::
    (decimal remark.column ++ [' '])) ++ remark.message.toList, ?_⟩
  simp only [opening, List.cons_append, List.append_assoc, List.nil_append]

theorem counted_of_label {remark : Remark} (h : remark.label = "error" ∨ remark.label = "warning") :
    countsHeader remark.print.toList = true := by
  have hlabel := remark.infix_label
  refine List.any_eq_true.2 ?_
  obtain h | h := h
  · rw [h] at hlabel
    exact ⟨"[error]", by decide, (hasWord_iff _ _).2 hlabel⟩
  · rw [h] at hlabel
    exact ⟨"[warning]", by decide, (hasWord_iff _ _).2 hlabel⟩

/-- A transcript with labels `error` and `warning`, and at least one error, yields one record for
each remark, in order: the line is reduced by the header and clamped to 1, and the message is
cleaned. -/
theorem normalize_transcript (remarks : List Remark)
    (h : ∀ remark ∈ remarks, remark.Printable)
    (hlabels : ∀ remark ∈ remarks,
      remark.severity ≠ .info ∧ remark.label = remark.severity.label)
    (herror : ∃ remark ∈ remarks, remark.severity = .error) (header : Nat) :
    normalize (Remark.transcript remarks) header = remarks.map fun remark =>
      { message := clean (String.ofList (trim remark.message.toList))
        line := max 1 (remark.line - header)
        column := some remark.column
        severity := remark.severity
        offset := 0
        length := 0 } := by
  obtain ⟨first, hfirst, hsevere⟩ := herror
  have hne : remarks ≠ [] := List.ne_nil_of_mem hfirst
  have hmarked : hasErrorMarker (trim (Remark.transcript remarks).toList) = true := by
    have hlabel := first.infix_label.trans (Remark.infix_transcript hfirst)
    rw [(hlabels first hfirst).2, hsevere] at hlabel
    rw [trim_transcript hne, ← hasErrorMarker_padded (padded_trimEnd _)]
    exact List.any_eq_true.2 ⟨"[error]", by decide, (hasWord_iff _ _).2 hlabel⟩
  have hstatus : isStatusLine (trim (Remark.transcript remarks).toList) = false := by
    rw [isStatusLine, hmarked]
    rfl
  rw [normalize, locateAll_transcript hne h hstatus, List.map_map]
  refine List.map_congr_left fun remark hremark => ?_
  have hcounted : countsHeader remark.print.toList = true := by
    obtain ⟨hinfo, hlabel⟩ := hlabels remark hremark
    refine counted_of_label ?_
    rw [hlabel]
    cases hlevel : remark.severity with
    | error => exact .inl rfl
    | warning => exact .inr rfl
    | info => contradiction
  simp only [Function.comp_apply, Remark.placed, Placed.below, hcounted, if_true, clean_trim]

/-- Messages may quote locations, labels and status phrases. -/
theorem normalize_transcript_quoting :
    let remarks : List Remark :=
      [⟨.error, "error", 20, 1, "unresolved value 'a'. Line:3"⟩,
        ⟨.warning, "warning", 22, 3, " 12:4 - error: compiled successfully [info] L1:1 x "⟩]
    (normalize (Remark.transcript remarks) 13).map
        (fun record => (record.line, record.column, record.severity, record.message)) =
      [(7, some 1, .error, "unresolved value 'a'. Line:3"),
        (9, some 3, .warning, "compiled successfully [info] L1:1 x")] := by
  intro remarks
  have hprintable : ∀ remark ∈ remarks, remark.Printable := by
    refine List.forall_mem_cons.2 ⟨?_, List.forall_mem_singleton.2 ?_⟩
    · exact ⟨by decide, by decide, by decide, by decide, by decide +kernel⟩
    · exact ⟨by decide, by decide, by decide, by decide, by decide +kernel⟩
  have hlabels : ∀ remark ∈ remarks,
      remark.severity ≠ .info ∧ remark.label = remark.severity.label := by
    decide
  rw [normalize_transcript remarks hprintable hlabels ⟨_, List.mem_cons_self, rfl⟩ 13]
  decide +kernel

end ShaderPreview.Diagnostic
