import ShaderPreview.Proofs.Diagnostic.Unread

/-!
# Declined reports

The `line N: message` dialect declines messages of success, and no other dialect matches such a
report. The fallback still finds a line number, so the whole report becomes an error unless it is a
status line.
-/

namespace ShaderPreview.Diagnostic

open Text

/-! ### Phrases of status lines -/

/-- The text contains a status phrase. -/
def HasStatusPhrase (text : List Char) : Prop :=
  ∃ words ∈ statusPhrases, ∃ before written rest,
    text = before ++ (written ++ rest) ∧ Writes words written

theorem Writes.ends {words : List String} {written : List Char} (h : Writes words written)
    (hletters : ∀ word ∈ words, word.toList ≠ [] ∧ ∀ c ∈ word.toList, 'a' ≤ c ∧ c ≤ 'z') :
    ∀ c ∈ written.getLast?, isBlank c = false := by
  have hspelled {word : String} {text : List Char} (hword : text.map foldCase = word.toList)
      (hletter : ∀ c ∈ word.toList, 'a' ≤ c ∧ c ≤ 'z') :
      ∀ c ∈ text.getLast?, isBlank c = false := by
    intro c hc
    refine letter_not_blank (hletter _ ?_)
    rw [← hword]
    exact List.mem_map_of_mem (List.mem_of_getLast? hc)
  induction h with
  | nothing => nofun
  | word spelled => exact hspelled spelled (hletters _ List.mem_cons_self).2
  | @words word following words text gap rest spelled apart blank continues ih =>
    obtain ⟨_, hmore⟩ := List.forall_mem_cons.1 hletters
    have hrest : rest ≠ [] := by
      obtain ⟨read, after, rfl, hread⟩ := continues.spells
      have hne := (hmore following List.mem_cons_self).1
      rw [← hread] at hne
      exact List.append_ne_nil_of_left_ne_nil (mt (congrArg (List.map foldCase)) hne) after
    rw [List.getLast?_append_of_ne_nil _ (List.append_ne_nil_of_right_ne_nil gap hrest),
      List.getLast?_append_of_ne_nil _ hrest]
    exact ih hmore

theorem hasStatusPhrase_trimEnd (text : List Char) :
    HasStatusPhrase (trimEnd text) ↔ HasStatusPhrase text := by
  have hne : ∀ words ∈ statusPhrases, ∀ word ∈ words, word.toList ≠ [] := by decide +kernel
  have hoccurs (text : List Char) : HasStatusPhrase text ↔
      ∃ words ∈ statusPhrases, ∃ written, written <:+: text ∧ Writes words written := by
    constructor
    · rintro ⟨words, hwords, before, written, rest, rfl, hwrites⟩
      exact ⟨words, hwords, written, ⟨before, rest, List.append_assoc ..⟩, hwrites⟩
    · rintro ⟨words, hwords, written, ⟨before, rest, rfl⟩, hwrites⟩
      exact ⟨words, hwords, before, written, rest, List.append_assoc .., hwrites⟩
  rw [hoccurs, hoccurs]
  refine exists_congr fun words => and_congr_right fun hwords => exists_congr fun written =>
    and_congr_left fun hwrites => ?_
  have hforeign := foreign_phrase (List.mem_append_left _ hwords) hwrites
  have hends := hwrites.ends fun word hword =>
    ⟨hne words hwords word hword, (phrases_lettered words hwords).2 word hword⟩
  rw [← hasWord_iff, ← hasWord_iff,
    hasWord_padded hforeign.ne_nil hends (padded_trimEnd text)]

/-! ### Success in any letter case -/

theorem isBlank_lowerAscii (c : Char) : isBlank (lowerAscii c) = isBlank c := by
  rw [lowerAscii]
  split
  · rename_i hupper
    obtain ⟨hfrom, hto⟩ := hupper
    have hfrom : 65 ≤ c.toNat := hfrom
    have hto : c.toNat ≤ 90 := hto
    have hletters :
        ∀ i < 26, isBlank (Char.ofNat (65 + i + 32)) = isBlank (Char.ofNat (65 + i)) := by
      decide
    have hcode : c.toNat = 65 + (c.toNat - 65) := by omega
    have hsame := hletters (c.toNat - 65) (by omega)
    rwa [← hcode, Char.ofNat_toNat] at hsame
  · rfl

theorem trim_lowerAscii (text : List Char) :
    trim (text.map lowerAscii) = (trim text).map lowerAscii := by
  have hblank : isBlank ∘ lowerAscii = isBlank := funext isBlank_lowerAscii
  simp only [trim, trimEnd, trimStart, List.dropWhile_map, ← List.map_reverse, hblank]

theorem infix_trim {word text : List Char} (hne : word ≠ []) (hword : word.any isBlank = false) :
    word <:+: trim text ↔ word <:+: text := by
  have hbare : ∀ c ∈ word, ¬ isBlank c = true := List.any_eq_false.1 hword
  have hstart : word <:+: trimStart text ↔ word <:+: text := by
    refine ⟨fun h => h.trans (List.dropWhile_suffix isBlank).isInfix, fun h => ?_⟩
    induction text with
    | nil => exact h
    | cons c text ih =>
      by_cases hc : isBlank c = true
      · rw [trimStart, List.dropWhile_cons_of_pos hc]
        exact ih (infix_behind (fun hmem => hbare c hmem hc) h)
      · rwa [trimStart, List.dropWhile_cons_of_neg hc]
  have hlast : ∀ c ∈ word.getLast?, isBlank c = false := fun c hc =>
    Bool.eq_false_iff.2 (hbare c (List.mem_of_getLast? hc))
  rw [← hstart, ← hasWord_iff, ← hasWord_iff,
    hasWord_padded hne hlast (padded_trimEnd (trimStart text)), trim]

theorem reportsSuccess_iff (message : List Char) : reportsSuccess message = true ↔
    "success".toList <:+: message.map lowerAscii :=
  hasWord_iff _ _

theorem reportsSuccess_trim (message : List Char) :
    reportsSuccess (trim message) = reportsSuccess message := by
  rw [Bool.eq_iff_iff, reportsSuccess_iff, reportsSuccess_iff, ← trim_lowerAscii]
  exact infix_trim (by decide) (by decide)

/-! ### A message behind a colon -/

theorem colonMessage_written {line column lead text : List Char}
    (hlead : ∀ c ∈ lead, isBlank c = true) (hline : '\n' ∉ text) (hsome : trimStart text ≠ []) :
    colonMessage line column (lead ++ ':' :: text) =
      some (⟨line, column, .error, trimStart text⟩, []) := by
  have hbody : '\n' ∉ trimStart text := fun hmem =>
    hline ((List.dropWhile_suffix isBlank).subset hmem)
  have hmessage : restOfLine (fun message => excerpt line column .error message)
      (trimStart text ++ []) = some (⟨line, column, .error, trimStart text⟩, []) :=
    restOfLine_written hsome hbody nofun
  have hhead : ∀ c ∈ (trimStart text).head?, isBlank c = false := by
    intro c hc
    obtain ⟨more, hcons⟩ := List.head?_eq_some_iff.1 hc
    exact trimStart_head_not_blank hcons
  have hparts : text.takeWhile isBlank ++ trimStart text = text := List.takeWhile_append_dropWhile
  have hblanks : blanks (restOfLine fun message => excerpt line column .error message) text =
      some (⟨line, column, .error, trimStart text⟩, []) := by
    rw [List.append_nil] at hmessage
    rw [← hparts, blanks_written (fun c hc => List.mem_takeWhile_imp hc) hhead, hparts]
    · exact hmessage
    · rw [hmessage]
      rfl
  have hchar : char ':' (blanks (restOfLine fun message => excerpt line column .error message))
      (':' :: text) = some (⟨line, column, .error, trimStart text⟩, []) := by
    rw [char_written, hblanks]
  rw [colonMessage, blanks_written hlead]
  · exact hchar
  · rintro _ ⟨rfl⟩
    decide
  · rw [hchar]
    rfl

namespace LineReport

variable {report : LineReport}

/-! ### Status lines -/

theorem Printable.unmarked (h : report.Printable) {text : List Char}
    (htext : hasErrorMarker text = false) : hasErrorMarker (report.opening ++ text) = false := by
  rw [hasErrorMarker, List.any_eq_false] at htext ⊢
  intro marker hmarker
  refine mt (fun hword => ?_) (htext marker hmarker)
  rw [hasWord_iff] at hword ⊢
  exact h.infix_message (foreign_marker marker hmarker) hword

theorem Printable.isStatusLine_iff (h : report.Printable) {text : List Char}
    (htext : hasErrorMarker text = false) :
    isStatusLine (report.opening ++ text) = true ↔ HasStatusPhrase text := by
  have hunmarked : ∀ marker ∈ errorMarkers, ¬ marker.toList <:+: report.opening ++ text := by
    have hnone := h.unmarked htext
    simp only [hasErrorMarker, List.any_eq_false, hasWord_iff] at hnone
    exact hnone
  rw [Diagnostic.isStatusLine_iff]
  constructor
  · intro hstatus
    obtain ⟨words, hwords, before, written, rest, hsplit, hwrites⟩ |
      ⟨words, hwords, written, rest, hsplit, hwrites⟩ := hstatus.reports
    · have hwritten : written <:+: report.opening ++ text :=
        ⟨before, rest, by rw [hsplit, List.append_assoc]⟩
      obtain ⟨ahead, behind, htext⟩ := h.infix_message
        (foreign_phrase (List.mem_append_left _ hwords) hwrites) hwritten
      exact ⟨words, hwords, ahead, written, behind, by rw [← htext, List.append_assoc], hwrites⟩
    · -- an opening of a status line would begin the report
      exact absurd ⟨rest, hsplit.symm⟩ (h.not_prefix
        (foreign_phrase (List.mem_append_right _ hwords) hwrites) List.suffix_rfl h.opening_ne_nil
        text)
  · rintro ⟨words, hwords, before, written, rest, rfl, hwrites⟩
    exact ⟨hunmarked, .inl ⟨words, hwords, report.opening ++ before, written, rest,
      (List.append_assoc ..).symm, hwrites⟩⟩

/-! ### The dialect that declines -/

theorem Printable.linePrefixed_written (h : report.Printable) {text : List Char}
    (hline : '\n' ∉ text) (hsome : trimStart text ≠ []) :
    linePrefixed none (report.opening ++ text) =
      some (⟨decimal report.line, [], .error, trimStart text⟩, []) := by
  have hstart : trimStart (' ' :: text) = trimStart text := List.dropWhile_cons_of_pos (by decide)
  have hcolon : colonMessage (decimal report.line) [] (report.lead.toList ++ ':' :: ' ' :: text) =
      some (⟨decimal report.line, [], .error, trimStart (' ' :: text)⟩, []) :=
    colonMessage_written h.lead (List.not_mem_cons_of_ne_of_not_mem (by decide) hline)
      (hstart ▸ hsome)
  have hread : caseless "line" (someBlanks (digits fun line => colonMessage line []))
      (report.opening ++ text) = some (⟨decimal report.line, [], .error, trimStart text⟩, []) := by
    rw [← hstart]
    exact (h.line_written (by rw [hcolon]; rfl)).trans hcolon
  have hfree : noWord none = true := rfl
  rw [linePrefixed, if_pos hfree]
  exact hread

theorem Printable.readings_linePrefixed (h : report.Printable) {text : List Char}
    (hline : '\n' ∉ text) (hsuccess : reportsSuccess text = true) :
    readings (linePrefixed, reportsSuccess) (report.opening ++ text) = [] := by
  rw [← reportsSuccess_trim] at hsuccess
  have hsome : trimStart text ≠ [] := by
    intro hnil
    rw [trim, hnil] at hsuccess
    cases hsuccess
  have hfind := h.linePrefixed_written hline hsome
  obtain ⟨c, more, hopening, _⟩ := h.opening_cons
  rw [hopening, List.cons_append] at hfind ⊢
  have hplace (reading : List Char) : place? reportsSuccess
      (⟨decimal report.line, [], .error, trimStart text⟩, reading) = none := by
    rw [place?, trim_trimStart, hsuccess, Bool.or_true]
    rfl
  have hall : findAll linePrefixed (c :: (more ++ text)) =
      [(⟨decimal report.line, [], .error, trimStart text⟩, between (c :: (more ++ text)) [])] := by
    have hbehind : (more ++ text).length ≤ (more ++ text).length - ([] : List Char).length :=
      Nat.le_refl _
    rw [findAll, findFrom, hfind]
    exact congrArg _ (findFrom_past hbehind)
  rw [readings, hall, List.filterMap_cons, hplace]
  rfl

/-! ### The line that is mentioned -/

theorem Printable.looseLine_written (h : report.Printable) (text : List Char) :
    looseLine none (report.opening ++ text) =
      some (decimal report.line, report.lead.toList ++ ':' :: ' ' :: text) := by
  have hnumber : digits (fun line rest => some (line, rest))
      (decimal report.line ++ (report.lead.toList ++ ':' :: ' ' :: text)) =
      some (decimal report.line, report.lead.toList ++ ':' :: ' ' :: text) :=
    digits_written (decimal_ne_nil _) (digit_ascii_run _) (h.lead_head _)
  rw [opening_append, looseLine, caseless_written h.word, blankOrColon_written h.apart h.gap]
  · exact hnumber
  · intro c hc
    have hdigit := decimal_head _ _ c hc
    refine ⟨ascii_not_blank hdigit, ?_⟩
    rintro rfl
    exact absurd hdigit (by decide)
  · rw [hnumber]
    rfl

theorem Printable.mentionedLine_written (h : report.Printable) (hpos : 1 ≤ report.line)
    (hlt : report.line < word32Bound) (text : List Char) :
    mentionedLine? (report.opening ++ text) = some report.line := by
  have hsplit : report.opening ++ text = (report.word.toList ++ (report.gap.toList ++
      decimal report.line)) ++ (report.lead.toList ++ ':' :: ' ' :: text) := by
    rw [opening_append]
    simp only [List.append_assoc]
  have hfind := h.looseLine_written text
  rw [hsplit] at hfind ⊢
  have hne : report.word.toList ++ (report.gap.toList ++ decimal report.line) ≠ [] :=
    List.append_ne_nil_of_right_ne_nil _ (List.append_ne_nil_of_right_ne_nil _ (decimal_ne_nil _))
  rw [mentionedLine?, findAll_read (fun _ => rfl) hne hfind, List.findSome?_cons,
    position?_decimal hpos hlt]

/-! ### What becomes of a report of success -/

/-- The report is on one line, its message contains a success word in any letter case and no error
marker, and no earlier dialect matches. -/
structure SuccessReport (report : LineReport) : Prop extends report.Printable where
  success : "success".toList <:+: report.message.toList.map lowerAscii
  unmarked : ∀ marker ∈ errorMarkers, ¬ marker.toList <:+: report.message.toList
  unread : ∀ dialect ∈ [bracketed, stopped, ranged, errorAtLine, atLineColumn],
    findAll dialect report.message.toList = []

theorem SuccessReport.reports (h : report.SuccessReport) :
    reportsSuccess (trimEnd report.message.toList) = true := by
  rw [← reportsSuccess_trim, trim_trimEnd, reportsSuccess_trim]
  exact (reportsSuccess_iff _).2 h.success

theorem SuccessReport.trim_print (h : report.SuccessReport) :
    trim report.print.toList = report.opening ++ trimEnd report.message.toList := by
  refine h.toPrintable.trim_print fun hnil => ?_
  have hreports := h.reports
  rw [hnil] at hreports
  cases hreports

theorem SuccessReport.firstReadings_nil (h : report.SuccessReport) :
    firstReadings (report.opening ++ trimEnd report.message.toList) dialects = [] := by
  have hprintable := h.toPrintable
  have hone : '\n' ∉ report.opening ++ trimEnd report.message.toList := by
    intro hmem
    refine h.oneLine ?_
    obtain ⟨gap, _, hmessage⟩ := padded_trimEnd report.message.toList
    rw [toList_print, hmessage, ← List.append_assoc]
    exact List.mem_append_left _ hmem
  have hline : '\n' ∉ trimEnd report.message.toList := fun hmem =>
    hone (List.mem_append_right _ hmem)
  have hunread := h.unread
  simp only [List.forall_mem_cons] at hunread
  obtain ⟨hbracketed, hstopped, hranged, herror, hcolumn, _⟩ := hunread
  have hparts := find_padded (fun _ => rfl) tolerant_stopped rfl
    (padded_trimEnd report.message.toList) hstopped
  rw [dialects, firstReadings_skip, firstReadings_skip, firstReadings_skip, firstReadings_skip,
    firstReadings_skip, firstReadings_skip, firstReadings_skip, firstReadings]
  · exact hprintable.readings_numbered hone
  · exact hprintable.readings_linePrefixed hline h.reports
  · exact readings_nothing (findAll_message (fun _ => rfl) tolerant_atLineColumn rfl hcolumn
      fun tail htail hne => hprintable.caseless_refuses (by decide) htail hne _)
  · exact readings_nothing (findAll_message (fun _ => rfl) tolerant_errorAtLine rfl herror
      fun tail htail hne => hprintable.caseless_refuses (by decide) htail hne _)
  · exact readings_nothing (findAll_message (fun _ => rfl) tolerant_ranged rfl hranged
      fun tail htail hne => hprintable.ranged_refuses htail hne _)
  · exact hprintable.readings_stopped hparts
  · exact readings_nothing (findAll_message (fun _ => rfl) tolerant_bracketed rfl hbracketed
      fun tail htail hne => hprintable.char_refuses (by decide) htail hne _)

theorem SuccessReport.isStatusLine_iff (h : report.SuccessReport) :
    isStatusLine (trim report.print.toList) = true ↔ HasStatusPhrase report.message.toList := by
  have hunmarked : hasErrorMarker (trimEnd report.message.toList) = false := by
    rw [← hasErrorMarker_padded (padded_trimEnd _), hasErrorMarker, List.any_eq_false]
    exact fun marker hmarker => mt (hasWord_iff _ _).1 (h.unmarked marker hmarker)
  rw [h.trim_print, h.toPrintable.isStatusLine_iff hunmarked, hasStatusPhrase_trimEnd]

theorem SuccessReport.locateAll_whole (h : report.SuccessReport)
    (hplain : ¬ HasStatusPhrase report.message.toList) :
    locateAll report.print.toList = [wholeText (trim report.print.toList)] := by
  have hstatus : isStatusLine (trim report.print.toList) = false := by
    rw [← Bool.not_eq_true, h.isStatusLine_iff]
    exact hplain
  have hblank : trim report.print.toList ≠ [] := by
    rw [h.trim_print]
    exact List.append_ne_nil_of_left_ne_nil h.opening_ne_nil _
  refine Diagnostic.locateAll_whole hblank hstatus ?_
  rw [h.trim_print]
  exact h.firstReadings_nil

end LineReport

/-- A `line N: message` report of success yields no error exactly if its message contains a status
phrase. Otherwise the dialect declines it, but the fallback turns the whole report into an error on
its line. -/
theorem normalize_declined (report : LineReport) (h : report.SuccessReport) (header : Nat) :
    (rejects (normalize report.print header) = false ↔ HasStatusPhrase report.message.toList) ∧
    (¬ HasStatusPhrase report.message.toList → 1 ≤ report.line → report.line < word32Bound →
      normalize report.print header =
        [{ message := String.ofList (trim report.print.toList)
           line := max 1 (report.line - header)
           column := none
           severity := .error
           offset := 0
           length := 0 }]) := by
  constructor
  · by_cases hstatus : HasStatusPhrase report.message.toList
    · have hnone : normalize report.print header = [] :=
        (normalize_eq_nil _ _).2 (.inr (h.isStatusLine_iff.2 hstatus))
      rw [hnone]
      exact iff_of_true rfl hstatus
    · rw [normalize, h.locateAll_whole hstatus, rejects_below]
      refine iff_of_false (fun hmild => ?_) hstatus
      exact hmild _ (List.mem_singleton_self _) (severity_wholeText _)
  · intro hplain hpos hlt
    have hmentioned := h.mentionedLine_written hpos hlt (trimEnd report.message.toList)
    rw [← h.trim_print] at hmentioned
    rw [normalize, h.locateAll_whole hplain, List.map_singleton, wholeText, hmentioned]
    rfl

/-- Below a header of five lines, `Success!` on line 9 becomes an error on line 4; with a status
phrase there is none. -/
theorem normalize_declined_success :
    let success : LineReport := ⟨"line", " ", 9, "", "Success!"⟩
    let announced : LineReport := ⟨"LINE", "  ", 9, " ", "Shader compiled. SUCCESS"⟩
    (success.print = "line 9: Success!" ∧ normalize success.print 5 =
      [{ message := "line 9: Success!", line := 4, column := none, severity := .error,
         offset := 0, length := 0 }]) ∧
    rejects (normalize announced.print 5) = false := by
  intro success announced
  have hsuccess : success.SuccessReport :=
    { word := by decide, apart := by decide, gap := List.all_eq_true.1 (by decide),
      lead := List.all_eq_true.1 (by decide),
      oneLine := by decide +kernel, success := by decide +kernel, unmarked := by decide +kernel,
      unread := by decide +kernel }
  have hannounced : announced.SuccessReport :=
    { word := by decide, apart := by decide, gap := List.all_eq_true.1 (by decide),
      lead := List.all_eq_true.1 (by decide),
      oneLine := by decide +kernel, success := by decide +kernel, unmarked := by decide +kernel,
      unread := by decide +kernel }
  have hplain : ¬ HasStatusPhrase "Success!".toList := by
    rintro ⟨words, hwords, hphrase⟩
    rw [← occurs_phrase] at hphrase
    revert hphrase
    revert words
    decide +kernel
  have hphrase : HasStatusPhrase announced.message.toList := by
    refine ⟨["shader", "compiled"], by decide, ?_⟩
    rw [← occurs_phrase]
    decide +kernel
  refine ⟨⟨by decide +kernel, ?_⟩, (normalize_declined announced hannounced 5).1.2 hphrase⟩
  rw [(normalize_declined success hsuccess 5).2 hplain (by decide) (by decide)]
  decide +kernel

end ShaderPreview.Diagnostic
