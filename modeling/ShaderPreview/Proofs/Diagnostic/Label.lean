import ShaderPreview.Proofs.Diagnostic.Transcript

/-!
# Labels of remarks

All labels are read case-insensitively, but the header offset is applied only for the spellings
`[error]` and `[warning]`.
-/

namespace ShaderPreview.Diagnostic

open Text

/-! ### What phrases are made of -/

/-- Neither a blank nor a letter. -/
def Delimits (c : Char) : Prop := isBlank c = false ∧ ¬ ('a' ≤ foldCase c ∧ foldCase c ≤ 'z')

theorem delimits_digit {c : Char} (h : c.isDigit = true) : Delimits c := by
  have hrange : 48 ≤ c.toNat ∧ c.toNat ≤ 57 := Char.isDigit_iff_toNat.1 h
  have hs : c ≠ 'ſ' := by
    rintro rfl
    exact absurd h (by decide)
  have hk : c ≠ 'K' := by
    rintro rfl
    exact absurd h (by decide)
  have hupper : ¬ ('A' ≤ c ∧ c ≤ 'Z') := by
    rintro ⟨hfrom, _⟩
    have hfrom : 65 ≤ c.toNat := hfrom
    omega
  constructor
  · exact ascii_not_blank h
  · rw [foldCase, if_neg hs, if_neg hk, lowerAscii, if_neg hupper]
    rintro ⟨hfrom, _⟩
    have hfrom : 97 ≤ c.toNat := hfrom
    omega

theorem Writes.characters {words : List String} {written : List Char} (h : Writes words written) :
    ∀ c ∈ written, isBlank c = true ∨ ∃ word ∈ words, foldCase c ∈ word.toList := by
  have hspelled {word : String} {text : List Char} (hword : text.map foldCase = word.toList) :
      ∀ c ∈ text, foldCase c ∈ word.toList := by
    intro c hc
    rw [← hword]
    exact List.mem_map_of_mem hc
  induction h with
  | nothing => nofun
  | word spelled => exact fun c hc => .inr ⟨_, List.mem_cons_self, hspelled spelled c hc⟩
  | words spelled apart blank continues ih =>
    intro c hc
    rcases List.mem_append.1 hc with hc | hc
    · exact .inr ⟨_, List.mem_cons_self, hspelled spelled c hc⟩
    rcases List.mem_append.1 hc with hc | hc
    · exact .inl (blank c hc)
    · obtain hblank | ⟨word, hword, hletter⟩ := ih c hc
      · exact .inl hblank
      · exact .inr ⟨word, List.mem_cons_of_mem _ hword, hletter⟩

theorem Writes.length_le {words : List String} {written : List Char} (h : Writes words written) :
    (words.flatMap String.toList).length ≤ written.length := by
  have hspelled {word : String} {text : List Char} (hword : text.map foldCase = word.toList) :
      word.toList.length = text.length := by
    rw [← hword, List.length_map]
  induction h with
  | nothing => exact Nat.le_refl 0
  | word spelled =>
    rw [List.flatMap_singleton, hspelled spelled]
  | words spelled apart blank continues ih =>
    rw [List.flatMap_cons, List.length_append, hspelled spelled, List.length_append,
      List.length_append]
    omega

theorem Writes.begins {word : String} {words : List String} {written : List Char}
    (h : Writes (word :: words) written) {w : Char} {letters : List Char}
    (hword : word.toList = w :: letters) : ∃ c rest, written = c :: rest ∧ foldCase c = w := by
  have hspelled {text : List Char} (htext : text.map foldCase = word.toList) :
      ∃ c rest, text = c :: rest ∧ foldCase c = w := by
    rw [hword] at htext
    obtain ⟨c, rest, rfl, hc, _⟩ := List.map_eq_cons_iff.1 htext
    exact ⟨c, rest, rfl, hc⟩
  cases h with
  | word spelled => exact hspelled spelled
  | words spelled apart blank continues =>
    obtain ⟨c, rest, rfl, hc⟩ := hspelled spelled
    exact ⟨c, _, rfl, hc⟩

theorem phrases_lettered : ∀ words ∈ statusPhrases,
    7 < (words.flatMap String.toList).length ∧
    ∀ word ∈ words, ∀ c ∈ word.toList, 'a' ≤ c ∧ c ≤ 'z' := by
  have hall : ∀ words ∈ statusPhrases, 7 < (words.flatMap String.toList).length ∧
      ∀ word ∈ words, (word.toList.all fun c => decide ('a' ≤ c ∧ c ≤ 'z')) = true := by
    decide +kernel
  intro words hwords
  obtain ⟨hlength, hletters⟩ := hall words hwords
  exact ⟨hlength, fun word hword c hc =>
    of_decide_eq_true (List.all_eq_true.1 (hletters word hword) c hc)⟩

theorem not_mem_phrase {words : List String} (hwords : words ∈ statusPhrases)
    {written : List Char} (h : Writes words written) {c : Char} (hc : Delimits c) :
    c ∉ written := by
  intro hmem
  obtain hblank | ⟨word, hword, hletter⟩ := h.characters c hmem
  · rw [hc.1] at hblank
    cases hblank
  · exact hc.2 ((phrases_lettered words hwords).2 word hword _ hletter)

theorem phrase_unpadded {words : List String} (hwords : words ∈ statusPhrases)
    {written rest : List Char} (h : Writes words written) (hwritten : written <:+: ' ' :: rest) :
    written <:+: rest := by
  obtain hprefix | hinfix := List.infix_cons_iff.1 hwritten
  · have hfirst : ∃ word more w letters, words = word :: more ∧ word.toList = w :: letters := by
      have hall : ∀ words ∈ statusPhrases,
          (words.head?.bind fun word => word.toList.head?).isSome = true := by decide +kernel
      have hsome := hall words hwords
      cases words with
      | nil => cases hsome
      | cons word more =>
        cases hletters : word.toList with
        | nil =>
          rw [List.head?_cons, Option.bind_some, hletters] at hsome
          cases hsome
        | cons w letters => exact ⟨word, more, w, letters, rfl, hletters⟩
    obtain ⟨word, more, w, letters, rfl, hletters⟩ := hfirst
    obtain ⟨c, after, rfl, hc⟩ := h.begins hletters
    obtain ⟨rfl, _⟩ := List.cons_prefix_cons.1 hprefix
    have hletter := (phrases_lettered _ hwords).2 word List.mem_cons_self w
      (by rw [hletters]; exact List.mem_cons_self)
    rw [← hc] at hletter
    exact absurd hletter (by decide)
  · exact hinfix

/-! ### The parts of a printed remark -/

variable {remark : Remark}

/-- Location as printed: `line:column`. -/
def Remark.position (remark : Remark) : List Char :=
  decimal remark.line ++ ':' :: decimal remark.column

theorem Remark.print_parts (remark : Remark) (message : List Char) :
    remark.opening ++ message =
      ('[' :: (remark.label.toList ++ [']', ' ', 'L'])) ++ (remark.position ++ ' ' :: message) := by
  simp only [opening, position, List.cons_append, List.append_assoc, List.nil_append]

theorem Remark.position_ne_nil (remark : Remark) : remark.position ≠ [] :=
  List.append_ne_nil_of_left_ne_nil (decimal_ne_nil _) _

theorem Remark.mem_position {c : Char} (h : c ∈ remark.position) : c.isDigit = true ∨ c = ':' := by
  rcases List.mem_append.1 h with hline | hcolumn
  · exact .inl (decimal_ascii _ c hline)
  · rcases List.mem_cons.1 hcolumn with rfl | hcolumn
    · exact .inr rfl
    · exact .inl (decimal_ascii _ c hcolumn)

theorem Remark.Printable.length_label (h : remark.Printable) :
    remark.label.toList.length = remark.severity.label.toList.length := by
  rw [← h.label, List.length_map]

/-! ### The two spellings -/

theorem markers_unplaced : ∀ marker ∈ compilationMarkers, 1 < marker.toList.length ∧
    ∀ c ∈ marker.toList, c.isDigit = false ∧ c ≠ ':' ∧ c ≠ ' ' := by
  have hall : ∀ marker ∈ compilationMarkers, 1 < marker.toList.length ∧
      (marker.toList.all fun c => decide (c.isDigit = false ∧ c ≠ ':' ∧ c ≠ ' ')) = true := by
    decide +kernel
  intro marker hmarker
  obtain ⟨hlength, hbare⟩ := hall marker hmarker
  exact ⟨hlength, fun c hc => of_decide_eq_true (List.all_eq_true.1 hbare c hc)⟩

theorem marker_label (level : Severity) : ∀ marker ∈ compilationMarkers,
    marker.toList.map foldCase <:+: '[' :: (level.label.toList ++ [']']) →
    level ≠ .info ∧ marker.toList = '[' :: (level.label.toList ++ [']']) := by
  cases level <;> decide +kernel

theorem counted_iff (h : remark.Printable)
    (hunmarked : ∀ marker ∈ compilationMarkers, ¬ marker.toList <:+: remark.message.toList) :
    countsHeader remark.print.toList = true ↔
      remark.label = "error" ∨ remark.label = "warning" := by
  refine ⟨fun hcounted => ?_, counted_of_label⟩
  obtain ⟨marker, hmarker, hword⟩ := List.any_eq_true.1 hcounted
  obtain ⟨hlength, hbare⟩ := markers_unplaced marker hmarker
  have hspace : ' ' ∉ marker.toList := fun hmem => (hbare _ hmem).2.2 rfl
  have hplace : ∀ c ∈ remark.position, c ∉ marker.toList := by
    intro c hc hmem
    obtain ⟨hdigit, hcolon, _⟩ := hbare c hmem
    obtain hposition | rfl := Remark.mem_position hc
    · rw [hdigit] at hposition
      cases hposition
    · exact hcolon rfl
  rw [hasWord_iff, Remark.toList_print, Remark.print_parts] at hword
  obtain hfront | hback := infix_of_apart_run remark.position_ne_nil hplace hword
  · have hlabel : marker.toList <:+: '[' :: (remark.label.toList ++ [']']) := by
      have hsplit : '[' :: (remark.label.toList ++ [']', ' ', 'L']) =
          ('[' :: (remark.label.toList ++ [']'])) ++ ' ' :: ['L'] := by
        simp only [List.cons_append, List.append_assoc, List.nil_append]
      rw [hsplit] at hfront
      obtain hfront | hletter := infix_of_apart hspace hfront
      · exact hfront
      · exact absurd hletter.length_le (Nat.not_le_of_gt hlength)
    have hfold :
        marker.toList.map foldCase <:+: '[' :: (remark.severity.label.toList ++ [']']) := by
      have hmap := hlabel.map foldCase
      rwa [List.map_cons, List.map_append, h.label] at hmap
    obtain ⟨hlevel, hspelled⟩ := marker_label remark.severity marker hmarker hfold
    have hequal : marker.toList = '[' :: (remark.label.toList ++ [']']) := by
      refine hlabel.eq_of_length ?_
      rw [hspelled, List.length_cons, List.length_cons, List.length_append, List.length_append,
        h.length_label]
    rw [hspelled] at hequal
    have hsame : remark.label = remark.severity.label :=
      String.toList_inj.1 (List.append_cancel_right (List.cons.inj hequal).2).symm
    rw [hsame]
    cases hseverity : remark.severity with
    | error => exact .inl rfl
    | warning => exact .inr rfl
    | info => exact absurd hseverity hlevel
  · exact absurd (infix_behind hspace hback) (hunmarked marker hmarker)

/-! ### No status line -/

theorem infix_message (h : remark.Printable) {words : List String} (hwords : words ∈ statusPhrases)
    {written : List Char} (hwrites : Writes words written)
    (hwritten : written <:+: remark.print.toList) : written <:+: remark.message.toList := by
  have hlength := Nat.lt_of_lt_of_le (phrases_lettered words hwords).1 hwrites.length_le
  have hplace : ∀ c ∈ remark.position, c ∉ written := by
    intro c hc
    obtain hdigit | rfl := Remark.mem_position hc
    · exact not_mem_phrase hwords hwrites (delimits_digit hdigit)
    · exact not_mem_phrase hwords hwrites ⟨by decide, by decide⟩
  have hopen : '[' ∉ written := not_mem_phrase hwords hwrites ⟨by decide, by decide⟩
  have hclose : ']' ∉ written := not_mem_phrase hwords hwrites ⟨by decide, by decide⟩
  rw [Remark.toList_print, Remark.print_parts] at hwritten
  obtain hfront | hback := infix_of_apart_run remark.position_ne_nil hplace hwritten
  · -- in front of the place there is no room for a phrase
    exfalso
    obtain hlabel | hletter := infix_of_apart hclose (infix_behind hopen hfront)
    · have hle := hlabel.length_le
      have hshort : remark.severity.label.toList.length ≤ 7 := by
        cases remark.severity <;> decide
      rw [h.length_label] at hle
      omega
    · have hle := hletter.length_le
      rw [List.length_cons, List.length_singleton] at hle
      omega
  · exact phrase_unpadded hwords hwrites hback

theorem Remark.transcript_single (remark : Remark) : transcript [remark] = remark.print := by
  rw [← String.toList_inj, toList_transcript_single, toList_print]

theorem not_status_printed (h : remark.Printable)
    (hquiet : ∀ words ∈ statusPhrases, ¬ ∃ before written rest,
      remark.message.toList = before ++ (written ++ rest) ∧ Writes words written) :
    isStatusLine (trim remark.print.toList) = false := by
  have htrim : trim remark.print.toList = trimEnd remark.print.toList := by
    rw [← Remark.transcript_single]
    exact trim_transcript (List.cons_ne_nil _ _)
  rw [← Bool.not_eq_true, isStatusLine_iff, htrim]
  intro hstatus
  obtain ⟨words, hwords, before, written, rest, htext, hwrites⟩ |
    ⟨words, hwords, written, rest, htext, hwrites⟩ := hstatus.reports
  · have hwritten : written <:+: remark.print.toList := by
      obtain ⟨gap, _, hprint⟩ := padded_trimEnd remark.print.toList
      rw [hprint, htext]
      exact ⟨before, rest ++ gap, by simp only [List.append_assoc]⟩
    obtain ⟨ahead, behind, hmessage⟩ := infix_message h hwords hwrites hwritten
    exact hquiet words hwords ⟨ahead, written, behind,
      by rw [← hmessage, List.append_assoc], hwrites⟩
  · rw [Remark.toList_print, trimEnd_printed h, Remark.opening, List.cons_append] at htext
    -- every opening begins with a letter, a printed remark with a bracket
    have hletter : ∃ c more, written = c :: more ∧ foldCase c ≠ '[' := by
      simp only [openings, List.mem_cons, List.not_mem_nil, or_false] at hwords
      obtain rfl | rfl | rfl := hwords
      · obtain ⟨c, more, hc, hfold⟩ := hwrites.begins (w := 'c') rfl
        exact ⟨c, more, hc, by rw [hfold]; decide⟩
      · obtain ⟨c, more, hc, hfold⟩ := hwrites.begins (w := 'l') rfl
        exact ⟨c, more, hc, by rw [hfold]; decide⟩
      · obtain ⟨c, more, hc, hfold⟩ := hwrites.begins (w := 's') rfl
        exact ⟨c, more, hc, by rw [hfold]; decide⟩
    obtain ⟨c, more, rfl, hc⟩ := hletter
    rw [List.cons_append] at htext
    rw [← (List.cons.inj htext).1] at hc
    exact hc (by decide)

/-! ### Where a remark lands -/

/-- A remark under any label yields one record. The header offset is subtracted if the label is
spelled `error` or `warning`; under other labels or spellings it is not, which changes the line
unless the header is empty or the line is 1. -/
theorem normalize_labelled (remark : Remark) (h : remark.Printable)
    (hunmarked : ∀ marker ∈ compilationMarkers, ¬ marker.toList <:+: remark.message.toList)
    (hquiet : ∀ words ∈ statusPhrases, ¬ ∃ before written rest,
      remark.message.toList = before ++ (written ++ rest) ∧ Writes words written) (header : Nat) :
    normalize remark.print header =
      [{ message := clean (String.ofList (trim remark.message.toList))
         line := if remark.label = "error" ∨ remark.label = "warning" then
           max 1 (remark.line - header) else remark.line
         column := some remark.column
         severity := remark.severity
         offset := 0
         length := 0 }] ∧
    ((∀ record ∈ normalize remark.print header, record.line = max 1 (remark.line - header)) ↔
      remark.label = "error" ∨ remark.label = "warning" ∨ header = 0 ∨ remark.line = 1) := by
  have hpos : 1 ≤ remark.line := h.line.1
  have hlocate : locateAll remark.print.toList = [remark.placed] := by
    have hall : ∀ r ∈ [remark], r.Printable := List.forall_mem_singleton.2 h
    have hsingle := locateAll_transcript (List.cons_ne_nil _ _) hall
    rw [Remark.transcript_single] at hsingle
    exact hsingle (not_status_printed h hquiet)
  have hline : (remark.placed.below header).line =
      if remark.label = "error" ∨ remark.label = "warning" then
        max 1 (remark.line - header) else remark.line := by
    have hcounted := counted_iff h hunmarked
    by_cases hlabel : remark.label = "error" ∨ remark.label = "warning"
    · rw [if_pos hlabel, Placed.below, Remark.placed, hcounted.2 hlabel]
      rfl
    · have hplain : countsHeader remark.print.toList = false := by
        rw [← Bool.not_eq_true, hcounted]
        exact hlabel
      rw [if_neg hlabel, Placed.below, Remark.placed, hplain]
      exact Nat.max_eq_right hpos
  rw [normalize, hlocate, List.map_singleton, List.forall_mem_singleton, hline]
  refine ⟨?_, ?_⟩
  · rw [clean_trim, ← hline]
    rfl
  · split
    · rename_i hlabel
      simp only [← or_assoc, hlabel, true_or]
    · rename_i hlabel
      rw [← or_assoc, or_iff_right hlabel]
      omega

/-- With a header of 13 lines, a warning on line 20 is reported on line 7, but a note on line 20. -/
theorem normalize_labelled_info :
    (normalize (Remark.print ⟨.warning, "warning", 20, 2, "hint"⟩) 13).map (·.line) = [7] ∧
    (normalize (Remark.print ⟨.info, "info", 20, 2, "hint"⟩) 13).map (·.line) = [20] := by
  have hunmarked : ∀ marker ∈ compilationMarkers, ¬ marker.toList <:+: "hint".toList := by
    decide +kernel
  have hquiet : ∀ words ∈ statusPhrases, ¬ ∃ before written rest,
      "hint".toList = before ++ (written ++ rest) ∧ Writes words written := by
    intro words hwords
    rw [← occurs_phrase]
    revert words
    decide +kernel
  have hwarning : (⟨.warning, "warning", 20, 2, "hint"⟩ : Remark).Printable :=
    ⟨by decide, by decide, by decide, by decide, by decide +kernel⟩
  have hinfo : (⟨.info, "info", 20, 2, "hint"⟩ : Remark).Printable :=
    ⟨by decide, by decide, by decide, by decide, by decide +kernel⟩
  rw [(normalize_labelled _ hwarning hunmarked hquiet 13).1,
    (normalize_labelled _ hinfo hunmarked hquiet 13).1]
  exact ⟨rfl, rfl⟩

end ShaderPreview.Diagnostic
