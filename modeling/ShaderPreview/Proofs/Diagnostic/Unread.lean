import ShaderPreview.Proofs.Diagnostic.LineReport
import ShaderPreview.Proofs.Diagnostic.Stopped
import ShaderPreview.Proofs.Text.Scan

/-!
# Reports without another match

If a dialect has no match in the message of a report, it has none in the report: no match begins
before the message. The `stopped` dialect may match with an empty message, which is discarded.
-/

namespace ShaderPreview.Diagnostic

open Text

/-! ### Blanks behind a message -/

theorem tolerant_excerpt (line column : List Char) (severity : Severity) (message : List Char) :
    Tolerant (excerpt line column severity message) :=
  fun _ _ _ _ => rfl

theorem tolerant_colonMessage (line column : List Char) : Tolerant (colonMessage line column) :=
  tolerant_blanks (tolerant_char ':' (tolerant_blanks (tolerant_restOfLine fun _ _ => rfl)))

theorem tolerant_severityWord {α : Type} {next : Severity → Scan α}
    (h : ∀ level, Tolerant (next level)) : Tolerant (severityWord next) :=
  tolerant_either (tolerant_caseless "error" (h .error))
    (tolerant_either (tolerant_caseless "warning" (h .warning))
      (tolerant_caseless "info" (h .info)))

theorem tolerant_bracketed : Tolerant (bracketed none) :=
  tolerant_char '[' (tolerant_severityWord fun _ => tolerant_char ']' (tolerant_blanks
    (tolerant_caseless "l" (tolerant_digits fun _ => tolerant_char ':' (tolerant_digits fun _ =>
      tolerant_someBlanks (tolerant_restOfLine fun _ _ => rfl))))))

theorem tolerant_ranged : Tolerant (ranged none) :=
  tolerant_digits fun _ => tolerant_char ':' (tolerant_digits fun _ => tolerant_blanks
    (tolerant_char '-' (tolerant_blanks (tolerant_severityWord fun _ => tolerant_blanks
      (tolerant_char ':' (tolerant_blanks (tolerant_restOfLine fun _ _ => rfl)))))))

theorem isSome_stops (message text : List Char) :
    (fullStops (placeBehind message) text).isSome = (fullStops (placeBehind []) text).isSome := by
  rw [Bool.eq_iff_iff]
  simp only [fullStops, either, Option.isSome_or, Bool.or_eq_true, isSome_char, placeBehind,
    isSome_blanks, isSome_caseless, isSome_digits, excerpt, Option.isSome_some]

theorem tolerant_stopped : Tolerant (stopped none) := by
  have hplace : Tolerant (placeBehind []) :=
    tolerant_blanks (tolerant_caseless "line:" (tolerant_digits fun line =>
      tolerant_excerpt line [] .error []))
  exact tolerant_message isSome_stops
    (tolerant_either (tolerant_char '.' (tolerant_char '.' hplace)) (tolerant_char '.' hplace))

/-- Matches ` at line line`. -/
def lineBehind (message : List Char) : Scan (Excerpt × List Char) :=
  someBlanks (caseless "at" (someBlanks (caseless "line" (someBlanks
    (digits fun line => excerpt line [] .error message)))))

theorem tolerant_errorAtLine : Tolerant (errorAtLine none) := by
  have hblind : ∀ message text : List Char,
      (lineBehind message text).isSome = (lineBehind [] text).isSome := by
    intro message text
    rw [Bool.eq_iff_iff]
    simp only [lineBehind, isSome_someBlanks, isSome_caseless, isSome_digits, excerpt,
      Option.isSome_some]
  have hplace : Tolerant (lineBehind []) :=
    tolerant_someBlanks (tolerant_caseless "at" (tolerant_someBlanks (tolerant_caseless "line"
      (tolerant_someBlanks (tolerant_digits fun line => tolerant_excerpt line [] .error [])))))
  exact tolerant_caseless "error" (tolerant_blanks (tolerant_char ':' (tolerant_blanks
    (tolerant_message hblind hplace))))

theorem tolerant_atLineColumn : Tolerant (atLineColumn none) :=
  tolerant_caseless "at" (tolerant_someBlanks (tolerant_caseless "line" (tolerant_someBlanks
    (tolerant_digits fun line => tolerant_either
      (tolerant_char ',' (tolerant_blanks (tolerant_caseless "column" (tolerant_someBlanks
        (tolerant_digits fun column => tolerant_colonMessage line column)))))
      (tolerant_colonMessage line [])))))

theorem readings_nothing {dialect : Dialect} {declines : List Char → Bool} {text : List Char}
    (h : findAll dialect text = []) : readings (dialect, declines) text = [] := by
  rw [readings, h, List.filterMap_nil]

theorem findAll_message {dialect : Dialect} {message : List Char}
    (hblind : ∀ before, dialect before = dialect none) (htolerant : Tolerant (dialect none))
    (hnil : dialect none [] = none) (hmessage : findAll dialect message = []) {opening : List Char}
    (hopening : ∀ tail, tail <:+ opening → tail ≠ [] →
      dialect none (tail ++ trimEnd message) = none) :
    findAll dialect (opening ++ trimEnd message) = [] := by
  rw [findAll_behind hblind hopening]
  exact findAll_nothing hblind
    (find_padded hblind htolerant hnil (padded_trimEnd message) hmessage)

namespace LineReport

variable {report : LineReport}

/-! ### No reading begins before the message -/

section

variable {α : Type} {tail : List Char} {next : Scan α}

theorem Printable.char_refuses (h : report.Printable) {c : Char} (hc : ¬ Opens c)
    (htail : tail <:+ report.opening) (hne : tail ≠ []) (text : List Char) :
    char c next (tail ++ text) = none := by
  refine Option.not_isSome_iff_eq_none.1 fun haccepts => ?_
  obtain ⟨rest, hrest, _⟩ := (isSome_char c _).1 haccepts
  have hforeign : Foreign [c] := by
    constructor
    · rintro _ ⟨rfl⟩ hjoins
      exact hc (.inr hjoins)
    · exact ⟨c, List.mem_singleton_self c, hc⟩
  exact h.not_prefix hforeign htail hne text ⟨rest, hrest.symm⟩

theorem Printable.caseless_refuses (h : report.Printable) {word : String} (hword : Unopened word)
    (htail : tail <:+ report.opening) (hne : tail ≠ []) (text : List Char) :
    caseless word next (tail ++ text) = none := by
  refine Option.not_isSome_iff_eq_none.1 fun haccepts => ?_
  obtain ⟨read, rest, hread, hspelled, _⟩ := (isSome_caseless word _).1 haccepts
  exact h.not_prefix (foreign_spelled hword hspelled) htail hne text ⟨rest, hread.symm⟩

end

theorem ranged_begins {text : List Char} (h : (ranged none text).isSome = true) :
    ∃ first second rest, text = first ++ ':' :: (second ++ rest) ∧
      first ≠ [] ∧ (∀ c ∈ first, isDigit c = true) ∧
      second ≠ [] ∧ ∀ c ∈ second, isDigit c = true := by
  obtain ⟨first, _, rfl, hfirst, hdigits, _, hcolon⟩ := (isSome_digits _).1 h
  obtain ⟨_, rfl, hcolumn⟩ := (isSome_char _ _).1 hcolon
  obtain ⟨second, rest, rfl, hsecond, hmore, _⟩ := (isSome_digits _).1 hcolumn
  exact ⟨first, second, rest, rfl, hfirst, hdigits, hsecond, hmore⟩

theorem behind_first_colon {before first after rest : List Char} (hbefore : ':' ∉ before)
    (hfirst : ':' ∉ first) (h : before ++ ':' :: after = first ++ ':' :: rest) : after = rest := by
  have hcut {part : List Char} (hpart : ':' ∉ part) (text : List Char) :
      cutAt? (· == ':') (part ++ ':' :: text) = some (part, text) := by
    have hother : ∀ c ∈ part, (c == ':') = false := by
      intro c hc
      rw [beq_eq_false_iff_ne]
      rintro rfl
      exact hpart hc
    exact cutAt?_append hother BEq.rfl text
  have hsame := hcut hbefore after
  rw [h, hcut hfirst rest] at hsame
  exact (Prod.mk.inj (Option.some.inj hsame)).2.symm

theorem Printable.ranged_refuses (h : report.Printable) {tail : List Char}
    (htail : tail <:+ report.opening) (hne : tail ≠ []) (text : List Char) :
    ranged none (tail ++ text) = none := by
  refine Option.not_isSome_iff_eq_none.1 fun haccepts => ?_
  obtain ⟨first, second, rest, hsplit, hfirst, hdigits, hsecond, hmore⟩ := ranged_begins haccepts
  obtain ⟨stem, hopening, hstem⟩ := h.opening_colon
  rw [hopening] at htail
  obtain hshort | ⟨part, rfl⟩ :=
    List.suffix_or_suffix_of_suffix htail (List.suffix_append stem [':', ' '])
  · -- neither the colon nor the blank is a digit
    obtain ⟨c, tail, rfl⟩ := List.exists_cons_of_ne_nil hne
    obtain ⟨d, first, rfl⟩ := List.exists_cons_of_ne_nil hfirst
    obtain ⟨rfl, _⟩ := List.cons.inj hsplit
    have hdigit := hdigits c List.mem_cons_self
    obtain rfl | rfl : c = ':' ∨ c = ' ' := by simpa using hshort.subset List.mem_cons_self
    · exact absurd hdigit (by decide)
    · exact absurd hdigit (by decide)
  · have hpart : ':' ∉ part := by
      intro hmem
      obtain ⟨before, hbefore⟩ := htail
      rw [← List.append_assoc] at hbefore
      refine hstem ?_
      rw [← List.append_cancel_right hbefore]
      exact List.mem_append_right _ hmem
    have hnumber : ':' ∉ first := fun hmem => absurd (hdigits _ hmem) (by decide)
    rw [List.append_assoc] at hsplit
    have hafter : ' ' :: text = second ++ rest := behind_first_colon hpart hnumber hsplit
    obtain ⟨c, second, rfl⟩ := List.exists_cons_of_ne_nil hsecond
    obtain ⟨rfl, _⟩ := List.cons.inj hafter
    exact absurd (hmore _ List.mem_cons_self) (by decide)

/-! ### A place right behind the colon -/

theorem Printable.anchor_opening (h : report.Printable) : anchor? report.opening = none := by
  have hmarkers : ∀ word ∈ anchors, word ∈ errorMarkers := by decide
  have hnone : ∀ word ∈ anchors, indexOf? word.toList report.opening = none := by
    intro word hword
    have hforeign := foreign_marker word (hmarkers word hword)
    refine Option.not_isSome_iff_eq_none.1 fun hfound => hforeign.ne_nil ?_
    have hwithin := (hasWord_iff word.toList report.opening).1 hfound
    rw [← List.append_nil report.opening] at hwithin
    exact List.infix_nil.1 (h.infix_message hforeign hwithin)
  rw [anchor?, List.filterMap_eq_nil_iff.2 hnone]
  rfl

theorem Printable.behind_number (h : report.Printable) :
    ∀ c ∈ report.lead.toList ++ [':', ' '], c = ':' ∨ isBlank c = true := by
  intro c hc
  simp only [List.mem_append, List.mem_cons, List.not_mem_nil, or_false] at hc
  obtain hlead | rfl | rfl := hc
  · exact .inr (h.lead c hlead)
  · exact .inl rfl
  · exact .inr rfl

theorem dropColons_all {text : List Char} (h : ∀ c ∈ text, c = ':' ∨ isBlank c = true) :
    dropColons text = [] := by
  refine List.dropWhile_eq_nil_iff.2 fun c hc => ?_
  obtain rfl | hblank := h c hc
  · rfl
  · rw [hblank, Bool.or_true]

theorem columnReference_refuses {next : Scan (List Char)} {text : List Char}
    (h : ∀ c ∈ text, c = ':' ∨ isBlank c = true) : columnReference next text = none := by
  refine Option.not_isSome_iff_eq_none.1 fun haccepts => ?_
  rw [columnReference, Text.optional, either, Option.isSome_or, Bool.or_eq_true] at haccepts
  obtain hcomma | hword := haccepts
  · obtain ⟨rest, rfl, _⟩ := (isSome_char _ _).1 hcomma
    exact absurd (h ',' List.mem_cons_self) (by decide)
  · obtain ⟨gap, _, rfl, _, hmore⟩ := (isSome_blanks _).1 hword
    obtain ⟨read, rest, rfl, hread, _⟩ := (isSome_caseless _ _).1 hmore
    obtain ⟨c, letters, rfl, hc, _⟩ := List.map_eq_cons_iff.1 hread
    obtain rfl | hblank := h c (List.mem_append_right gap List.mem_cons_self)
    · exact absurd hc (by decide)
    · rw [letter_not_blank (by rw [hc]; decide)] at hblank
      cases hblank

theorem Printable.lineReference_opening (h : report.Printable) :
    lineReference report.opening = some [] := by
  have hat : caseless "at" (someBlanks (caseless "line" (someBlanks (digits fun _ =>
      Text.optional columnReference fun rest => some (dropColons rest)))))
      report.opening = none := by
    obtain ⟨c, more, hopening, hc⟩ := h.opening_cons
    rw [hopening]
    exact caseless_other rfl (by rw [hc]; decide) more
  have hnext : Text.optional columnReference (fun rest => some (dropColons rest))
      (report.lead.toList ++ [':', ' ']) = some [] := by
    rw [Text.optional, either, columnReference_refuses h.behind_number, Option.none_or,
      dropColons_all h.behind_number]
  have hline : caseless "line" (someBlanks (digits fun _ => Text.optional columnReference
      fun rest => some (dropColons rest))) (report.opening ++ []) = some [] :=
    (h.line_written (by rw [hnext]; rfl)).trans hnext
  rw [List.append_nil] at hline
  rw [lineReference, Text.optional, either, hat, Option.none_or]
  exact hline

theorem Printable.cleanText_opening (h : report.Printable) : cleanText report.opening = [] := by
  have hreference := h.lineReference_opening
  have hremoved : removeAll lineReference report.opening = [] := by
    obtain ⟨c, more, hopening, _⟩ := h.opening_cons
    rw [hopening] at hreference ⊢
    rw [removeAll_read hreference (List.nil_suffix)]
    rfl
  rw [cleanText, dropPreamble, h.anchor_opening, Option.getD_none, List.drop_zero, hremoved]
  rfl

theorem place?_cleaned {declines : List Char → Bool} {found : Excerpt × List Char}
    (h : cleanText (trim found.1.message) = []) : place? declines found = none := by
  rw [place?]
  split
  · rfl
  · split
    · rfl
    · rw [h]
      rfl

theorem leaves_stops (message : List Char) : Leaves (fullStops (placeBehind message)) := by
  have hend : Leaves (placeBehind message) :=
    leaves_blanks (leaves_caseless "line:" (leaves_digits fun line => by
      rintro text _ ⟨rfl⟩
      exact List.suffix_rfl))
  exact leaves_either (leaves_char '.' (leaves_char '.' hend)) (leaves_char '.' hend)

theorem answers_stops (message : List Char) :
    Answers (fun answer => answer.1.message = message) (fullStops (placeBehind message)) := by
  have hend : Answers (fun answer => answer.1.message = message) (placeBehind message) :=
    answers_blanks (answers_caseless "line:" (answers_digits fun line => by
      rintro text _ ⟨rfl⟩
      rfl))
  exact answers_either (answers_char '.' (answers_char '.' hend)) (answers_char '.' hend)

theorem stops_head {α : Type} {next : Scan α} {text : List Char}
    (h : (fullStops next text).isSome = true) : ∃ rest, text = '.' :: rest := by
  obtain ⟨dots, rest, rfl, rfl | rfl, _⟩ := stops_read h
  · exact ⟨rest, rfl⟩
  · exact ⟨'.' :: rest, rfl⟩

theorem Printable.no_stop (h : report.Printable) : '.' ∉ report.opening :=
  fun hmem => absurd (h.opens '.' hmem) (by decide)

theorem Printable.stopped_opening (h : report.Printable) {text : List Char}
    {answer : Excerpt × List Char}
    (hstops : fullStops (placeBehind report.opening) text = some answer) :
    stopped none (report.opening ++ text) = some answer := by
  have hline : '\n' ∉ report.opening := by
    intro hmem
    refine h.oneLine ?_
    rw [toList_print]
    exact List.mem_append_left _ hmem
  rw [stopped_eq, lineText_written h.opening_ne_nil hline]
  · rw [between_append]
    exact hstops
  · rw [between_append, hstops]
    rfl
  · intro first more hsplit hne hmore
    refine Option.not_isSome_iff_eq_none.1 fun haccepts => ?_
    obtain ⟨rest, hrest⟩ := stops_head haccepts
    obtain ⟨c, more, rfl⟩ := List.exists_cons_of_ne_nil hmore
    obtain ⟨rfl, _⟩ := List.cons.inj hrest
    exact h.no_stop (hsplit ▸ List.mem_append_right first List.mem_cons_self)

theorem Printable.stopped_refuses (h : report.Printable) {text : List Char}
    (hquiet : stopped none text = none)
    (hstops : fullStops (placeBehind report.opening) text = none) {tail : List Char}
    (htail : tail <:+ report.opening) : stopped none (tail ++ text) = none := by
  refine Option.not_isSome_iff_eq_none.1 fun haccepts => ?_
  obtain ⟨read, rest, hsplit, hread, hone, hstop⟩ := (isSome_message isSome_stops _).1 haccepts
  have hhere : rest ≠ text := by
    rintro rfl
    rw [← isSome_stops report.opening, hstops] at hstop
    cases hstop
  obtain ⟨inner, rfl, htext⟩ | ⟨inner, htail', hrest⟩ := List.append_eq_append_iff.1 hsplit
  · -- the stops would be read behind a part of the message
    have hinner : inner ≠ [] := by
      rintro rfl
      exact hhere htext.symm
    have hsome : (stopped none text).isSome = true := (isSome_message isSome_stops text).2
      ⟨inner, rest, htext, hinner, fun hmem => hone (List.mem_append_right tail hmem), hstop⟩
    rw [hquiet] at hsome
    cases hsome
  · -- the stops would be printed before the message
    obtain ⟨more, hdot⟩ := stops_head hstop
    cases inner with
    | nil => exact hhere hrest
    | cons c inner =>
      rw [hdot] at hrest
      obtain ⟨rfl, _⟩ := List.cons.inj hrest
      refine h.no_stop (htail.subset ?_)
      rw [htail']
      exact List.mem_append_right read List.mem_cons_self

theorem Printable.readings_stopped (h : report.Printable) {text : List Char}
    (hquiet : ∀ part, part <:+ text → stopped none part = none) :
    readings (stopped, fun _ => false) (report.opening ++ text) = [] := by
  have hblind : ∀ before, stopped before = stopped none := fun _ => rfl
  have hnothing (part : List Char) (hpart : part <:+ text) : findAll stopped part = [] :=
    findAll_nothing hblind fun rest hrest => hquiet rest (hrest.trans hpart)
  cases hstops : fullStops (placeBehind report.opening) text with
  | some answer =>
    have hfind := h.stopped_opening hstops
    obtain ⟨before, htext⟩ := leaves_stops _ hstops
    have hall : findAll stopped (report.opening ++ text) =
        (answer.1, report.opening ++ before) :: findAll stopped answer.2 := by
      rw [← htext, ← List.append_assoc] at hfind ⊢
      exact findAll_read hblind (List.append_ne_nil_of_left_ne_nil h.opening_ne_nil before) hfind
    have hmessage : answer.1.message = report.opening := answers_stops _ hstops
    have hplace : place? (fun _ => false) (answer.1, report.opening ++ before) = none := by
      refine place?_cleaned ?_
      rw [hmessage, cleanText_trim]
      exact h.cleanText_opening
    rw [readings, hall, hnothing _ ⟨before, htext⟩, List.filterMap_cons, hplace]
    rfl
  | none =>
    refine readings_nothing ?_
    rw [findAll_behind hblind, hnothing _ List.suffix_rfl]
    exact fun tail htail _ => h.stopped_refuses (hquiet text List.suffix_rfl) hstops htail

/-! ### A number at the beginning of a line -/

theorem findFrom_numbered {c : Char} {text : List Char} (hline : '\n' ∉ c :: text) :
    findFrom numbered (some c) 0 text = [] := by
  induction text generalizing c with
  | nil => rw [findFrom]
  | cons d text ih =>
    obtain ⟨hc, hrest⟩ := not_or.1 (mt List.mem_cons.2 hline)
    have hwithin : numbered (some c) (d :: text) = none := by
      rw [numbered, if_neg]
      rintro (hnone | hbreak)
      · cases hnone
      · exact hc (Option.some.inj hbreak).symm
    rw [findFrom, hwithin]
    exact ih hrest

theorem Printable.readings_numbered (h : report.Printable) {text : List Char}
    (hline : '\n' ∉ report.opening ++ text) :
    readings (numbered, fun _ => false) (report.opening ++ text) = [] := by
  obtain ⟨c, more, hopening, hc⟩ := h.opening_cons
  have hletter : 'a' ≤ foldCase c ∧ foldCase c ≤ 'z' := by
    rw [hc]
    decide
  rw [hopening, List.cons_append] at hline ⊢
  have hfirst : numbered none (c :: (more ++ text)) = none := by
    have hblank := letter_not_blank hletter
    have hdigit := letter_not_digit hletter
    have hstart : (none : Option Char) = none ∨ none = some '\n' := .inl rfl
    rw [numbered, if_pos hstart, blanks, hblank, if_neg Bool.false_ne_true, digits,
      List.takeWhile_cons_of_neg (Bool.eq_false_iff.1 hdigit)]
    rfl
  refine readings_nothing ?_
  rw [findAll, findFrom, hfirst]
  exact findFrom_numbered hline

end LineReport

end ShaderPreview.Diagnostic
