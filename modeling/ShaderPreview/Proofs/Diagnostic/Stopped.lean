import ShaderPreview.Proofs.Diagnostic.Transcript
import ShaderPreview.Proofs.Shader.Classification

/-!
# Parser messages

The classifier writes a message and a line as `message. Line:N`, and the normalizer recovers both.
The location is unique because the message contains none, and the match ends before the full stops
that precede it.
-/

namespace ShaderPreview.Diagnostic

open Text

/-! ### The message and the stops -/

/-- The message without a final full stop. -/
def statement (message : List Char) : List Char :=
  if message.getLast? = some '.' then message.dropLast else message

theorem statement_stops (message : List Char) :
    ∃ stops, message ++ ['.'] = statement message ++ stops ∧
      (stops = ['.', '.'] ∨ stops = ['.'] ∧ (statement message).getLast? ≠ some '.') := by
  unfold statement
  split
  · rename_i hstop
    refine ⟨['.', '.'], ?_, .inl rfl⟩
    have hmessage : message.dropLast ++ ['.'] = message := List.dropLast_append_getLast? '.' hstop
    rw [show ['.', '.'] = ['.'] ++ ['.'] from rfl, ← List.append_assoc, hmessage]
  · rename_i hstop
    exact ⟨['.'], rfl, .inr ⟨rfl, hstop⟩⟩

theorem statement_isPrefix (message : List Char) : statement message <+: message := by
  unfold statement
  split
  · exact List.dropLast_prefix message
  · exact List.prefix_rfl

/-! ### The place is where it was written -/

/-- `. Line:N` as written after a message. -/
def writtenLine (line : Nat) : List Char := [' '] ++ (['L', 'i', 'n', 'e', ':'] ++ decimal line)

theorem foldCase_colon {c : Char} (h : foldCase c = ':') : c = ':' := by
  unfold foldCase at h
  split at h
  · exact absurd h (by decide)
  split at h
  · exact absurd h (by decide)
  unfold lowerAscii at h
  split at h
  · rename_i hupper
    obtain ⟨hfrom, hto⟩ := hupper
    have hfrom : 65 ≤ c.toNat := hfrom
    have hto : c.toNat ≤ 90 := hto
    have hlower : ∀ i < 26, Char.ofNat (65 + i + 32) ≠ ':' := by decide
    refine absurd h ?_
    rw [show c.toNat = 65 + (c.toNat - 65) by omega]
    exact hlower _ (by omega)
  · exact h

theorem spelled_line {word : List Char} (h : word.map foldCase = "line:".toList) :
    ∃ letters, word = letters ++ [':'] ∧ letters.length = 4 := by
  have hsplit : "line:".toList = "line".toList ++ [':'] := by decide
  rw [hsplit] at h
  obtain ⟨letters, last, rfl, hletters, hlast⟩ := List.map_eq_append_iff.1 h
  obtain ⟨c, rfl, hc⟩ := List.map_eq_singleton_iff.1 hlast
  refine ⟨letters, by rw [foldCase_colon hc], ?_⟩
  rw [← List.length_map, hletters]
  rfl

theorem place_unique {message before word rest : List Char} {line : Nat}
    (hplace : ¬ "line:".toList <:+: message.map foldCase)
    (hword : word.map foldCase = "line:".toList)
    (h : message ++ (['.'] ++ writtenLine line) = before ++ (word ++ rest)) :
    before = message ++ ['.', ' '] := by
  obtain ⟨letters, rfl, hfour⟩ := spelled_line hword
  have hsame : (before ++ letters) ++ ':' :: rest =
      (message ++ ['.', ' ', 'L', 'i', 'n', 'e']) ++ ':' :: decimal line := by
    simpa only [writtenLine, List.append_assoc, List.cons_append, List.nil_append] using h.symm
  have hhere : before ++ letters = (message ++ ['.', ' ']) ++ ['L', 'i', 'n', 'e'] →
      before = message ++ ['.', ' '] := fun heq => (List.append_inj' heq hfour).1
  obtain ⟨inner, hmore, hrest⟩ | ⟨inner, hmore, hrest⟩ := List.append_eq_append_iff.1 hsame
  · cases inner with
    | nil =>
      rw [List.append_nil] at hmore
      exact hhere (by rw [← hmore, List.append_assoc]; rfl)
    | cons c inner =>
      -- the colon would lie in the message or in the word before the written one
      exfalso
      obtain ⟨rfl, _⟩ := List.cons.inj hrest
      obtain ⟨part, _, hlast⟩ | ⟨part, hmessage, hlast⟩ := List.append_eq_append_iff.1 hmore
      · have hcolon : ':' ∈ ['.', ' ', 'L', 'i', 'n', 'e'] := by
          rw [hlast]
          exact List.mem_append_right _ List.mem_cons_self
        exact absurd hcolon (by decide)
      · cases part with
        | nil => exact absurd (List.cons.inj hlast).1 (by decide)
        | cons d part =>
          obtain ⟨rfl, _⟩ := List.cons.inj hlast
          refine hplace ?_
          rw [← hword]
          refine List.IsInfix.map foldCase ⟨before, part, ?_⟩
          rw [hmessage]
          simp only [List.append_assoc, List.cons_append, List.nil_append]
  · cases inner with
    | nil =>
      rw [List.append_nil] at hmore
      exact hhere (by rw [hmore, List.append_assoc]; rfl)
    | cons c inner =>
      obtain ⟨rfl, hmoved⟩ := List.cons.inj hrest
      have hdigit := decimal_ascii line ':'
      rw [hmoved] at hdigit
      exact absurd (hdigit (List.mem_append_right _ List.mem_cons_self)) (by decide)

theorem stops_final {first more stops dots gap : List Char}
    (hstops : stops = ['.', '.'] ∨ stops = ['.'] ∧ (first ++ more).getLast? ≠ some '.')
    (hmore : more ≠ []) (hdots : dots = ['.'] ∨ dots = ['.', '.'])
    (hgap : ∀ c ∈ gap, isBlank c = true) (h : dots ++ gap = more ++ (stops ++ [' '])) : False := by
  have hstop : '.' ∉ gap := fun hmem => absurd (hgap '.' hmem) (by decide)
  have hlength : dots.length ≤ 2 := by
    obtain rfl | rfl := hdots <;> decide
  have hpos : 0 < more.length := List.length_pos_iff.2 hmore
  have hmem : '.' ∈ stops ++ [' '] := by
    obtain rfl | ⟨rfl, _⟩ := hstops <;> decide
  obtain ⟨inner, _, hrest⟩ | ⟨inner, hover, hrest⟩ := List.append_eq_append_iff.1 h
  · -- the stops would be among the blanks
    refine hstop ?_
    rw [hrest]
    exact List.mem_append_right _ hmem
  · have hsum := congrArg List.length hover
    rw [List.length_append] at hsum
    cases inner with
    | nil =>
      rw [hrest] at hmem
      exact hstop hmem
    | cons c inner =>
      rw [List.length_cons] at hsum
      obtain rfl : inner = [] := List.length_eq_zero_iff.1 (by omega)
      obtain rfl | ⟨rfl, hlast⟩ := hstops
      · -- both stops stand behind a character that is not empty
        refine hstop ?_
        have hblanks : ['.', ' '] = gap := (List.cons.inj hrest).2
        rw [← hblanks]
        exact List.mem_cons_self
      · -- the statement would end with a stop
        obtain ⟨d, hd⟩ : ∃ d, more = [d] := List.length_eq_one_iff.1 (by omega)
        rw [hd, List.singleton_append] at hover
        obtain rfl | rfl := hdots
        · cases hover
        · obtain ⟨rfl, _⟩ := List.cons.inj hover
          refine hlast ?_
          rw [hd, List.getLast?_concat]

/-! ### The stops are read -/

section

variable {α : Type} {next : Scan α}

theorem fullStops_written {stops rest : List Char} (hstops : stops = ['.', '.'] ∨ stops = ['.'])
    (hrest : ∀ c ∈ rest.head?, c ≠ '.') (hnext : (next rest).isSome = true) :
    fullStops next (stops ++ rest) = next rest := by
  have hsingle : char '.' next ('.' :: rest) = next rest := char_written '.' rest
  unfold fullStops either
  obtain rfl | rfl := hstops
  · show (char '.' (char '.' next) ('.' :: '.' :: rest)).or _ = next rest
    rw [char_written, hsingle]
    exact Option.or_of_isSome hnext
  · have hsecond : char '.' next rest = none := by
      cases rest with
      | nil => rfl
      | cons c rest => exact char_other (hrest c rfl) rest
    show (char '.' (char '.' next) ('.' :: rest)).or (char '.' next ('.' :: rest)) = next rest
    rw [char_written, hsecond, hsingle, Option.none_or]

theorem stops_read {text : List Char} (h : (fullStops next text).isSome = true) :
    ∃ dots rest, text = dots ++ rest ∧ (dots = ['.'] ∨ dots = ['.', '.']) ∧
      (next rest).isSome = true := by
  rw [fullStops, either, Option.isSome_or, Bool.or_eq_true] at h
  obtain htwo | hone := h
  · obtain ⟨_, rfl, hmore⟩ := (isSome_char _ _).1 htwo
    obtain ⟨rest, rfl, hnext⟩ := (isSome_char _ _).1 hmore
    exact ⟨['.', '.'], rest, rfl, .inr rfl, hnext⟩
  · obtain ⟨rest, rfl, hnext⟩ := (isSome_char _ _).1 hone
    exact ⟨['.'], rest, rfl, .inl rfl, hnext⟩

end

/-! ### The place is read -/

def placeBehind (message : List Char) : Scan (Excerpt × List Char) :=
  blanks (caseless "line:" (digits fun line => excerpt line [] .error message))

theorem stopped_eq (before : Option Char) (text : List Char) : stopped before text =
    lineText (fun stop => fullStops (placeBehind (between text stop)) stop) text := rfl

theorem placeBehind_written (message : List Char) (line : Nat) :
    placeBehind message (writtenLine line) = some (⟨decimal line, [], .error, message⟩, []) := by
  have hnumber : digits (fun line => excerpt line [] .error message) (decimal line) =
      some (⟨decimal line, [], .error, message⟩, []) := by
    have hread : digits (fun line => excerpt line [] .error message) (decimal line ++ []) =
        excerpt (decimal line) [] .error message [] :=
      digits_written (decimal_ne_nil line) (digit_ascii_run line) nofun
    rwa [List.append_nil] at hread
  have hword : caseless "line:" (digits fun line => excerpt line [] .error message)
      (['L', 'i', 'n', 'e', ':'] ++ decimal line) =
      some (⟨decimal line, [], .error, message⟩, []) := by
    rw [caseless_written (by decide)]
    exact hnumber
  have hletter : ∀ c ∈ (['L', 'i', 'n', 'e', ':'] ++ decimal line).head?, isBlank c = false := by
    rintro _ ⟨rfl⟩
    decide
  rw [placeBehind, writtenLine, blanks_written (List.forall_mem_singleton.2 rfl) hletter]
  · exact hword
  · rw [hword]
    rfl

theorem placeBehind_place {message text : List Char}
    (h : (placeBehind message text).isSome = true) :
    ∃ gap word rest, text = gap ++ (word ++ rest) ∧ (∀ c ∈ gap, isBlank c = true) ∧
      word.map foldCase = "line:".toList := by
  obtain ⟨gap, _, rfl, hgap, hmore⟩ := (isSome_blanks _).1 h
  obtain ⟨word, rest, rfl, hword, _⟩ := (isSome_caseless _ _).1 hmore
  exact ⟨gap, word, rest, rfl, hgap, hword⟩

/-! ### Messages with a place -/

/-- Single-line message without outer blanks, brackets or a location of its own, whose statement is
not cleaned to nothing. -/
structure Placeable (message : String) : Prop where
  trimmed : Trimmed message.toList
  oneLine : '\n' ∉ message.toList
  unbracketed : '[' ∉ message.toList
  unplaced : ¬ "line:".toList <:+: message.toList.map foldCase
  stated : clean (String.ofList (statement message.toList)) ≠ ""

section

variable {message : String}

theorem toList_stopped (message : String) (line : Nat) : (s!"{message}. Line:{line}").toList =
    message.toList ++ (['.'] ++ writtenLine line) := by
  have htext (text : String) : toString text = text := rfl
  simp only [htext, String.toList_append, toList_toString, List.append_assoc]
  rfl

theorem Placeable.cleaned (h : Placeable message) : cleanText (statement message.toList) ≠ [] := by
  intro hnil
  refine h.stated ?_
  rw [clean, String.toList_ofList, hnil]

theorem Placeable.statement_ne_nil (h : Placeable message) : statement message.toList ≠ [] := by
  intro hnil
  refine h.cleaned ?_
  rw [hnil]
  rfl

theorem stopped_written (h : Placeable message) (line : Nat) :
    stopped none (s!"{message}. Line:{line}").toList =
      some (⟨decimal line, [], .error, statement message.toList⟩, []) := by
  obtain ⟨stops, hsplit, hstops⟩ := statement_stops message.toList
  have htext : (s!"{message}. Line:{line}").toList =
      statement message.toList ++ (stops ++ writtenLine line) := by
    rw [toList_stopped, ← List.append_assoc, hsplit, List.append_assoc]
  have hfound : fullStops (placeBehind (statement message.toList)) (stops ++ writtenLine line) =
      some (⟨decimal line, [], .error, statement message.toList⟩, []) := by
    have hplace := placeBehind_written (statement message.toList) line
    rw [fullStops_written]
    · exact hplace
    · exact hstops.imp_right And.left
    · rintro _ ⟨rfl⟩
      decide
    · rw [hplace]
      rfl
  rw [stopped_eq, htext, lineText_written h.statement_ne_nil]
  · rw [between_append, hfound]
  · exact fun hmem => h.oneLine ((statement_isPrefix _).subset hmem)
  · rw [between_append, hfound]
    rfl
  · intro first more hstatement hfirst hmore
    refine Option.not_isSome_iff_eq_none.1 fun hsome => ?_
    obtain ⟨dots, _, hread, hdots, hplace⟩ := stops_read hsome
    obtain ⟨gap, word, rest, rfl, hgap, hword⟩ := placeBehind_place hplace
    have hall : message.toList ++ (['.'] ++ writtenLine line) =
        (first ++ (dots ++ gap)) ++ (word ++ rest) := by
      rw [← List.append_assoc, hsplit, hstatement, List.append_assoc, List.append_assoc, hread]
      simp only [List.append_assoc]
    have honly := place_unique h.unplaced hword hall
    have hbefore : first ++ (dots ++ gap) = first ++ (more ++ (stops ++ [' '])) := by
      rw [honly, ← List.append_assoc first, ← hstatement, ← List.append_assoc, ← hsplit]
      simp only [List.append_assoc, List.cons_append, List.nil_append]
    rw [hstatement] at hstops
    exact stops_final hstops hmore hdots hgap (List.append_cancel_left hbefore)

theorem Placeable.trim_stopped (h : Placeable message) (line : Nat) :
    trim (s!"{message}. Line:{line}").toList = (s!"{message}. Line:{line}").toList := by
  refine Trimmed.trim ⟨?_, ?_⟩
  · have hne : message.toList ≠ [] := fun hnil =>
      h.statement_ne_nil (List.prefix_nil.1 (hnil ▸ statement_isPrefix message.toList))
    rw [toList_stopped, List.head?_append_of_ne_nil _ hne]
    exact h.trimmed.first
  · intro c hc
    rw [toList_stopped, writtenLine, ← List.append_assoc, ← List.append_assoc,
      ← List.append_assoc, List.getLast?_append_of_ne_nil _ (decimal_ne_nil line)] at hc
    exact ascii_not_blank (decimal_ascii line c (List.mem_of_getLast? hc))

theorem Placeable.not_bracketed (h : Placeable message) (line : Nat) :
    readings (bracketed, fun _ => false) (s!"{message}. Line:{line}").toList = [] := by
  have hopen : '[' ∉ (s!"{message}. Line:{line}").toList := by
    rw [toList_stopped, writtenLine]
    simp only [List.mem_append, not_or]
    exact ⟨h.unbracketed, by decide, by decide, by decide,
      fun hmem => absurd (decimal_ascii line '[' hmem) (by decide)⟩
  rw [readings, findAll_nothing (fun _ => rfl)]
  · rfl
  · intro part hpart
    cases part with
    | nil => rfl
    | cons c part =>
      refine char_other ?_ part
      rintro rfl
      exact hopen (hpart.subset List.mem_cons_self)

theorem readings_stopped (h : Placeable message) {line : Nat} (hpos : 1 ≤ line)
    (hlt : line < word32Bound) :
    readings (stopped, fun _ => false) (s!"{message}. Line:{line}").toList =
      [⟨clean (String.ofList (trim (statement message.toList))), line, none, .error,
        countsHeader (s!"{message}. Line:{line}").toList⟩] := by
  have hne : (s!"{message}. Line:{line}").toList ≠ [] := by
    rw [toList_stopped]
    exact List.append_ne_nil_of_right_ne_nil _ (List.cons_ne_nil _ _)
  have hfind := stopped_written h line
  generalize (s!"{message}. Line:{line}").toList = text at hne hfind
  have hread : findAll stopped text =
      [(⟨decimal line, [], .error, statement message.toList⟩, text)] := by
    have hend : stopped none (text ++ []) =
        some (⟨decimal line, [], .error, statement message.toList⟩, []) := by
      rwa [List.append_nil]
    have hall := findAll_read (fun _ => rfl) hne hend
    rwa [List.append_nil] at hall
  have hcleaned : cleanText (trim (statement message.toList)) ≠ [] := by
    rw [cleanText_trim]
    exact h.cleaned
  have hsome : trim (statement message.toList) ≠ [] := by
    intro hnil
    rw [hnil] at hcleaned
    exact hcleaned rfl
  have hplace : place? (fun _ => false)
      (⟨decimal line, [], .error, statement message.toList⟩, text) =
      some ⟨clean (String.ofList (trim (statement message.toList))), line, none, .error,
        countsHeader text⟩ := by
    simp only [place?, List.isEmpty_eq_false_iff.2 hsome, Bool.or_self, Bool.false_eq_true,
      if_false, position?_decimal hpos hlt, List.isEmpty_eq_false_iff.2 hcleaned]
    rw [clean, String.toList_ofList]
    rfl
  rw [readings, hread, List.filterMap_cons, hplace]
  rfl

/-- A message with a location in this dialect yields one error at that line with the statement as
its text. The same holds for the diagnostic of a source that does not parse, at the line in the
user's source. -/
theorem normalize_stopped (message : String) (h : Placeable message) (line : Nat) (hpos : 1 ≤ line)
    (hlt : line < word32Bound) (hstatus : ¬ IsStatusText (s!"{message}. Line:{line}").toList) :
    normalize s!"{message}. Line:{line}" 0 =
      [{ message := clean (String.ofList (trim (statement message.toList)))
         line := line
         column := none
         severity := .error
         offset := 0
         length := 0 }] ∧
    ∀ (frontEnd : FrontEnd) (source : String) (place : Place),
      frontEnd.parse (compose source (needsTextures source)).text = .error ⟨message, some place⟩ →
      userLine place.line (compose source (needsTextures source)).headerLines = line →
      (frontEnd.classify source).diagnostic = some s!"{message}. Line:{line}" := by
  constructor
  · have htrim := h.trim_stopped line
    have hread := readings_stopped h hpos hlt
    have hfirst : firstReadings (s!"{message}. Line:{line}").toList dialects =
        [⟨clean (String.ofList (trim (statement message.toList))), line, none, .error,
          countsHeader (s!"{message}. Line:{line}").toList⟩] := by
      rw [dialects, firstReadings_skip _ (h.not_bracketed line), firstReadings_take, hread]
      rw [hread]
      exact List.cons_ne_nil _ _
    have hplain : isStatusLine (s!"{message}. Line:{line}").toList = false := by
      rw [← Bool.not_eq_true, isStatusLine_iff]
      exact hstatus
    have hsome : (s!"{message}. Line:{line}").toList ≠ [] := by
      intro hnil
      rw [hnil] at hfirst
      cases hfirst
    rw [← htrim] at hsome hplain hfirst
    rw [normalize, locateAll_read hsome hplain (by rw [hfirst]; exact List.cons_ne_nil _ _), hfirst,
      List.map_singleton, Placed.below]
    simp only [Nat.sub_zero, ite_self, Nat.max_eq_right hpos]
  · rintro frontEnd source place hparse rfl
    rw [classify_of_error hparse]
    rfl

/-- A message may quote other dialects and contain full stops. -/
theorem normalize_stopped_quoting :
    let message := "unresolved 'a'. 2:4 - error: Invalid at line 5: b."
    let below := (compose "" (needsTextures "")).headerLines + 9
    let frontEnd : FrontEnd :=
      { Parsed := Unit
        parse := fun _ => .error ⟨message, some ⟨below, 1, 0, 0⟩⟩
        entryPoints := fun _ => []
        validate := fun _ => none }
    (normalize s!"{message}. Line:{9}" 0).map
        (fun record => (record.line, record.column, record.severity, record.message)) =
      [(9, none, .error, "Invalid b")] ∧
    (frontEnd.classify "").diagnostic = some s!"{message}. Line:{9}" := by
  intro message below frontEnd
  have hplaceable : Placeable message :=
    ⟨⟨bare_of_any (by decide +kernel), bare_of_any (by decide +kernel)⟩, by decide +kernel,
      by decide +kernel, by decide +kernel, by decide +kernel⟩
  have hstatus : ¬ IsStatusText (s!"{message}. Line:{9}").toList := by
    intro hstatus
    have hinvalid : hasWord "Invalid".toList (s!"{message}. Line:{9}").toList = true := by
      decide +kernel
    exact hstatus.unmarked "Invalid" (by decide) ((hasWord_iff _ _).1 hinvalid)
  have hbelow (lines : Nat) : userLine (Place.mk (lines + 9) 1 0 0).line lines = 9 := by
    rw [userLine, Nat.add_sub_cancel_left]
    rfl
  obtain ⟨hrecord, hquoted⟩ :=
    normalize_stopped message hplaceable 9 (by decide) (by decide) hstatus
  refine ⟨?_, hquoted frontEnd "" ⟨below, 1, 0, 0⟩ rfl (hbelow _)⟩
  rw [hrecord]
  decide +kernel

end

end ShaderPreview.Diagnostic
