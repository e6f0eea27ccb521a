import ShaderPreview.Proofs.Text.Padding
import ShaderPreview.Proofs.Text.Written

/-!
# Results, acceptance and rests of matchers

Only the last continuation returns a result, so its properties carry over to the matcher and to all
matches of a text. A matcher also accepts a text with trailing blanks, and the rest it leaves is a
suffix.
-/

namespace ShaderPreview.Text

variable {α β : Type} {P : α → Prop} {next first second : Scan α}

/-! ### Properties of the answers -/

/-- Every result of the scan has the property. -/
def Answers (P : α → Prop) (scan : Scan α) : Prop :=
  ∀ ⦃text answer⦄, scan text = some answer → P answer

theorem answers_or {x y : Option α} (hx : ∀ a, x = some a → P a) (hy : ∀ a, y = some a → P a) :
    ∀ a, x.or y = some a → P a := by
  intro a ha
  cases x with
  | none => exact hy a ha
  | some b => exact hx a ha

theorem answers_caseless (word : String) (h : Answers P next) :
    Answers P (caseless word next) := by
  intro text answer ha
  obtain ⟨rest, _, hrest⟩ := Option.bind_eq_some_iff.1 ha
  exact h hrest

theorem answers_char (c : Char) (h : Answers P next) : Answers P (char c next) := by
  intro text answer ha
  cases text with
  | nil => cases ha
  | cons d rest =>
    rw [char] at ha
    split at ha
    · exact h ha
    · cases ha

theorem answers_blanks (h : Answers P next) : Answers P (blanks next) := by
  intro text
  induction text with
  | nil =>
    intro answer ha
    exact h ha
  | cons c rest ih =>
    intro answer ha
    rw [blanks] at ha
    split at ha
    · exact answers_or (fun _ hb => ih hb) (fun _ hb => h hb) answer ha
    · exact h ha

theorem answers_someBlanks (h : Answers P next) : Answers P (someBlanks next) := by
  intro text answer ha
  cases text with
  | nil => cases ha
  | cons c rest =>
    rw [someBlanks] at ha
    split at ha
    · exact answers_blanks h ha
    · cases ha

theorem answers_digits {next : List Char → Scan α} (h : ∀ run, Answers P (next run)) :
    Answers P (digits next) := by
  intro text answer ha
  rw [digits] at ha
  split at ha
  · cases ha
  · exact h _ ha

theorem answers_either (h₁ : Answers P first) (h₂ : Answers P second) :
    Answers P (either first second) :=
  fun _ answer ha => answers_or (fun _ hb => h₁ hb) (fun _ hb => h₂ hb) answer ha

theorem answers_lineText (h : Answers P next) : Answers P (lineText next) := by
  intro text
  induction text with
  | nil => nofun
  | cons c rest ih =>
    intro answer ha
    rw [lineText] at ha
    split at ha
    · cases ha
    · exact answers_or (fun _ hb => h hb) (fun _ hb => ih hb) answer ha

theorem answers_restOfLine {next : List Char → Scan α} (h : ∀ run, Answers P (next run)) :
    Answers P (restOfLine next) := by
  intro text answer ha
  rw [restOfLine] at ha
  split at ha
  · cases ha
  · exact h _ ha

theorem findFrom_answers {find : Option Char → Scan (α × List Char)}
    (h : ∀ before, Answers (fun answer => P answer.1) (find before)) (before : Option Char)
    (skip : Nat) (text : List Char) : ∀ found ∈ findFrom find before skip text, P found.1 := by
  induction text generalizing before skip with
  | nil =>
    intro found hf
    rw [findFrom] at hf
    cases hf
  | cons c text ih =>
    cases skip with
    | succ skip =>
      intro found hf
      exact ih (some c) skip found hf
    | zero =>
      intro found hf
      rw [findFrom] at hf
      split at hf
      · next answer rest hfind =>
        have hanswer : P answer := h before hfind
        rcases List.mem_cons.1 hf with rfl | hf
        · exact hanswer
        · exact ih _ _ found hf
      · exact ih _ _ found hf

theorem findAll_answers {find : Option Char → Scan (α × List Char)}
    (h : ∀ before, Answers (fun answer => P answer.1) (find before)) (text : List Char) :
    ∀ found ∈ findAll find text, P found.1 :=
  findFrom_answers h none 0 text

/-! ### Runs of characters -/

theorem isSome_digits {next : List Char → Scan α} (text : List Char) :
    (digits next text).isSome = true ↔
      ∃ run rest, text = run ++ rest ∧ run ≠ [] ∧ (∀ c ∈ run, isDigit c = true) ∧
        (∀ c ∈ rest.head?, isDigit c = false) ∧ (next run rest).isSome = true := by
  constructor
  · intro h
    rw [digits] at h
    split at h
    · cases h
    · rename_i hrun
      refine ⟨text.takeWhile isDigit, text.dropWhile isDigit, List.takeWhile_append_dropWhile.symm,
        mt List.isEmpty_iff.2 hrun, fun c hc => List.mem_takeWhile_imp hc, fun c hc => ?_, h⟩
      have hstop := List.head?_dropWhile_not isDigit text
      rw [Option.mem_def.1 hc] at hstop
      exact hstop
  · rintro ⟨run, rest, rfl, hne, hrun, hrest, hnext⟩
    rw [digits_written hne hrun hrest]
    exact hnext

theorem isSome_lineText (text : List Char) : (lineText next text).isSome = true ↔
    ∃ read rest, text = read ++ rest ∧ read ≠ [] ∧ '\n' ∉ read ∧ (next rest).isSome = true := by
  induction text with
  | nil =>
    refine iff_of_false Bool.false_ne_true ?_
    rintro ⟨read, rest, htext, hne, _⟩
    exact hne (List.append_eq_nil_iff.1 htext.symm).1
  | cons c text ih =>
    rw [lineText]
    split
    · rename_i hbreak
      refine iff_of_false Bool.false_ne_true ?_
      rintro ⟨read, rest, htext, hne, hline, _⟩
      cases read with
      | nil => exact hne rfl
      | cons d read =>
        obtain ⟨rfl, _⟩ := List.cons.inj htext
        exact hline (hbreak ▸ List.mem_cons_self)
    · rename_i hbreak
      rw [Option.isSome_or, Bool.or_eq_true, ih]
      constructor
      · rintro (hnext | ⟨read, rest, rfl, hne, hline, hnext⟩)
        · exact ⟨[c], text, rfl, List.cons_ne_nil _ _, by simpa using Ne.symm hbreak, hnext⟩
        · refine ⟨c :: read, rest, rfl, List.cons_ne_nil _ _, ?_, hnext⟩
          exact List.not_mem_cons_of_ne_of_not_mem (Ne.symm hbreak) hline
      · rintro ⟨read, rest, htext, hne, hline, hnext⟩
        cases read with
        | nil => exact absurd rfl hne
        | cons d read =>
          obtain ⟨rfl, rfl⟩ := List.cons.inj htext
          cases read with
          | nil => exact .inl hnext
          | cons e read =>
            exact .inr ⟨e :: read, rest, rfl, List.cons_ne_nil _ _,
              List.not_mem_of_not_mem_cons hline, hnext⟩

/-! ### Scans that bear more blanks -/

/-- The scan also accepts the text with trailing blanks. -/
def Tolerant (scan : Scan α) : Prop :=
  ∀ ⦃text padded⦄, Padded text padded → (scan text).isSome = true → (scan padded).isSome = true

theorem tolerant_caseless (word : String) (h : Tolerant next) : Tolerant (caseless word next) := by
  rintro text _ ⟨gap, hgap, rfl⟩ haccepts
  obtain ⟨read, rest, rfl, hread, hnext⟩ := (isSome_caseless word text).1 haccepts
  exact (isSome_caseless word _).2
    ⟨read, rest ++ gap, List.append_assoc .., hread, h ⟨gap, hgap, rfl⟩ hnext⟩

theorem tolerant_char (c : Char) (h : Tolerant next) : Tolerant (char c next) := by
  rintro text _ ⟨gap, hgap, rfl⟩ haccepts
  obtain ⟨rest, rfl, hnext⟩ := (isSome_char c text).1 haccepts
  exact (isSome_char c _).2 ⟨rest ++ gap, rfl, h ⟨gap, hgap, rfl⟩ hnext⟩

theorem tolerant_blanks (h : Tolerant next) : Tolerant (blanks next) := by
  rintro text _ ⟨gap, hgap, rfl⟩ haccepts
  obtain ⟨blank, rest, rfl, hblank, hnext⟩ := (isSome_blanks text).1 haccepts
  exact (isSome_blanks _).2
    ⟨blank, rest ++ gap, List.append_assoc .., hblank, h ⟨gap, hgap, rfl⟩ hnext⟩

theorem tolerant_someBlanks (h : Tolerant next) : Tolerant (someBlanks next) := by
  rintro text _ ⟨gap, hgap, rfl⟩ haccepts
  obtain ⟨blank, rest, rfl, hne, hblank, hnext⟩ := (isSome_someBlanks text).1 haccepts
  exact (isSome_someBlanks _).2
    ⟨blank, rest ++ gap, List.append_assoc .., hne, hblank, h ⟨gap, hgap, rfl⟩ hnext⟩

theorem tolerant_digits {next : List Char → Scan α} (h : ∀ run, Tolerant (next run)) :
    Tolerant (digits next) := by
  rintro text _ ⟨gap, hgap, rfl⟩ haccepts
  obtain ⟨run, rest, rfl, hne, hrun, hrest, hnext⟩ := (isSome_digits text).1 haccepts
  refine (isSome_digits _).2
    ⟨run, rest ++ gap, List.append_assoc .., hne, hrun, ?_, h run ⟨gap, hgap, rfl⟩ hnext⟩
  cases rest with
  | nil => exact fun c hc => isDigit_blank (hgap c (List.mem_of_head? hc))
  | cons d rest => exact hrest

theorem tolerant_either (hfirst : Tolerant first) (hsecond : Tolerant second) :
    Tolerant (either first second) := by
  intro text padded hpadded haccepts
  rw [either, Option.isSome_or, Bool.or_eq_true] at haccepts ⊢
  exact haccepts.imp (hfirst hpadded) (hsecond hpadded)

theorem tolerant_restOfLine {next : List Char → Scan α}
    (h : ∀ run rest, (next run rest).isSome = true) : Tolerant (restOfLine next) := by
  rintro text _ ⟨gap, _, rfl⟩ haccepts
  cases text with
  | nil => cases haccepts
  | cons c text =>
    rw [restOfLine] at haccepts ⊢
    by_cases hc : c = '\n'
    · simp [hc] at haccepts
    · simp [hc, h]

theorem isSome_message {next : List Char → Scan α}
    (hblind : ∀ message stop, (next message stop).isSome = (next [] stop).isSome)
    (text : List Char) :
    (lineText (fun stop => next (between text stop) stop) text).isSome = true ↔
      ∃ read rest, text = read ++ rest ∧ read ≠ [] ∧ '\n' ∉ read ∧
        (next [] rest).isSome = true := by
  rw [isSome_lineText]
  simp only [hblind (between text _)]

theorem tolerant_message {next : List Char → Scan α}
    (hblind : ∀ message stop, (next message stop).isSome = (next [] stop).isSome)
    (h : Tolerant (next [])) :
    Tolerant fun text => lineText (fun stop => next (between text stop) stop) text := by
  rintro text _ ⟨gap, hgap, rfl⟩ haccepts
  obtain ⟨read, rest, rfl, hne, hline, hnext⟩ := (isSome_message hblind text).1 haccepts
  exact (isSome_message hblind _).2
    ⟨read, rest ++ gap, List.append_assoc .., hne, hline, h ⟨gap, hgap, rfl⟩ hnext⟩

/-! ### What is left -/

/-- The rest returned by the scan is a suffix of the text. -/
def Leaves (scan : Scan (β × List Char)) : Prop :=
  ∀ ⦃text answer⦄, scan text = some answer → answer.2 <:+ text

section

variable {next first second : Scan (β × List Char)}

theorem leaves_caseless (word : String) (h : Leaves next) : Leaves (caseless word next) := by
  intro text answer hread
  obtain ⟨rest, hdrop, hnext⟩ := Option.bind_eq_some_iff.1 hread
  obtain ⟨read, rfl, _⟩ := (dropCaseless?_eq_some _ _ _).1 hdrop
  exact (h hnext).trans (List.suffix_append read rest)

theorem leaves_char (c : Char) (h : Leaves next) : Leaves (char c next) := by
  intro text answer hread
  cases text with
  | nil => cases hread
  | cons d rest =>
    rw [char] at hread
    split at hread
    · exact (h hread).trans (List.suffix_cons d rest)
    · cases hread

theorem leaves_blanks (h : Leaves next) : Leaves (blanks next) := by
  intro text
  induction text with
  | nil => exact fun answer hread => h hread
  | cons c text ih =>
    intro answer hread
    rw [blanks] at hread
    split at hread
    · obtain hlonger | ⟨_, hhere⟩ := Option.or_eq_some_iff.1 hread
      · exact (ih hlonger).trans (List.suffix_cons c text)
      · exact h hhere
    · exact h hread

theorem leaves_digits {next : List Char → Scan (β × List Char)} (h : ∀ run, Leaves (next run)) :
    Leaves (digits next) := by
  intro text answer hread
  rw [digits] at hread
  split at hread
  · cases hread
  · exact (h _ hread).trans (List.dropWhile_suffix isDigit)

theorem leaves_either (hfirst : Leaves first) (hsecond : Leaves second) :
    Leaves (either first second) := by
  intro text answer hread
  obtain hread | ⟨_, hread⟩ := Option.or_eq_some_iff.1 hread
  · exact hfirst hread
  · exact hsecond hread

end

/-! ### Searches that find nothing -/

section

variable {find : Option Char → Scan (α × List Char)}

theorem findFrom_past {before : Option Char} {skip : Nat} {text : List Char}
    (h : text.length ≤ skip) : findFrom find before skip text = [] := by
  induction text generalizing before skip with
  | nil => rw [findFrom]
  | cons c text ih =>
    obtain ⟨skip, rfl⟩ := Nat.exists_eq_add_of_le' (Nat.le_of_add_left_le h)
    rw [findFrom]
    exact ih (Nat.le_of_add_le_add_right h)

theorem find_of_findAll (hblind : ∀ before, find before = find none) {text : List Char}
    (h : findAll find text = []) : ∀ part, part <:+ text → part ≠ [] → find none part = none := by
  induction text with
  | nil =>
    intro part hpart hne
    exact absurd (List.suffix_nil.1 hpart) hne
  | cons c text ih =>
    intro part hpart hne
    cases hfind : find none (c :: text) with
    | some answer =>
      rw [findAll, findFrom, hfind] at h
      cases h
    | none =>
      obtain rfl | hrest := List.suffix_cons_iff.1 hpart
      · exact hfind
      · rw [findAll_pass hblind hfind] at h
        exact ih h part hrest hne

theorem find_padded (hblind : ∀ before, find before = find none) (htolerant : Tolerant (find none))
    (hnil : find none [] = none) {text padded : List Char} (hpadded : Padded text padded)
    (h : findAll find padded = []) : ∀ part, part <:+ text → find none part = none := by
  intro part hpart
  by_cases hne : part = []
  · rwa [hne]
  · obtain ⟨gap, hgap, rfl⟩ := hpadded
    obtain ⟨before, rfl⟩ := hpart
    have hlonger : find none (part ++ gap) = none :=
      find_of_findAll hblind h _ ⟨before, (List.append_assoc ..).symm⟩
        (List.append_ne_nil_of_left_ne_nil hne _)
    refine Option.not_isSome_iff_eq_none.1 fun haccepts => ?_
    have hsome := htolerant ⟨gap, hgap, rfl⟩ haccepts
    rw [hlonger] at hsome
    cases hsome

theorem findAll_behind (hblind : ∀ before, find before = find none) {opening text : List Char}
    (h : ∀ tail, tail <:+ opening → tail ≠ [] → find none (tail ++ text) = none) :
    findAll find (opening ++ text) = findAll find text := by
  induction opening with
  | nil => rfl
  | cons c opening ih =>
    have hfirst : find none (c :: (opening ++ text)) = none :=
      h (c :: opening) List.suffix_rfl (List.cons_ne_nil _ _)
    rw [List.cons_append, findAll_pass hblind hfirst]
    exact ih fun tail htail => h tail (htail.trans (List.suffix_cons c opening))

end

end ShaderPreview.Text
