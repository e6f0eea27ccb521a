import ShaderPreview.Text.Scan

/-!
# Accepted texts

A matcher accepts a text if some split of the text is accepted step by step; backtracking finds
every split, and a search finds every position.
-/

namespace ShaderPreview.Text

/-! ### Words -/

theorem hasWord_iff (word text : List Char) : hasWord word text = true ↔ word <:+: text := by
  induction text with
  | nil => simp [hasWord, indexOf?]
  | cons c rest ih =>
    rw [List.infix_cons_iff, ← ih, hasWord, indexOf?, hasWord]
    by_cases hprefix : word <+: c :: rest
    · simp [List.isPrefixOf_iff_prefix.2 hprefix, hprefix]
    · have hnot : word.isPrefixOf (c :: rest) = false := by
        rw [← Bool.not_eq_true, List.isPrefixOf_iff_prefix]
        exact hprefix
      simp [hnot, hprefix]

theorem infix_behind {word after : List Char} {c : Char} (hc : c ∉ word)
    (h : word <:+: c :: after) : word <:+: after := by
  obtain hprefix | hinfix := List.infix_cons_iff.1 h
  · cases word with
    | nil => exact List.nil_infix
    | cons w word =>
      obtain ⟨rfl, _⟩ := List.cons_prefix_cons.1 hprefix
      exact absurd List.mem_cons_self hc
  · exact hinfix

theorem infix_of_apart {word before after : List Char} {c : Char} (hc : c ∉ word)
    (h : word <:+: before ++ c :: after) : word <:+: before ∨ word <:+: after := by
  obtain hbefore | hafter | ⟨first, last, rfl, hfirst, hlast⟩ := List.infix_append_iff.1 h
  · exact .inl hbefore
  · exact .inr (infix_behind hc hafter)
  · cases last with
    | nil =>
      rw [List.append_nil]
      exact .inl hfirst.isInfix
    | cons d last =>
      obtain ⟨rfl, _⟩ := List.cons_prefix_cons.1 hlast
      exact absurd (List.mem_append_right _ List.mem_cons_self) hc

theorem infix_of_apart_run {word before run after : List Char} (hne : run ≠ [])
    (hrun : ∀ c ∈ run, c ∉ word) (h : word <:+: before ++ (run ++ after)) :
    word <:+: before ∨ word <:+: after := by
  induction run generalizing before with
  | nil => contradiction
  | cons c run ih =>
    obtain ⟨hc, hmore⟩ := List.forall_mem_cons.1 hrun
    obtain hbefore | hrest := infix_of_apart hc h
    · exact .inl hbefore
    · cases run with
      | nil => exact .inr hrest
      | cons d run =>
        have hnext : word <:+: [] ++ (d :: run ++ after) := hrest
        obtain hnil | hafter := ih (List.cons_ne_nil _ _) hmore hnext
        · rw [List.infix_nil.1 hnil]
          exact .inl List.nil_infix
        · exact .inr hafter

theorem dropCaseless?_eq_some (word text rest : List Char) : dropCaseless? word text = some rest ↔
    ∃ read, text = read ++ rest ∧ read.map foldCase = word := by
  induction word generalizing text with
  | nil =>
    simp only [dropCaseless?, Option.some.injEq, List.map_eq_nil_iff]
    constructor
    · intro htext
      exact ⟨[], htext, rfl⟩
    · rintro ⟨read, htext, hread⟩
      rw [htext, hread, List.nil_append]
  | cons w word ih =>
    cases text with
    | nil =>
      simp only [dropCaseless?, reduceCtorEq, false_iff]
      rintro ⟨read, htext, hread⟩
      rw [(List.append_eq_nil_iff.1 htext.symm).1] at hread
      cases hread
    | cons c text =>
      simp only [dropCaseless?, Option.ite_none_right_eq_some, ih]
      constructor
      · rintro ⟨hfold, read, rfl, hread⟩
        exact ⟨c :: read, rfl, by rw [List.map_cons, hfold, hread]⟩
      · rintro ⟨read, htext, hread⟩
        cases read with
        | nil => cases hread
        | cons d read =>
          obtain ⟨rfl, rfl⟩ := List.cons.inj htext
          obtain ⟨hfold, hrest⟩ := List.cons.inj hread
          exact ⟨hfold, read, rfl, hrest⟩

/-! ### Scans that accept -/

variable {α : Type} {next : Scan α}

theorem isSome_caseless (word : String) (text : List Char) :
    (caseless word next text).isSome = true ↔
      ∃ read rest, text = read ++ rest ∧ read.map foldCase = word.toList ∧
        (next rest).isSome = true := by
  have hbind : (caseless word next text).isSome = true ↔
      ∃ rest, dropCaseless? word.toList text = some rest ∧ (next rest).isSome = true := by
    cases hdrop : dropCaseless? word.toList text <;> simp [caseless, hdrop]
  simp only [hbind, dropCaseless?_eq_some]
  constructor
  · rintro ⟨rest, ⟨read, htext, hread⟩, hnext⟩
    exact ⟨read, rest, htext, hread, hnext⟩
  · rintro ⟨read, rest, htext, hread, hnext⟩
    exact ⟨rest, ⟨read, htext, hread⟩, hnext⟩

theorem isSome_char (c : Char) (text : List Char) : (char c next text).isSome = true ↔
    ∃ rest, text = c :: rest ∧ (next rest).isSome = true := by
  cases text with
  | nil => simp [char]
  | cons d text =>
    rw [char]
    by_cases hd : d = c
    · rw [if_pos hd, hd]
      refine ⟨fun hnext => ⟨text, rfl, hnext⟩, ?_⟩
      rintro ⟨rest, htext, hnext⟩
      rwa [(List.cons.inj htext).2]
    · rw [if_neg hd]
      refine ⟨nofun, ?_⟩
      rintro ⟨rest, htext, _⟩
      exact absurd (List.cons.inj htext).1 hd

theorem isSome_blanks (text : List Char) : (blanks next text).isSome = true ↔
    ∃ gap rest, text = gap ++ rest ∧ (∀ c ∈ gap, isBlank c = true) ∧ (next rest).isSome = true := by
  induction text with
  | nil =>
    rw [blanks]
    refine ⟨fun h => ⟨[], [], rfl, nofun, h⟩, ?_⟩
    rintro ⟨gap, rest, htext, _, hnext⟩
    rwa [(List.append_eq_nil_iff.1 htext.symm).2] at hnext
  | cons c text ih =>
    rw [blanks]
    by_cases hc : isBlank c = true
    · rw [if_pos hc, Option.isSome_or, Bool.or_eq_true, ih]
      constructor
      · rintro (⟨gap, rest, rfl, hgap, hnext⟩ | hnext)
        · exact ⟨c :: gap, rest, rfl, List.forall_mem_cons.2 ⟨hc, hgap⟩, hnext⟩
        · exact ⟨[], c :: text, rfl, nofun, hnext⟩
      · rintro ⟨gap, rest, htext, hgap, hnext⟩
        cases gap with
        | nil => exact .inr (by rwa [htext])
        | cons d gap =>
          obtain ⟨_, rfl⟩ := List.cons.inj htext
          exact .inl ⟨gap, rest, rfl, (List.forall_mem_cons.1 hgap).2, hnext⟩
    · rw [if_neg hc]
      refine ⟨fun hnext => ⟨[], c :: text, rfl, nofun, hnext⟩, ?_⟩
      rintro ⟨gap, rest, htext, hgap, hnext⟩
      cases gap with
      | nil => rwa [htext]
      | cons d gap =>
        obtain ⟨rfl, _⟩ := List.cons.inj htext
        exact absurd (hgap c List.mem_cons_self) hc

theorem isSome_someBlanks (text : List Char) : (someBlanks next text).isSome = true ↔
    ∃ gap rest, text = gap ++ rest ∧ gap ≠ [] ∧ (∀ c ∈ gap, isBlank c = true) ∧
      (next rest).isSome = true := by
  cases text with
  | nil =>
    simp only [someBlanks, Option.isSome_none, Bool.false_eq_true, false_iff]
    rintro ⟨gap, rest, htext, hne, _⟩
    exact hne (List.append_eq_nil_iff.1 htext.symm).1
  | cons c text =>
    rw [someBlanks]
    constructor
    · intro h
      split at h
      · rename_i hc
        obtain ⟨gap, rest, rfl, hgap, hnext⟩ := (isSome_blanks text).1 h
        exact ⟨c :: gap, rest, rfl, List.cons_ne_nil _ _, List.forall_mem_cons.2 ⟨hc, hgap⟩, hnext⟩
      · cases h
    · rintro ⟨gap, rest, htext, hne, hgap, hnext⟩
      cases gap with
      | nil => exact absurd rfl hne
      | cons d gap =>
        obtain ⟨rfl, rfl⟩ := List.cons.inj htext
        obtain ⟨hc, hgap⟩ := List.forall_mem_cons.1 hgap
        rw [if_pos hc, isSome_blanks]
        exact ⟨gap, rest, rfl, hgap, hnext⟩

theorem occurs_iff (find : Scan Unit) (text : List Char) : occurs find text = true ↔
    ∃ before rest, text = before ++ rest ∧ (find rest).isSome = true := by
  induction text with
  | nil =>
    rw [occurs]
    refine ⟨fun h => ⟨[], [], rfl, h⟩, ?_⟩
    rintro ⟨before, rest, htext, hfind⟩
    rwa [(List.append_eq_nil_iff.1 htext.symm).2] at hfind
  | cons c text ih =>
    rw [occurs, Bool.or_eq_true, ih]
    constructor
    · rintro (hfind | ⟨before, rest, rfl, hfind⟩)
      · exact ⟨[], c :: text, rfl, hfind⟩
      · exact ⟨c :: before, rest, rfl, hfind⟩
    · rintro ⟨before, rest, htext, hfind⟩
      cases before with
      | nil => exact .inl (by rwa [htext])
      | cons d before =>
        obtain ⟨_, rfl⟩ := List.cons.inj htext
        exact .inr ⟨before, rest, rfl, hfind⟩

end ShaderPreview.Text
