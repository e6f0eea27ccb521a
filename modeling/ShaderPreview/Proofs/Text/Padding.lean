import Mathlib.Data.List.TakeWhile
import Mathlib.Data.Option.Basic
import ShaderPreview.Text.Scan

/-!
# Trailing blanks

Trailing blanks do not affect the matchers of words without blanks: a refused text is refused with
trailing blanks too, and the rests of a match differ only in trailing blanks. The relation is
preserved by every step and by `removeAll`.
-/

namespace ShaderPreview.Text

/-- The second text is the first followed by blanks. -/
def Padded (text padded : List Char) : Prop :=
  ∃ gap, (∀ c ∈ gap, isBlank c = true) ∧ padded = text ++ gap

theorem Padded.refl (text : List Char) : Padded text text :=
  ⟨[], nofun, (List.append_nil text).symm⟩

theorem Padded.cons {text padded : List Char} (c : Char) (h : Padded text padded) :
    Padded (c :: text) (c :: padded) := by
  obtain ⟨gap, hgap, rfl⟩ := h
  exact ⟨gap, hgap, rfl⟩

theorem padded_nil {padded : List Char} :
    Padded [] padded ↔ ∀ c ∈ padded, isBlank c = true := by
  constructor
  · rintro ⟨gap, hgap, rfl⟩
    exact hgap
  · intro h
    exact ⟨padded, h, rfl⟩

theorem Padded.cases {text padded : List Char} (h : Padded text padded) :
    (text = [] ∧ ∀ c ∈ padded, isBlank c = true) ∨
    ∃ c rest longer, text = c :: rest ∧ padded = c :: longer ∧ Padded rest longer := by
  obtain ⟨gap, hgap, rfl⟩ := h
  cases text with
  | nil => exact .inl ⟨rfl, hgap⟩
  | cons c rest => exact .inr ⟨c, rest, rest ++ gap, rfl, rfl, gap, hgap, rfl⟩

theorem Padded.dropWhile {text padded : List Char} {p : Char → Bool}
    (hp : ∀ c, isBlank c = true → p c = true) (h : Padded text padded) :
    Padded (text.dropWhile p) (padded.dropWhile p) := by
  obtain ⟨gap, hgap, rfl⟩ := h
  rw [List.dropWhile_append]
  split
  · rename_i hempty
    have hall : gap.dropWhile p = [] := List.dropWhile_eq_nil_iff.2 fun c hc => hp c (hgap c hc)
    rw [List.isEmpty_iff.1 hempty, hall]
    exact .refl []
  · exact ⟨gap, hgap, rfl⟩

theorem Padded.trimStart {text padded : List Char} (h : Padded text padded) :
    Padded (trimStart text) (trimStart padded) :=
  h.dropWhile fun _ hc => hc

theorem Padded.trimEnd {text padded : List Char} (h : Padded text padded) :
    trimEnd text = trimEnd padded := by
  obtain ⟨gap, hgap, rfl⟩ := h
  have hpassed : ∀ c ∈ gap.reverse, isBlank c = true := fun c hc => hgap c (List.mem_reverse.1 hc)
  unfold Text.trimEnd
  rw [List.reverse_append, List.dropWhile_append_of_pos hpassed]

theorem Padded.trim {text padded : List Char} (h : Padded text padded) :
    trim text = trim padded :=
  h.trimStart.trimEnd

theorem padded_trimEnd (text : List Char) : Padded (trimEnd text) text := by
  refine ⟨(text.reverse.takeWhile isBlank).reverse, ?_, ?_⟩
  · intro c hc
    exact List.mem_takeWhile_imp (List.mem_reverse.1 hc)
  · rw [trimEnd, ← List.reverse_append, List.takeWhile_append_dropWhile, List.reverse_reverse]

/-! ### Scans -/

/-- Rests of two scans that differ in trailing blanks only. -/
structure Behind (text padded rest longer : List Char) : Prop where
  suffix : rest <:+ text
  longerSuffix : longer <:+ padded
  padding : Padded rest longer

theorem Behind.of_suffix {text padded part wider rest longer : List Char}
    (h : Behind part wider rest longer) (hpart : part <:+ text) (hwider : wider <:+ padded) :
    Behind text padded rest longer :=
  ⟨h.suffix.trans hpart, h.longerSuffix.trans hwider, h.padding⟩

/-- The scan behaves alike on a text and on a padded one. -/
def Steady (scan : Scan (List Char)) : Prop :=
  ∀ ⦃text padded⦄, Padded text padded →
    Option.Rel (Behind text padded) (scan text) (scan padded)

theorem rel_or {α β : Type} {R : α → β → Prop} {a b : Option α} {c d : Option β}
    (hfirst : Option.Rel R a c) (hsecond : Option.Rel R b d) : Option.Rel R (a.or b) (c.or d) := by
  cases hfirst with
  | some h => exact .some h
  | none => exact hsecond

section

variable {next first second : Scan (List Char)}

theorem Steady.behind (h : Steady next) {text padded part wider : List Char}
    (hpadded : Padded part wider) (hpart : part <:+ text) (hwider : wider <:+ padded) :
    Option.Rel (Behind text padded) (next part) (next wider) := by
  have hscan := h hpadded
  generalize next part = rest at hscan ⊢
  generalize next wider = longer at hscan ⊢
  cases hscan with
  | some hrest => exact .some (hrest.of_suffix hpart hwider)
  | none => exact .none

theorem foldCase_blank {c : Char} (h : isBlank c = true) : foldCase c = c := by
  have hs : c ≠ 'ſ' := by
    rintro rfl
    exact absurd h (by decide)
  have hk : c ≠ 'K' := by
    rintro rfl
    exact absurd h (by decide)
  have hletter : ¬ ('A' ≤ c ∧ c ≤ 'Z') := by
    rintro ⟨hfrom, hto⟩
    have hfrom : 65 ≤ c.toNat := hfrom
    have hto : c.toNat ≤ 90 := hto
    obtain ⟨range, hrange, hlow, hhigh⟩ := (inRanges_iff blankRanges c).1 h
    simp only [blankRanges, List.mem_cons, List.not_mem_nil, or_false] at hrange
    obtain rfl | rfl | rfl | rfl | rfl | rfl | rfl | rfl | rfl | rfl := hrange <;>
      dsimp only at hlow hhigh <;> omega
  rw [foldCase, if_neg hs, if_neg hk, lowerAscii, if_neg hletter]

theorem dropCaseless?_steady (word : List Char) (hword : ∀ c ∈ word, isBlank c = false) :
    Steady (dropCaseless? word) := by
  induction word with
  | nil =>
    intro text padded h
    exact .some ⟨List.suffix_rfl, List.suffix_rfl, h⟩
  | cons w word ih =>
    obtain ⟨hw, hword⟩ := List.forall_mem_cons.1 hword
    intro text padded h
    obtain ⟨rfl, hblank⟩ | ⟨c, rest, longer, rfl, rfl, hrest⟩ := h.cases
    · cases padded with
      | nil => exact .none
      | cons c longer =>
        have hc : isBlank c = true := hblank c List.mem_cons_self
        have hother : foldCase c ≠ w := by
          rw [foldCase_blank hc]
          rintro rfl
          rw [hc] at hw
          cases hw
        rw [dropCaseless?, dropCaseless?, if_neg hother]
        exact .none
    · rw [dropCaseless?, dropCaseless?]
      split
      · exact (ih hword).behind hrest (List.suffix_cons c rest) (List.suffix_cons c longer)
      · exact .none

theorem steady_caseless {word : String} (hword : word.toList.any isBlank = false)
    (h : Steady next) : Steady (caseless word next) := by
  intro text padded hpadded
  have hbare : ∀ c ∈ word.toList, isBlank c = false := by
    intro c hc
    rw [← Bool.not_eq_true]
    exact List.any_eq_false.1 hword c hc
  have hdrop := dropCaseless?_steady word.toList hbare hpadded
  rw [caseless, caseless]
  generalize dropCaseless? word.toList text = part at hdrop ⊢
  generalize dropCaseless? word.toList padded = wider at hdrop ⊢
  cases hdrop with
  | some hbehind => exact h.behind hbehind.padding hbehind.suffix hbehind.longerSuffix
  | none => exact .none

theorem steady_char {c : Char} (hc : isBlank c = false) (h : Steady next) :
    Steady (char c next) := by
  intro text padded hpadded
  obtain ⟨rfl, hblank⟩ | ⟨d, rest, longer, rfl, rfl, hrest⟩ := hpadded.cases
  · cases padded with
    | nil => exact .none
    | cons d longer =>
      have hother : d ≠ c := by
        rintro rfl
        rw [hblank d List.mem_cons_self] at hc
        cases hc
      rw [char, char, if_neg hother]
      exact .none
  · rw [char, char]
    split
    · exact h.behind hrest (List.suffix_cons d rest) (List.suffix_cons d longer)
    · exact .none

theorem steady_blanks (h : Steady next) : Steady (blanks next) := by
  intro text
  induction text with
  | nil =>
    -- on blanks alone every try is a try on padded nothing
    intro padded hpadded
    have hblank := padded_nil.1 hpadded
    rw [blanks]
    induction padded with
    | nil => exact h hpadded
    | cons c longer ih =>
      obtain ⟨hc, hlonger⟩ := List.forall_mem_cons.1 hblank
      have hinner := ih (padded_nil.2 hlonger) hlonger
      have hhere := h hpadded
      rw [blanks, if_pos hc]
      generalize next [] = rest at hinner hhere ⊢
      generalize next (c :: longer) = here at hhere ⊢
      generalize blanks next longer = inner at hinner ⊢
      cases hinner with
      | some hbehind => exact .some (hbehind.of_suffix List.suffix_rfl (List.suffix_cons c longer))
      | none => exact hhere
  | cons c rest ih =>
    rintro _ ⟨gap, hgap, rfl⟩
    have hhere : Option.Rel (Behind (c :: rest) (c :: rest ++ gap)) (next (c :: rest))
        (next (c :: rest ++ gap)) := h ⟨gap, hgap, rfl⟩
    rw [List.cons_append] at hhere ⊢
    rw [blanks, blanks]
    split
    · have hinner := ih ⟨gap, hgap, rfl⟩
      refine rel_or ?_ hhere
      generalize blanks next rest = inner at hinner ⊢
      generalize blanks next (rest ++ gap) = outer at hinner ⊢
      cases hinner with
      | some hbehind =>
        exact .some (hbehind.of_suffix (List.suffix_cons c rest) (List.suffix_cons c _))
      | none => exact .none
    · exact hhere

theorem steady_someBlanks (hnil : next [] = none) (h : Steady next) :
    Steady (someBlanks next) := by
  intro text padded hpadded
  obtain ⟨rfl, hblank⟩ | ⟨c, rest, longer, rfl, rfl, hrest⟩ := hpadded.cases
  · cases padded with
    | nil => exact .none
    | cons c longer =>
      obtain ⟨hc, hlonger⟩ := List.forall_mem_cons.1 hblank
      have hinner := steady_blanks h (padded_nil.2 hlonger)
      rw [blanks, hnil] at hinner
      rw [someBlanks, someBlanks, if_pos hc]
      generalize blanks next longer = inner at hinner ⊢
      cases hinner
      exact .none
  · rw [someBlanks, someBlanks]
    split
    · exact (steady_blanks h).behind hrest (List.suffix_cons c rest) (List.suffix_cons c longer)
    · exact .none

theorem isDigit_blank {c : Char} (h : isBlank c = true) : isDigit c = false := by
  have hapart : ∀ blank ∈ blankRanges, ∀ digit ∈ digitRanges,
      blank.2 < digit.1 ∨ digit.2 < blank.1 := by decide
  exact not_inRanges_of_apart hapart h

theorem steady_digits {next : List Char → Scan (List Char)} (h : ∀ run, Steady (next run)) :
    Steady (digits next) := by
  rintro text _ ⟨gap, hgap, rfl⟩
  have hstop : gap.takeWhile isDigit = [] ∧ gap.dropWhile isDigit = gap := by
    cases gap with
    | nil => exact ⟨rfl, rfl⟩
    | cons c gap =>
      have hc : isDigit c = false := isDigit_blank (hgap c List.mem_cons_self)
      simp only [List.takeWhile_cons, List.dropWhile_cons, hc, Bool.false_eq_true, if_false,
        and_self]
  have htake : (text ++ gap).takeWhile isDigit = text.takeWhile isDigit := by
    rw [List.takeWhile_append, hstop.1]
    split
    · rename_i hall
      rw [List.append_nil, (List.takeWhile_prefix isDigit).eq_of_length hall]
    · rfl
  have hdrop : (text ++ gap).dropWhile isDigit = text.dropWhile isDigit ++ gap := by
    rw [List.dropWhile_append, hstop.2]
    split
    · rename_i hempty
      rw [List.isEmpty_iff.1 hempty, List.nil_append]
    · rfl
  simp only [digits, htake, hdrop]
  split
  · exact .none
  · refine (h _).behind ⟨gap, hgap, rfl⟩ (List.dropWhile_suffix isDigit) ?_
    rw [← hdrop]
    exact List.dropWhile_suffix isDigit

theorem steady_either (hfirst : Steady first) (hsecond : Steady second) :
    Steady (either first second) :=
  fun _ _ hpadded => rel_or (hfirst hpadded) (hsecond hpadded)

theorem steady_dropWhile {p : Char → Bool} (hp : ∀ c, isBlank c = true → p c = true) :
    Steady fun rest => some (rest.dropWhile p) :=
  fun _ _ hpadded => .some
    ⟨List.dropWhile_suffix p, List.dropWhile_suffix p, hpadded.dropWhile hp⟩

end

/-! ### Removing what a scan reads -/

variable {find : Scan (List Char)}

theorem removeFrom_skip (find : Scan (List Char)) (skip : Nat) (text : List Char) :
    removeFrom find skip text = removeAll find (text.drop skip) := by
  induction text generalizing skip with
  | nil =>
    rw [List.drop_nil]
    cases skip <;> rfl
  | cons c text ih =>
    cases skip with
    | zero => rfl
    | succ skip => exact ih skip

theorem removeAll_read {c : Char} {text rest : List Char} (hfind : find (c :: text) = some rest)
    (hrest : rest <:+ text) : removeAll find (c :: text) = removeAll find rest := by
  rw [removeAll, removeFrom, hfind]
  dsimp only
  rw [removeFrom_skip, ← List.suffix_iff_eq_drop.1 hrest]

theorem removeAll_pass {c : Char} {text : List Char} (hfind : find (c :: text) = none) :
    removeAll find (c :: text) = c :: removeAll find text := by
  rw [removeAll, removeFrom, hfind]
  rfl

theorem Padded.removeAll (h : Steady find)
    (hproper : ∀ text rest, find text = some rest → rest.length < text.length)
    {text padded : List Char} (hpadded : Padded text padded) :
    Padded (removeAll find text) (removeAll find padded) := by
  have hbehind : ∀ {c : Char} {text rest : List Char}, find (c :: text) = some rest →
      rest <:+ c :: text → rest <:+ text := by
    intro c text rest hfind hsuffix
    have hshort := hproper _ _ hfind
    exact List.suffix_of_suffix_length_le hsuffix (List.suffix_cons c text)
      (Nat.le_of_lt_succ hshort)
  -- the induction is on the length, since the removal goes on behind what was read
  induction hlength : text.length using Nat.strongRecOn generalizing text padded with
  | ind n ih =>
    subst hlength
    have hscan := h hpadded
    obtain ⟨rfl, hblank⟩ | ⟨c, rest, longer, rfl, rfl, hrest⟩ := hpadded.cases
    · have hkept : ∀ gap : List Char, (∀ c ∈ gap, isBlank c = true) →
          Text.removeAll find gap = gap := by
        intro gap hgap
        induction gap with
        | nil => rfl
        | cons c gap ihgap =>
          have hnone : find [] = none := Option.eq_none_iff_forall_ne_some.2 fun rest hrest =>
            absurd (hproper [] rest hrest) (Nat.not_lt_zero _)
          have hscan := h (padded_nil.2 hgap)
          rw [hnone] at hscan
          have hfind : find (c :: gap) = none := by
            generalize find (c :: gap) = answer at hscan
            cases hscan
            rfl
          rw [removeAll_pass hfind, ihgap (List.forall_mem_cons.1 hgap).2]
      rw [hkept padded hblank]
      exact padded_nil.2 hblank
    · cases hshort : find (c :: rest) with
      | none =>
        cases hlong : find (c :: longer) with
        | none =>
          rw [removeAll_pass hshort, removeAll_pass hlong]
          exact (ih rest.length (Nat.lt_succ_self _) hrest rfl).cons c
        | some far =>
          rw [hshort, hlong] at hscan
          cases hscan
      | some near =>
        cases hlong : find (c :: longer) with
        | none =>
          rw [hshort, hlong] at hscan
          cases hscan
        | some far =>
          rw [hshort, hlong] at hscan
          cases hscan with
          | some hleft =>
            rw [removeAll_read hshort (hbehind hshort hleft.suffix),
              removeAll_read hlong (hbehind hlong hleft.longerSuffix)]
            exact ih near.length (hproper _ _ hshort) hleft.padding rfl

end ShaderPreview.Text
