/-!
# Searching a text

First occurrence of a word, and splitting of texts.
-/

namespace ShaderPreview.Text

/-- Removes `word` from the front of `text`. -/
def dropWord? (word text : List Char) : Option (List Char) :=
  if word.isPrefixOf text then some (text.drop word.length) else none

/-- Index of the first occurrence. -/
def indexOf? (word : List Char) : List Char → Option Nat
  | [] => if word.isEmpty then some 0 else none
  | c :: rest => if word.isPrefixOf (c :: rest) then some 0 else (indexOf? word rest).map (· + 1)

def hasWord (word text : List Char) : Bool := (indexOf? word text).isSome

/-- Difference of a suffix: the consumed part of `start`. -/
def between (start rest : List Char) : List Char := start.take (start.length - rest.length)

/-- Splits at the first accepted item, which is dropped. -/
def cutAt? {α : Type} (here : α → Bool) : List α → Option (List α × List α)
  | [] => none
  | c :: rest =>
    if here c then some ([], rest)
    else (cutAt? here rest).map fun parts => (c :: parts.1, parts.2)

/-- Splits at every accepted item. -/
def splitAt {α : Type} (here : α → Bool) : List α → List (List α)
  | [] => [[]]
  | c :: rest =>
    if here c then [] :: splitAt here rest
    else match splitAt here rest with
      | [] => [[c]]
      | piece :: pieces => (c :: piece) :: pieces

theorem between_append (read rest : List Char) : between (read ++ rest) rest = read := by
  simp [between]

theorem dropWord?_eq_some {word text rest : List Char} :
    dropWord? word text = some rest ↔ text = word ++ rest := by
  unfold dropWord?
  split
  · next hword =>
    obtain ⟨after, rfl⟩ := List.isPrefixOf_iff_prefix.1 hword
    rw [List.drop_left, Option.some.injEq, List.append_cancel_left_eq]
  · next hword =>
    refine iff_of_false nofun ?_
    rintro rfl
    exact hword (List.isPrefixOf_iff_prefix.2 (List.prefix_append word rest))

theorem indexOf?_lt {word text : List Char} {i : Nat} (h : indexOf? word text = some i) :
    i ≤ text.length := by
  induction text generalizing i with
  | nil =>
    simp only [indexOf?] at h
    split at h <;> simp_all
  | cons c rest ih =>
    simp only [indexOf?] at h
    split at h
    · simp only [Option.some.injEq] at h
      omega
    · obtain ⟨j, hj, rfl⟩ := Option.map_eq_some_iff.1 h
      have := ih hj
      simp only [List.length_cons]
      omega

theorem cutAt?_eq_some {α : Type} {here : α → Bool} {text before after : List α}
    (h : cutAt? here text = some (before, after)) :
    ∃ c, here c = true ∧ text = before ++ c :: after ∧ ∀ d ∈ before, here d = false := by
  induction text generalizing before with
  | nil => simp [cutAt?] at h
  | cons c rest ih =>
    simp only [cutAt?] at h
    split at h
    · next hc =>
      simp only [Option.some.injEq, Prod.mk.injEq] at h
      obtain ⟨rfl, rfl⟩ := h
      exact ⟨c, hc, rfl, by simp⟩
    · next hc =>
      obtain ⟨⟨b, a⟩, hp, he⟩ := Option.map_eq_some_iff.1 h
      simp only [Prod.mk.injEq] at he
      obtain ⟨rfl, rfl⟩ := he
      obtain ⟨d, hd, ht, hb⟩ := ih hp
      refine ⟨d, hd, by simp [ht], ?_⟩
      intro e he
      rcases List.mem_cons.1 he with rfl | he
      · simpa using hc
      · exact hb e he

theorem cutAt?_append {α : Type} {here : α → Bool} {before : List α} {c : α}
    (hbefore : ∀ d ∈ before, here d = false) (hc : here c = true) (after : List α) :
    cutAt? here (before ++ c :: after) = some (before, after) := by
  induction before with
  | nil => exact if_pos hc
  | cons d before ih =>
    obtain ⟨hd, hbefore⟩ := List.forall_mem_cons.1 hbefore
    rw [List.cons_append, cutAt?, if_neg (Bool.eq_false_iff.1 hd), ih hbefore]
    rfl

end ShaderPreview.Text
