import ShaderPreview.Shader.Header

/-!
# References to channels

`needsTextures` is a search for the texture names as whole words: no word character stands on either
side. The search is compared with a specification by splits of the text.
-/

namespace ShaderPreview

/-! ### Whole words -/

namespace Text

/-- The word occurs in the text with no word character next to it. -/
def WholeWord (word text : List Char) : Prop :=
  ∃ before after, text = before ++ word ++ after ∧
    noWord before.getLast? = true ∧ noWord after.head? = true

/-- The same for a text with a given preceding character. -/
def WholeWordFrom (before : Option Char) (word text : List Char) : Prop :=
  ∃ earlier after, text = earlier ++ word ++ after ∧
    noWord (earlier.getLast?.or before) = true ∧ noWord after.head? = true

variable {word : List Char}

theorem wholeWordFrom_none {text : List Char} :
    WholeWordFrom none word text ↔ WholeWord word text := by
  simp only [WholeWordFrom, WholeWord, Option.or_none]

theorem getLast?_cons_or (c : Char) (earlier : List Char) (before : Option Char) :
    (c :: earlier).getLast?.or before = earlier.getLast?.or (some c) := by
  rw [List.getLast?_cons]
  cases earlier.getLast? <;> rfl

theorem not_wholeWordFrom_nil (hword : word ≠ []) (before : Option Char) :
    ¬ WholeWordFrom before word [] := by
  rintro ⟨earlier, after, htext, _⟩
  obtain ⟨hearlier, _⟩ := List.append_eq_nil_iff.1 htext.symm
  exact hword (List.append_eq_nil_iff.1 hearlier).2

theorem wholeWordFrom_cons (before : Option Char) (c : Char) (text : List Char) :
    WholeWordFrom before word (c :: text) ↔
      (∃ after, c :: text = word ++ after ∧ noWord before = true ∧ noWord after.head? = true) ∨
        WholeWordFrom (some c) word text := by
  constructor
  · rintro ⟨earlier, after, htext, hbefore, hafter⟩
    cases earlier with
    | nil => exact .inl ⟨after, htext, hbefore, hafter⟩
    | cons d earlier =>
      obtain ⟨rfl, rfl⟩ := List.cons.inj htext
      rw [getLast?_cons_or] at hbefore
      exact .inr ⟨earlier, after, rfl, hbefore, hafter⟩
  · rintro (⟨after, htext, hbefore, hafter⟩ | ⟨earlier, after, rfl, hbefore, hafter⟩)
    · exact ⟨[], after, htext, hbefore, hafter⟩
    · refine ⟨c :: earlier, after, rfl, ?_, hafter⟩
      rwa [getLast?_cons_or]

/-! ### Texts side by side -/

theorem noWord_or {near far : Option Char} (hnear : noWord near = true) (hfar : noWord far = true) :
    noWord (near.or far) = true := by
  cases near with
  | none => exact hfar
  | some c => exact hnear

theorem noWord_of_or {near far : Option Char} (h : noWord (near.or far) = true) :
    noWord near = true := by
  cases near with
  | none => rfl
  | some c => exact h

theorem wholeWord_apart {c : Char} (hc : isWord c = false) (hword : c ∉ word)
    (first second : List Char) :
    WholeWord word (first ++ c :: second) ↔ WholeWord word first ∨ WholeWord word second := by
  have hbetween : noWord (some c) = true := by rw [noWord, hc, Bool.not_false]
  constructor
  · rintro ⟨before, after, htext, hbefore, hafter⟩
    obtain ⟨inner, hread, hrest⟩ | ⟨inner, hfirst, hrest⟩ := List.append_eq_append_iff.1 htext
    · cases inner with
      | nil =>
        rw [List.append_nil] at hread
        exact .inl ⟨before, [], by rw [List.append_nil, hread], hbefore, rfl⟩
      | cons d inner =>
        obtain ⟨rfl, rfl⟩ := List.cons.inj hrest
        obtain ⟨part, _, rfl⟩ | ⟨part, rfl, hpart⟩ := List.append_eq_append_iff.1 hread
        · exact absurd (List.mem_append_right part List.mem_cons_self) hword
        · cases part with
          | nil =>
            rw [List.nil_append] at hpart
            exact absurd (hpart ▸ List.mem_cons_self) hword
          | cons e part =>
            obtain ⟨rfl, rfl⟩ := List.cons.inj hpart
            rw [List.getLast?_append, getLast?_cons_or] at hbefore
            exact .inr ⟨part, after, rfl, noWord_of_or hbefore, hafter⟩
    · rw [hrest, List.head?_append] at hafter
      exact .inl ⟨before, inner, hfirst, hbefore, noWord_of_or hafter⟩
  · rintro (⟨before, after, rfl, hbefore, hafter⟩ | ⟨before, after, rfl, hbefore, hafter⟩)
    · refine ⟨before, after ++ c :: second, by rw [List.append_assoc], hbefore, ?_⟩
      rw [List.head?_append]
      exact noWord_or hafter hbetween
    · refine ⟨first ++ c :: before, after, by simp only [List.append_assoc, List.cons_append], ?_,
        hafter⟩
      rw [List.getLast?_append, getLast?_cons_or]
      exact noWord_or hbefore hbetween

end Text

/-! ### Names of textures -/

open Text

def channelDigits : List Char := ['0', '1', '2', '3']

def textureName (digit : Char) : List Char := "iChannel".toList ++ [digit]

theorem mem_channelDigits {c : Char} : c ∈ channelDigits ↔ '0' ≤ c ∧ c ≤ '3' := by
  constructor
  · intro h
    simp only [channelDigits, List.mem_cons, List.not_mem_nil, or_false] at h
    obtain rfl | rfl | rfl | rfl := h <;> decide
  · rintro ⟨hlow, hhigh⟩
    have hlow : 48 ≤ c.toNat := hlow
    have hhigh : c.toNat ≤ 51 := hhigh
    have hall : ∀ n ≤ 51, 48 ≤ n → Char.ofNat n ∈ channelDigits := by decide
    have hdigit := hall c.toNat hhigh hlow
    rwa [Char.ofNat_toNat] at hdigit

theorem channelName?_eq_some {text rest : List Char} : channelName? text = some rest ↔
    ∃ digit ∈ channelDigits, text = textureName digit ++ rest := by
  have happend (digit : Char) : textureName digit ++ rest = "iChannel".toList ++ digit :: rest :=
    List.append_assoc ..
  constructor
  · intro h
    unfold channelName? at h
    split at h
    · next c after hafter =>
      obtain ⟨hdigit, hrest⟩ := Option.ite_none_right_eq_some.1 h
      obtain rfl := Option.some.inj hrest
      exact ⟨c, mem_channelDigits.2 hdigit, (dropWord?_eq_some.1 hafter).trans (happend c).symm⟩
    · cases h
  · rintro ⟨digit, hdigit, rfl⟩
    have hdropped : dropWord? "iChannel".toList (textureName digit ++ rest) =
        some (digit :: rest) := dropWord?_eq_some.2 (happend digit)
    rw [channelName?, hdropped]
    exact if_pos (mem_channelDigits.1 hdigit)

theorem namesChannel_iff {before : Option Char} {text : List Char} :
    namesChannel before text = true ↔ ∃ digit ∈ channelDigits, ∃ after,
      text = textureName digit ++ after ∧ noWord before = true ∧ noWord after.head? = true := by
  rw [namesChannel, Bool.and_eq_true]
  constructor
  · rintro ⟨hbefore, hname⟩
    split at hname
    · next after hafter =>
      obtain ⟨digit, hdigit, htext⟩ := channelName?_eq_some.1 hafter
      exact ⟨digit, hdigit, after, htext, hbefore, hname⟩
    · cases hname
  · rintro ⟨digit, hdigit, after, htext, hbefore, hafter⟩
    have hname : channelName? text = some after := channelName?_eq_some.2 ⟨digit, hdigit, htext⟩
    rw [hname]
    exact ⟨hbefore, hafter⟩

theorem namesChannelFrom_iff {before : Option Char} {text : List Char} :
    namesChannelFrom before text = true ↔
      ∃ digit ∈ channelDigits, WholeWordFrom before (textureName digit) text := by
  induction text generalizing before with
  | nil =>
    refine iff_of_false Bool.false_ne_true ?_
    rintro ⟨digit, _, hfound⟩
    have hname : textureName digit ≠ [] :=
      List.append_ne_nil_of_right_ne_nil _ (List.cons_ne_nil digit [])
    exact not_wholeWordFrom_nil hname before hfound
  | cons c text ih =>
    rw [namesChannelFrom, Bool.or_eq_true, namesChannel_iff, ih]
    simp only [wholeWordFrom_cons, and_or_left, exists_or]

theorem needsTextures_iff {source : String} : needsTextures source = true ↔
    ∃ digit ∈ channelDigits, WholeWord (textureName digit) source.toList := by
  simp only [needsTextures, namesChannelFrom_iff, wholeWordFrom_none]

theorem needsTextures_apart {separator : Char} (h : isWord separator = false)
    (first second : String) :
    needsTextures (first ++ String.singleton separator ++ second) =
      (needsTextures first || needsTextures second) := by
  have hname : ∀ digit ∈ channelDigits, separator ∉ textureName digit := by
    have hword : (channelDigits.all fun digit => (textureName digit).all isWord) = true := by
      decide +kernel
    intro digit hdigit hmem
    rw [List.all_eq_true.1 (List.all_eq_true.1 hword digit hdigit) separator hmem] at h
    cases h
  have htext : (first ++ String.singleton separator ++ second).toList =
      first.toList ++ separator :: second.toList := by
    simp only [String.toList_append, String.toList_singleton, List.append_assoc,
      List.singleton_append]
  rw [Bool.eq_iff_iff, Bool.or_eq_true, needsTextures_iff, needsTextures_iff, needsTextures_iff,
    htext]
  constructor
  · rintro ⟨digit, hdigit, hfound⟩
    exact ((wholeWord_apart h (hname digit hdigit) _ _).1 hfound).imp
      (fun hfirst => ⟨digit, hdigit, hfirst⟩) fun hsecond => ⟨digit, hdigit, hsecond⟩
  · rintro (⟨digit, hdigit, hfound⟩ | ⟨digit, hdigit, hfound⟩)
    · exact ⟨digit, hdigit, (wholeWord_apart h (hname digit hdigit) _ _).2 (.inl hfound)⟩
    · exact ⟨digit, hdigit, (wholeWord_apart h (hname digit hdigit) _ _).2 (.inr hfound)⟩

/-- Textures are needed exactly if `iChannel0`, …, `iChannel3` occurs in the source as a whole word;
a text of several lines needs them if one of its lines does. Word characters are alphabetic
characters, marks, decimal digits, connector punctuation and join controls. -/
theorem needsTextures_wholeWord :
    (∀ source : String, needsTextures source = true ↔
      ∃ before digit after, source.toList = before ++ ("iChannel".toList ++ [digit]) ++ after ∧
        digit ∈ channelDigits ∧ noWord before.getLast? = true ∧ noWord after.head? = true) ∧
    (∀ first second : String,
      needsTextures (first ++ "\n" ++ second) = (needsTextures first || needsTextures second)) ∧
    ∀ c, isWord c = true ↔ isAlphabetic c = true ∨ inRanges markRanges c = true ∨
      inRanges digitRanges c = true ∨ inRanges connectorRanges c = true ∨
      inRanges joinControlRanges c = true := by
  refine ⟨fun source => ?_, fun first second => ?_, fun _ => isWord_iff⟩
  · rw [needsTextures_iff]
    constructor
    · rintro ⟨digit, hdigit, before, after, htext, hbefore, hafter⟩
      exact ⟨before, digit, after, htext, hdigit, hbefore, hafter⟩
    · rintro ⟨before, digit, after, htext, hdigit, hbefore, hafter⟩
      exact ⟨digit, hdigit, before, after, htext, hbefore, hafter⟩
  · have hbreak : isWord '\n' = false := by decide
    exact needsTextures_apart hbreak first second

/-- A name next to a word character, such as a digit of another script, does not count, and does not
hide a later one. -/
theorem needsTextures_wholeWord_touched :
    isWord '٣' = true ∧ needsTextures "iChannel0٣" = false ∧
    needsTextures ("let c = myiChannel0;" ++ "\n" ++ "iChannel00, iChannel0") = true := by
  obtain ⟨hposition, hlines, hclass⟩ := needsTextures_wholeWord
  refine ⟨(hclass '٣').2 (.inr (.inr (.inl (by decide)))), by decide +kernel, ?_⟩
  have hfound : needsTextures "iChannel00, iChannel0" = true :=
    (hposition _).2 ⟨"iChannel00, ".toList, '0', [], by decide +kernel⟩
  rw [hlines, hfound, Bool.or_true]

end ShaderPreview
