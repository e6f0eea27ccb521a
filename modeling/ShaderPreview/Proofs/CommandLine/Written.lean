import ShaderPreview.CommandLine.Value
import ShaderPreview.Proofs.Text.Trimmed

/-!
# Grammar of option values

Sizes are two numerals around a separator, with optional blanks around each; numerals may have a
plus sign and leading zeros.

Assignments are a numeral, an equals sign and a non-blank path, with optional blanks. The first
equals sign is the separator.
-/

namespace ShaderPreview

open Text

/-! ### Sizes -/

/-- Separators of width and height. -/
def crosses : List Char := ['x', 'X', '×']

/-- Two numerals around a separator. -/
def SizeText (text : List Char) (size : CanvasSize) : Prop :=
  ∃ inner before cross after, Spaced inner text ∧ inner = before ++ cross :: after ∧
    cross ∈ crosses ∧ SpacedNumeral before size.width ∧ SpacedNumeral after size.height

/-- Both sides are positive and fit 32 bits. -/
structure CanvasSize.Proper (size : CanvasSize) : Prop where
  width : 1 ≤ size.width ∧ size.width < word32Bound
  height : 1 ≤ size.height ∧ size.height < word32Bound

theorem CanvasSize.isEmpty_eq_false {size : CanvasSize} :
    size.isEmpty = false ↔ 1 ≤ size.width ∧ 1 ≤ size.height := by
  simp only [isEmpty, Bool.or_eq_false_iff, beq_eq_false_iff_ne, Nat.one_le_iff_ne_zero]

theorem isCross_iff {c : Char} : isCross c = true ↔ c ∈ crosses := by
  simp [isCross, crosses, or_assoc]

theorem crosses_apart : ∀ cross ∈ crosses,
    isBlank cross = false ∧ cross.isDigit = false ∧ cross ≠ '+' := by
  intro cross hcross
  simp only [crosses, List.mem_cons, List.not_mem_nil, or_false] at hcross
  obtain rfl | rfl | rfl := hcross <;> decide

theorem Text.SpacedNumeral.no_cross {text : List Char} {value : Nat}
    (h : SpacedNumeral text value) :
    ∀ c ∈ text, isCross c = false := by
  intro c hc
  rw [← Bool.not_eq_true, isCross_iff]
  intro hcross
  obtain ⟨hblank, hdigit, hplus⟩ := crosses_apart c hcross
  exact h.absent hblank hdigit hplus hc

/-! ### Reading a size -/

theorem sizeText_iff {text : List Char} {size : CanvasSize} : SizeText text size ↔
    ∃ before after, cutAt? isCross (trim text) = some (before, after) ∧
      SpacedNumeral before size.width ∧ SpacedNumeral after size.height := by
  constructor
  · rintro ⟨_, before, cross, after, hspaced, rfl, hcross, hwidth, hheight⟩
    have htrim : trim text = trimStart before ++ cross :: trimEnd after := by
      rw [hspaced.trim, trim_cut (crosses_apart cross hcross).1]
    have hleft : SpacedNumeral (trimStart before) size.width := by
      rw [spacedNumeral_iff, trim_trimStart]
      exact spacedNumeral_iff.1 hwidth
    have hright : SpacedNumeral (trimEnd after) size.height := by
      rw [spacedNumeral_iff, trim_trimEnd]
      exact spacedNumeral_iff.1 hheight
    refine ⟨trimStart before, trimEnd after, ?_, hleft, hright⟩
    rw [htrim, cutAt?_append hleft.no_cross (isCross_iff.2 hcross)]
  · rintro ⟨before, after, hcut, hwidth, hheight⟩
    obtain ⟨cross, hcross, htrim, _⟩ := cutAt?_eq_some hcut
    exact ⟨trim text, before, cross, after, spaced_trim text, htrim, isCross_iff.1 hcross,
      hwidth, hheight⟩

theorem SizeText.unique {text : List Char} {first second : CanvasSize}
    (hfirst : SizeText text first) (hsecond : SizeText text second) : first = second := by
  obtain ⟨before, after, hcut, hwidth, hheight⟩ := sizeText_iff.1 hfirst
  obtain ⟨_, _, hagain, hwidth', hheight'⟩ := sizeText_iff.1 hsecond
  obtain ⟨rfl, rfl⟩ := Prod.mk.inj (Option.some.inj (hcut.symm.trans hagain))
  obtain ⟨width, height⟩ := first
  obtain rfl : width = second.width := hwidth.unique hwidth'
  obtain rfl : height = second.height := hheight.unique hheight'
  rfl

theorem sideOf_eq_ok {text : List Char} {value : Nat} {fault : String → SizeFault} :
    sideOf fault text = .ok value ↔ SpacedNumeral text value ∧ value < word32Bound := by
  rw [spacedNumeral_iff, ← unsigned?_eq_some, ← word32?, sideOf]
  cases word32? (trim text) <;> simp

theorem parseSize_cut {text : String} {before after : List Char} {size : CanvasSize}
    (h : cutAt? isCross (trim text.toList) = some (before, after)) :
    parseSize text = .ok size ↔ sideOf .invalidWidth before = .ok size.width ∧
      sideOf .invalidHeight after = .ok size.height ∧ size.isEmpty = false := by
  simp only [parseSize, h]
  cases sideOf .invalidWidth before with
  | error => exact ⟨nofun, nofun⟩
  | ok width =>
    cases sideOf .invalidHeight after with
    | error => exact ⟨nofun, nofun⟩
    | ok height =>
      change (if (CanvasSize.mk width height).isEmpty = true then Except.error SizeFault.empty
        else Except.ok ⟨width, height⟩) = Except.ok size ↔ _
      constructor
      · intro hread
        split at hread
        · cases hread
        · rename_i harea
          obtain rfl := Except.ok.inj hread
          exact ⟨rfl, rfl, Bool.eq_false_iff.2 harea⟩
      · rintro ⟨hwidth, hheight, harea⟩
        obtain rfl := Except.ok.inj hwidth
        obtain rfl := Except.ok.inj hheight
        exact if_neg (Bool.eq_false_iff.1 harea)

theorem parseSize_eq_ok {text : String} {size : CanvasSize} :
    parseSize text = .ok size ↔ SizeText text.toList size ∧ size.Proper := by
  rw [sizeText_iff]
  constructor
  · intro h
    cases hcut : cutAt? isCross (trim text.toList) with
    | none =>
      simp only [parseSize, hcut] at h
      cases h
    | some parts =>
      obtain ⟨before, after⟩ := parts
      obtain ⟨hwidth, hheight, harea⟩ := (parseSize_cut hcut).1 h
      obtain ⟨hwidth, hfits⟩ := sideOf_eq_ok.1 hwidth
      obtain ⟨hheight, hfits'⟩ := sideOf_eq_ok.1 hheight
      obtain ⟨hpos, hpos'⟩ := CanvasSize.isEmpty_eq_false.1 harea
      exact ⟨⟨before, after, rfl, hwidth, hheight⟩, ⟨hpos, hfits⟩, ⟨hpos', hfits'⟩⟩
  · rintro ⟨⟨before, after, hcut, hwidth, hheight⟩, hproper⟩
    refine (parseSize_cut hcut).2 ⟨?_, ?_, ?_⟩
    · exact sideOf_eq_ok.2 ⟨hwidth, hproper.width.2⟩
    · exact sideOf_eq_ok.2 ⟨hheight, hproper.height.2⟩
    · exact CanvasSize.isEmpty_eq_false.2 ⟨hproper.width.1, hproper.height.1⟩

/-! ### Writing and refusing a size -/

theorem sizeText_printed (size : CanvasSize) {cross : Char} (h : cross ∈ crosses) :
    SizeText (s!"{size.width}{cross}{size.height}").toList size := by
  have hcross : (toString cross).toList = [cross] :=
    String.toList_singleton cross
  refine ⟨_, decimal size.width, cross, decimal size.height, .refl _, ?_, h,
    spacedNumeral_decimal _, spacedNumeral_decimal _⟩
  simp only [String.toList_append, toList_toString, hcross, List.append_assoc,
    List.singleton_append]

theorem blank_no_cross {text : List Char} (h : ∀ c ∈ text, isBlank c = true) :
    ∀ c ∈ text, isCross c = false := by
  intro c hc
  rw [← Bool.not_eq_true, isCross_iff]
  intro hcross
  exact Bool.eq_false_iff.1 (crosses_apart c hcross).1 (h c hc)

theorem SizeText.countP_cross {text : List Char} {size : CanvasSize} (h : SizeText text size) :
    text.countP isCross = 1 := by
  obtain ⟨_, before, cross, after, ⟨lead, trail, hlead, htrail, rfl⟩, rfl, hcross, hwidth,
    hheight⟩ := h
  have hnone {part : List Char} (hpart : ∀ c ∈ part, isCross c = false) :
      part.countP isCross = 0 :=
    List.countP_eq_zero.2 fun c hc => Bool.eq_false_iff.1 (hpart c hc)
  simp only [List.countP_append, List.countP_cons, isCross_iff.2 hcross,
    hnone hwidth.no_cross, hnone hheight.no_cross, hnone (blank_no_cross hlead),
    hnone (blank_no_cross htrail), if_true, Nat.zero_add, Nat.add_zero]

theorem SizeText.no_minus {text : List Char} {size : CanvasSize} (h : SizeText text size) :
    '-' ∉ text := by
  obtain ⟨_, before, cross, after, ⟨lead, trail, hlead, htrail, rfl⟩, rfl, hcross, hwidth,
    hheight⟩ := h
  have hgap {gap : List Char} (hgap : ∀ c ∈ gap, isBlank c = true) : '-' ∉ gap :=
    fun hc => absurd (hgap _ hc) (by decide)
  have hsign : '-' ≠ cross := by
    rintro rfl
    exact absurd hcross (by decide)
  have hside {part : List Char} {value : Nat} (hpart : SpacedNumeral part value) : '-' ∉ part :=
    hpart.absent (by decide) (by decide) (by decide)
  simp only [List.mem_append, List.mem_cons, not_or]
  exact ⟨⟨hgap hlead, hside hwidth, hsign, hside hheight⟩, hgap htrail⟩

theorem parseSize_refuses {text : String}
    (h : ∀ size, SizeText text.toList size → ¬ size.Proper) :
    ∃ fault, parseSize text = .error fault := by
  cases hread : parseSize text with
  | error fault => exact ⟨fault, rfl⟩
  | ok size =>
    obtain ⟨hwritten, hproper⟩ := parseSize_eq_ok.1 hread
    exact absurd hproper (h size hwritten)

/-- A text parses as a size exactly if it has the form of one, with positive 32-bit sides. In
particular printing round-trips for each separator, and all other texts are rejected, such as those
with two separators, a minus sign, or a zero or overflowing side. -/
theorem parseSize_exact :
    (∀ text size, parseSize text = .ok size ↔ SizeText text.toList size ∧ size.Proper) ∧
    (∀ size : CanvasSize, size.Proper → ∀ cross ∈ crosses,
      parseSize s!"{size.width}{cross}{size.height}" = .ok size) ∧
    (∀ text : String, (∀ size, SizeText text.toList size → ¬ size.Proper) →
      ∃ fault, parseSize text = .error fault) ∧
    ∀ text : String, 2 ≤ text.toList.countP (· ∈ crosses) ∨ '-' ∈ text.toList ∨
        (∃ size, SizeText text.toList size ∧ ¬ size.Proper) →
      ∃ fault, parseSize text = .error fault := by
  refine ⟨fun _ _ => parseSize_eq_ok, fun size hproper cross hcross => ?_,
    fun _ => parseSize_refuses, fun text hodd => parseSize_refuses fun size hwritten hproper => ?_⟩
  · exact parseSize_eq_ok.2 ⟨sizeText_printed size hcross, hproper⟩
  · have hcross : (fun c => decide (c ∈ crosses)) = isCross :=
      funext fun c => Bool.eq_iff_iff.2 (decide_eq_true_iff.trans isCross_iff.symm)
    rw [hcross, hwritten.countP_cross] at hodd
    obtain htwo | hminus | ⟨other, hother, himproper⟩ := hodd
    · omega
    · exact hwritten.no_minus hminus
    · exact himproper (hother.unique hwritten ▸ hproper)

/-- Unicode blanks, plus sign, leading zeros; and rejected texts with three sides, a minus sign, or
an overflow. -/
theorem parseSize_exact_spaced :
    parseSize "\t+0640 × 480\u3000" = .ok ⟨640, 480⟩ ∧
    parseSize "1280X720" = .ok ⟨1280, 720⟩ ∧
    (∃ fault, parseSize "1x2x3" = .error fault) ∧ (∃ fault, parseSize "8x-8" = .error fault) ∧
    ∃ fault, parseSize "4294967296x1" = .error fault := by
  obtain ⟨hread, hprinted, _, hodd⟩ := parseSize_exact
  have hwidth : word32? (trim ['+', '0', '6', '4', '0', ' ']) = some 640 := by decide
  have hheight : word32? (trim [' ', '4', '8', '0']) = some 480 := by decide
  have hwritten : SizeText "\t+0640 × 480\u3000".toList ⟨640, 480⟩ :=
    sizeText_iff.2 ⟨_, _, by rfl, spacedNumeral_iff.2 (unsigned?_eq_some.1 hwidth).1,
      spacedNumeral_iff.2 (unsigned?_eq_some.1 hheight).1⟩
  have hprint : toString 1280 ++ toString 'X' ++ toString 720 = "1280X720" := by decide
  have hbeyond : toString 4294967296 ++ toString 'x' ++ toString 1 = "4294967296x1" := by decide
  have hlarge : SizeText "4294967296x1".toList ⟨4294967296, 1⟩ :=
    hbeyond ▸ sizeText_printed ⟨4294967296, 1⟩ (by decide : 'x' ∈ crosses)
  refine ⟨(hread _ _).2 ⟨hwritten, by decide, by decide⟩, ?_, ?_, ?_, ?_⟩
  · exact hprint ▸ hprinted ⟨1280, 720⟩ ⟨by decide, by decide⟩ 'X' (by decide)
  · exact hodd _ (.inl (by decide))
  · exact hodd _ (.inr (.inl (by decide)))
  · exact hodd _ (.inr (.inr ⟨_, hlarge, fun hproper => absurd hproper.width.2 (by decide)⟩))

/-! ### Assignments -/

/-- A numeral, the first equals sign of the text, and a non-empty path, surrounded by blanks. -/
def AssignmentText (text : List Char) (channel : Nat) (path : List Char) : Prop :=
  ∃ before after, text = before ++ '=' :: after ∧ '=' ∉ before ∧ SpacedNumeral before channel ∧
    Spaced path after ∧ Trimmed path ∧ path ≠ []

theorem cutAt?_equals {text before after : List Char} :
    cutAt? (· == '=') text = some (before, after) ↔
      text = before ++ '=' :: after ∧ '=' ∉ before := by
  constructor
  · intro h
    obtain ⟨c, hc, htext, hbefore⟩ := cutAt?_eq_some h
    obtain rfl := eq_of_beq hc
    exact ⟨htext, fun hmem => by simpa using hbefore '=' hmem⟩
  · rintro ⟨rfl, hbefore⟩
    refine cutAt?_append (fun c hc => ?_) (by decide) after
    exact beq_eq_false_iff_ne.2 fun heq => hbefore (heq ▸ hc)

theorem Text.SpacedNumeral.no_equals {text : List Char} {value : Nat}
    (h : SpacedNumeral text value) :
    '=' ∉ text :=
  h.absent (by decide) (by decide) (by decide)

/-! ### Reading an assignment -/

theorem channelOf_spacedNumeral {text : List Char} {channel : Nat}
    (h : SpacedNumeral text channel) :
    channelOf text =
      if channel < word64Bound then
        if channel < channelCount then .ok channel else .error (.noSuchChannel channel)
      else .error (.invalidChannel (String.ofList (trim text))) := by
  simp only [channelOf, unsigned?_numeral (spacedNumeral_iff.1 h)]
  by_cases hlt : channel < word64Bound
  · rw [if_pos hlt, if_pos hlt]
  · rw [if_neg hlt, if_neg hlt]

theorem channelOf_eq_ok {text : List Char} {channel : Nat} :
    channelOf text = .ok channel ↔ SpacedNumeral text channel ∧ channel < channelCount := by
  constructor
  · intro h
    simp only [channelOf] at h
    split at h
    · cases h
    · rename_i found hread
      split at h
      · rename_i hlt
        obtain rfl := Except.ok.inj h
        exact ⟨spacedNumeral_iff.2 (unsigned?_eq_some.1 hread).1, hlt⟩
      · cases h
  · rintro ⟨hnumeral, hlt⟩
    have hfits : channel < word64Bound := Nat.lt_trans hlt (by decide)
    rw [channelOf_spacedNumeral hnumeral, if_pos hfits, if_pos hlt]

theorem parseAssignment_cut {text : String} {before after : List Char}
    (h : cutAt? (· == '=') text.toList = some (before, after)) (channel : Nat) (path : Path) :
    parseAssignment text = .ok (channel, path) ↔ channelOf before = .ok channel ∧
      trim after = path.text.toList ∧ path.text.toList ≠ [] := by
  simp only [parseAssignment, h]
  cases channelOf before with
  | error => exact ⟨nofun, nofun⟩
  | ok found =>
    change (if (trim after).isEmpty = true then Except.error (AssignmentFault.noPath found)
      else Except.ok (found, Path.mk (String.ofList (trim after)))) = Except.ok (channel, path) ↔ _
    constructor
    · intro hread
      split at hread
      · cases hread
      · rename_i hsome
        obtain ⟨rfl, rfl⟩ := Prod.mk.inj (Except.ok.inj hread)
        rw [String.toList_ofList]
        exact ⟨rfl, rfl, mt List.isEmpty_iff.2 hsome⟩
    · rintro ⟨hfound, hpath, hsome⟩
      obtain rfl := Except.ok.inj hfound
      rw [hpath, if_neg (mt List.isEmpty_iff.1 hsome), String.ofList_toList]

theorem parseAssignment_eq_ok {text : String} {channel : Nat} {path : Path} :
    parseAssignment text = .ok (channel, path) ↔
      AssignmentText text.toList channel path.text.toList ∧ channel < channelCount := by
  constructor
  · intro h
    cases hcut : cutAt? (· == '=') text.toList with
    | none =>
      simp only [parseAssignment, hcut] at h
      cases h
    | some parts =>
      obtain ⟨before, after⟩ := parts
      obtain ⟨hchannel, hpath, hsome⟩ := (parseAssignment_cut hcut channel path).1 h
      obtain ⟨hnumeral, hlt⟩ := channelOf_eq_ok.1 hchannel
      obtain ⟨htext, hbefore⟩ := cutAt?_equals.1 hcut
      obtain ⟨htrimmed, hspaced⟩ := trim_eq_iff.1 hpath
      exact ⟨⟨before, after, htext, hbefore, hnumeral, hspaced, htrimmed, hsome⟩, hlt⟩
  · rintro ⟨⟨before, after, htext, hbefore, hnumeral, hspaced, htrimmed, hsome⟩, hlt⟩
    have hcut := cutAt?_equals.2 ⟨htext, hbefore⟩
    refine (parseAssignment_cut hcut channel path).2 ⟨?_, ?_, hsome⟩
    · exact channelOf_eq_ok.2 ⟨hnumeral, hlt⟩
    · exact trim_eq_iff.2 ⟨htrimmed, hspaced⟩

/-! ### Writing and refusing an assignment -/

theorem assignmentText_printed (channel : Nat) {path : Path} (hsome : path.text.toList ≠ [])
    (htrimmed : Trimmed path.text.toList) :
    AssignmentText (s!"{channel}={path.text}").toList channel path.text.toList := by
  refine ⟨decimal channel, path.text.toList, ?_, (spacedNumeral_decimal channel).no_equals,
    spacedNumeral_decimal channel, .refl _, htrimmed, hsome⟩
  change (toString channel ++ "=" ++ path.text).toList = _
  rw [String.toList_append, String.toList_append, toList_toString, List.append_assoc]
  rfl

theorem parseAssignment_fault {text : String} {before after : List Char} {channel : Nat}
    (htext : text.toList = before ++ '=' :: after) (hnumeral : SpacedNumeral before channel)
    (hout : channelCount ≤ channel) : parseAssignment text =
      .error (if channel < word64Bound then .noSuchChannel channel
        else .invalidChannel (String.ofList (trim before))) := by
  have hcut := cutAt?_equals.2 ⟨htext, hnumeral.no_equals⟩
  simp only [parseAssignment, hcut, channelOf_spacedNumeral hnumeral, if_neg (Nat.not_lt.2 hout)]
  split <;> rfl

/-- A text parses as an assignment exactly if it has the form of one for an existing channel. In
particular printing round-trips for paths with inner equals signs and blanks, and every other index
is rejected, also beyond 64 bits. -/
theorem parseAssignment_exact :
    (∀ text channel path, parseAssignment text = .ok (channel, path) ↔
      AssignmentText text.toList channel path.text.toList ∧ channel < channelCount) ∧
    (∀ channel path, channel < channelCount → path.text.toList ≠ [] →
      Trimmed path.text.toList → parseAssignment s!"{channel}={path.text}" = .ok (channel, path)) ∧
    (∀ text : String, (∀ channel path, AssignmentText text.toList channel path →
      channelCount ≤ channel) → ∃ fault, parseAssignment text = .error fault) ∧
    ∀ text before after channel, text.toList = before ++ '=' :: after →
      SpacedNumeral before channel → channelCount ≤ channel → parseAssignment text =
        .error (if channel < word64Bound then .noSuchChannel channel
          else .invalidChannel (String.ofList (trim before))) := by
  refine ⟨fun _ _ _ => parseAssignment_eq_ok, fun channel path hlt hsome htrimmed => ?_,
    fun text hout => ?_, fun _ _ _ _ => parseAssignment_fault⟩
  · exact parseAssignment_eq_ok.2 ⟨assignmentText_printed channel hsome htrimmed, hlt⟩
  · cases hread : parseAssignment text with
    | error fault => exact ⟨fault, rfl⟩
    | ok entry =>
      obtain ⟨hwritten, hlt⟩ := parseAssignment_eq_ok.1 hread
      exact absurd hlt (Nat.not_lt.2 (hout _ _ hwritten))

/-- A path with blanks and an equals sign, and an index of twenty digits. -/
theorem parseAssignment_exact_equals :
    parseAssignment " +02 = a =b.png\n" = .ok (2, ⟨"a =b.png"⟩) ∧
    parseAssignment "3=a=b c" = .ok (3, ⟨"a=b c"⟩) ∧
    (∃ fault, parseAssignment "2" = .error fault) ∧
    parseAssignment "4=a" = .error (.noSuchChannel 4) ∧
    parseAssignment "18446744073709551616=a" =
      .error (.invalidChannel "18446744073709551616") := by
  obtain ⟨hread, hprinted, hodd, hout⟩ := parseAssignment_exact
  have hnumber : unsigned? word64Bound (trim " +02 ".toList) = some 2 := by decide
  have hpath : trim " a =b.png\n".toList = "a =b.png".toList := by decide
  have hprint : toString 3 ++ "=" ++ "a=b c" = "3=a=b c" := by decide
  have hwithin : trim "a=b c".toList = "a=b c".toList := by decide
  have hwritten : AssignmentText " +02 = a =b.png\n".toList 2 "a =b.png".toList := by
    obtain ⟨htrimmed, hspaced⟩ := trim_eq_iff.1 hpath
    exact ⟨" +02 ".toList, " a =b.png\n".toList, by decide, by decide,
      spacedNumeral_iff.2 (unsigned?_eq_some.1 hnumber).1, hspaced, htrimmed, by decide⟩
  refine ⟨(hread _ _ _).2 ⟨hwritten, by decide⟩, ?_, ?_, ?_, ?_⟩
  · exact hprint ▸ hprinted 3 ⟨"a=b c"⟩ (by decide) (by decide) (trim_eq_iff.1 hwithin).1
  · refine hodd _ fun channel path hassigned => ?_
    obtain ⟨before, after, htext, _⟩ := hassigned
    have hequals : '=' ∈ "2".toList := htext ▸ List.mem_append_right _ List.mem_cons_self
    exact absurd hequals (by decide)
  · exact hout _ ['4'] ['a'] 4 (by decide) (spacedNumeral_decimal 4) (by decide)
  · have hlarge : SpacedNumeral "18446744073709551616".toList 18446744073709551616 :=
      spacedNumeral_decimal 18446744073709551616
    exact hout _ _ ['a'] _ (by decide) hlarge (by decide)

end ShaderPreview
