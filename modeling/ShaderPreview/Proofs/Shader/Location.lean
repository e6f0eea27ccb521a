import ShaderPreview.Proofs.Shader.Classification
import ShaderPreview.Proofs.Text.Place

/-!
# Locations below the header

The header consists of complete lines. Subtracting its lines and its bytes from a location in the
composed source gives the location of the same bytes in the user's source.
-/

namespace ShaderPreview

open Text

/-- Source with the full header, the minimal header, or none. -/
def ComposedSource.of (source : String) : Option Bool → ComposedSource
  | none => .plain source
  | some textured => compose source textured

/-- The text in front of the source consists of complete lines, and their number is recorded. -/
structure ComposedSource.Extends (composed : ComposedSource) (source : String)
    (above : List UInt8) : Prop where
  bytes : Text.bytes composed.text = above ++ Text.bytes source
  headerBytes : composed.headerBytes = above.length
  headerLines : composed.headerLines = above.count newline
  whole : above = [] ∨ ∃ lines, above = lines ++ [newline]

theorem extends_plain (source : String) : (ComposedSource.plain source).Extends source [] :=
  ⟨rfl, rfl, rfl, .inl rfl⟩

theorem extends_compose (source : String) (textured : Bool) :
    (compose source textured).Extends source (bytes (header textured) ++ [newline]) where
  bytes := by
    have hend : bytes "\n" = [newline] := by decide
    rw [compose, bytes_append, bytes_append, hend]
  headerBytes := by rw [compose, List.length_append, length_bytes, List.length_singleton]
  headerLines := by
    rw [compose, List.count_append, count_newline, List.count_singleton_self]
  whole := .inr ⟨_, rfl⟩

theorem ComposedSource.extends_of (source : String) (preface : Option Bool) :
    ∃ above, (ComposedSource.of source preface).Extends source above := by
  cases preface with
  | none => exact ⟨_, extends_plain source⟩
  | some textured => exact ⟨_, extends_compose source textured⟩

namespace ComposedSource.Extends

variable {composed : ComposedSource} {source : String} {above : List UInt8} {offset : Nat}

theorem lineAt_below (h : composed.Extends source above) (hoffset : composed.headerBytes ≤ offset) :
    lineAt (Text.bytes composed.text) offset =
      composed.headerLines + lineAt (Text.bytes source) (offset - composed.headerBytes) := by
  have hsplit : offset = above.length + (offset - composed.headerBytes) := by
    rw [← h.headerBytes]
    omega
  rw [h.bytes, h.headerLines, ← lineAt_append, ← hsplit]

theorem columnAt_below (h : composed.Extends source above)
    (hoffset : composed.headerBytes ≤ offset) :
    columnAt (Text.bytes composed.text) offset =
      columnAt (Text.bytes source) (offset - composed.headerBytes) := by
  have hsplit : offset = above.length + (offset - composed.headerBytes) := by
    rw [← h.headerBytes]
    omega
  rw [h.bytes, h.headerBytes] at *
  rcases h.whole with rfl | ⟨lines, rfl⟩
  · rfl
  · rw [hsplit, ← List.append_cons, List.length_append, List.length_singleton, columnAt_append]
    congr 1
    omega

theorem lineAt_above (h : composed.Extends source above) (hoffset : offset < composed.headerBytes) :
    lineAt (Text.bytes composed.text) offset ≤ composed.headerLines := by
  rw [h.headerBytes] at hoffset
  rw [h.bytes, h.headerLines]
  rcases h.whole with rfl | ⟨lines, rfl⟩
  · exact absurd hoffset (Nat.not_lt_zero _)
  · rw [List.length_append, List.length_singleton] at hoffset
    rw [← List.append_cons]
    exact lineAt_within lines _ (Nat.le_of_lt_succ hoffset)

theorem take_below (h : composed.Extends source above) (hoffset : composed.headerBytes ≤ offset)
    (count : Nat) : ((Text.bytes composed.text).drop offset).take count =
      ((Text.bytes source).drop (offset - composed.headerBytes)).take count := by
  rw [h.bytes, List.drop_append, ← h.headerBytes, List.drop_eq_nil_of_le, List.nil_append]
  rw [← h.headerBytes]
  exact hoffset

end ComposedSource.Extends

/-- The record has the location of the span in the text. -/
structure Diagnostic.Marks (record : Diagnostic) (text : List UInt8) (span : Span) : Prop where
  line : record.line = lineAt text span.first
  column : record.column = some (columnAt text span.first)
  offset : record.offset = span.first
  length : record.length = span.last - span.first

theorem userLine_below {line headerLines : Nat} (h : 1 ≤ line) :
    userLine (headerLines + line) headerLines = line := by
  rw [userLine, Nat.add_sub_cancel_left, Nat.max_eq_right h]

/-- A span after the header is mapped to the same bytes of the user's source, with their line and
column, and a classification reports the same line. A span that begins in the header is mapped to
the beginning of the source. -/
theorem locate_exact (source message : String) (preface : Option Bool) (span : Span) :
    let composed := ComposedSource.of source preface
    let place := Place.ofSpan (bytes composed.text) span
    let record := composed.locate message (some place)
    (composed.headerBytes ≤ span.first →
      record.Marks (bytes source)
        ⟨span.first - composed.headerBytes, span.last - composed.headerBytes⟩ ∧
      ((bytes source).drop record.offset).take record.length =
        ((bytes composed.text).drop span.first).take (span.last - span.first) ∧
      1 ≤ record.line ∧ record.line ≤ source.toList.count '\n' + 1) ∧
    (span.first < composed.headerBytes → record.line = 1 ∧ record.offset = 0) ∧
    ∀ frontEnd : FrontEnd, preface = some (needsTextures source) →
      frontEnd.parse composed.text = .error ⟨message, some place⟩ →
      (frontEnd.classify source).diagnostic = some s!"{message}. Line:{record.line}" := by
  intro composed place record
  obtain ⟨above, h⟩ : ∃ above, composed.Extends source above :=
    ComposedSource.extends_of source preface
  have hrecord : record.line = userLine (lineAt (bytes composed.text) span.first)
      composed.headerLines := Nat.max_eq_left (one_le_userLine _ _)
  refine ⟨fun hbehind => ?_, fun hwithin => ⟨?_, ?_⟩, fun frontEnd hpreface herror => ?_⟩
  · have hpositive : 1 ≤ lineAt (bytes source) (span.first - composed.headerBytes) :=
      Nat.le_add_left 1 _
    have hline : record.line = lineAt (bytes source) (span.first - composed.headerBytes) := by
      rw [hrecord, h.lineAt_below hbehind, userLine_below hpositive]
    have hlength : record.length =
        (span.last - composed.headerBytes) - (span.first - composed.headerBytes) := by
      show span.last - span.first = _
      omega
    refine ⟨⟨hline, congrArg some (h.columnAt_below hbehind), rfl, hlength⟩, ?_, ?_, ?_⟩
    · exact (h.take_below hbehind _).symm
    · rw [hline]
      exact hpositive
    · rw [hline, ← count_newline]
      exact lineAt_le _ _
  · have hheader := h.lineAt_above hwithin
    rw [hrecord, userLine]
    omega
  · exact Nat.sub_eq_zero_of_le (Nat.le_of_lt hwithin)
  · subst hpreface
    rw [classify_of_error herror, hrecord]
    rfl

/-- A name on line 2 after a two-byte character, and a span in the header. -/
theorem locate_exact_indented :
    let source := "é\n  iChannel0"
    let composed := compose source true
    let place := Place.ofSpan (bytes composed.text)
      ⟨composed.headerBytes + 5, composed.headerBytes + 14⟩
    let above := Place.ofSpan (bytes composed.text) ⟨composed.headerBytes - 1, composed.headerBytes⟩
    let record := composed.locate "unused" (some place)
    let frontEnd : FrontEnd := ⟨Unit, fun _ => .error ⟨"unused", some place⟩, fun _ => [],
      fun _ => none⟩
    (record.line = 2 ∧ record.column = some 3 ∧ record.offset = 5 ∧ record.length = 9) ∧
    (composed.locate "unused" (some above)).line = 1 ∧
    (frontEnd.classify source).diagnostic = some "unused. Line:2" := by
  intro source composed place above record frontEnd
  obtain ⟨hbehind, _, hclassify⟩ := locate_exact source "unused" (some true)
    ⟨composed.headerBytes + 5, composed.headerBytes + 14⟩
  obtain ⟨hmarks, _⟩ := hbehind (Nat.le_add_right _ _)
  have hline : record.line = 2 := hmarks.line.trans (by decide +kernel)
  have hcolumn : record.column = some 3 := hmarks.column.trans (by decide +kernel)
  have hmessage := hclassify frontEnd (by decide +kernel) rfl
  obtain ⟨_, hwithin, _⟩ := locate_exact source "unused" (some true)
    ⟨composed.headerBytes - 1, composed.headerBytes⟩
  have hoffset : record.offset = 5 := hmarks.offset.trans (Nat.add_sub_cancel_left _ _)
  have hlength : record.length = 9 := hmarks.length.trans (by decide +kernel)
  refine ⟨⟨hline, hcolumn, hoffset, hlength⟩, (hwithin (by decide +kernel)).1, ?_⟩
  rw [hmessage]
  exact congrArg (fun line => some s!"unused. Line:{line}") hline

end ShaderPreview
