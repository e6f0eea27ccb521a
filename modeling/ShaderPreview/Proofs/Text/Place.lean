import ShaderPreview.Text.Place

/-!
# Locations after other text

Line ends can be counted in characters or in bytes, since the encoding of no other character
contains a line feed. After a prefix that ends with a line end, lines are shifted and columns are
unchanged.
-/

namespace ShaderPreview.Text

/-! ### Line ends -/

theorem bytes_append (first second : String) :
    bytes (first ++ second) = bytes first ++ bytes second := by
  simp only [bytes, String.toByteArray_append, ByteArray.toList_data_append]

theorem length_bytes (text : String) : (bytes text).length = text.utf8ByteSize := by
  simp only [bytes, Array.length_toList, ByteArray.size_data, String.size_toByteArray]

theorem bytes_ofList_cons (c : Char) (rest : List Char) :
    bytes (String.ofList (c :: rest)) = String.utf8EncodeChar c ++ bytes (String.ofList rest) := by
  simp [bytes, List.utf8Encode]

theorem eq_newline_iff (c : Char) : c = '\n' ↔ c.val.toNat = 10 := by
  rw [Char.ext_iff, ← UInt32.toNat_inj]
  rfl

theorem count_encoded (c : Char) :
    (String.utf8EncodeChar c).count newline = [c].count '\n' := by
  have hbyte (n : Nat) (hn : n < 256) : UInt8.ofNat n = newline ↔ n = 10 := by
    rw [← UInt8.toNat_inj, UInt8.toNat_ofNat_of_lt' hn]
    rfl
  unfold String.utf8EncodeChar
  simp only
  split
  · have hsame : UInt8.ofNat c.val.toNat = newline ↔ c = '\n' := by
      rw [hbyte _ (by omega), eq_newline_iff]
    simp only [List.count_singleton, beq_iff_eq, hsame]
  · -- every byte of a longer encoding is at least 128
    have hne : c ≠ '\n' := by
      rw [ne_eq, eq_newline_iff]
      omega
    have hnone : [c].count '\n' = 0 := by simp [hne]
    rw [hnone, List.count_eq_zero]
    split
    · simp only [List.mem_cons, List.not_mem_nil, or_false, eq_comm (a := newline)]
      rw [hbyte _ (by omega), hbyte _ (by omega)]
      omega
    split
    · simp only [List.mem_cons, List.not_mem_nil, or_false, eq_comm (a := newline)]
      rw [hbyte _ (by omega), hbyte _ (by omega), hbyte _ (by omega)]
      omega
    · simp only [List.mem_cons, List.not_mem_nil, or_false, eq_comm (a := newline)]
      rw [hbyte _ (by omega), hbyte _ (by omega), hbyte _ (by omega), hbyte _ (by omega)]
      omega

theorem count_newline (text : String) : (bytes text).count newline = text.toList.count '\n' := by
  rw [← String.ofList_toList (s := text)]
  generalize text.toList = characters
  rw [String.toList_ofList]
  induction characters with
  | nil => rfl
  | cons c rest ih =>
    rw [bytes_ofList_cons, List.count_append, ih, count_encoded, ← List.count_append]
    rfl

/-! ### Lines and columns -/

theorem lineAt_le (text : List UInt8) (offset : Nat) :
    lineAt text offset ≤ text.count newline + 1 :=
  Nat.succ_le_succ ((List.take_sublist offset text).count_le newline)

theorem lineAt_within (above text : List UInt8) {offset : Nat} (h : offset ≤ above.length) :
    lineAt (above ++ newline :: text) offset ≤ (above ++ [newline]).count newline := by
  have htake : (above ++ newline :: text).take offset = above.take offset :=
    List.take_append_of_le_length h
  have hcount : (above.take offset).count newline ≤ above.count newline :=
    (List.take_sublist offset above).count_le newline
  simp only [lineAt, htake, List.count_append, List.count_singleton_self]
  omega

theorem columnAt_append (above text : List UInt8) (offset : Nat) :
    columnAt (above ++ newline :: text) (above.length + 1 + offset) = columnAt text offset := by
  have htake : (above ++ newline :: text).take (above.length + 1 + offset) =
      (above ++ [newline]) ++ text.take offset := by
    rw [List.append_cons, List.take_append, List.take_of_length_le] <;> simp
  have hstop (part : List UInt8) : ((above ++ [newline] ++ part).reverse.takeWhile
      (· ≠ newline)) = part.reverse.takeWhile (· ≠ newline) := by
    rw [List.reverse_append, List.reverse_append, List.takeWhile_append]
    split
    · rename_i hall
      have hwhole := (List.takeWhile_prefix (l := part.reverse) (· ≠ newline)).eq_of_length hall
      rw [hwhole]
      simp
    · rfl
  simp only [columnAt, htake, hstop]

end ShaderPreview.Text
