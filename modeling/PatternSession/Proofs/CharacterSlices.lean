import PatternSession.Proofs.Positions

/-!
# Slices by characters

Texts are cut at character positions by way of their bytes. Each cut looks for itself whether the
text at hand is ASCII: of a text with a wide character in front, the start is found in the table of
positions, and the length, in the ASCII rest, by the shortcut.

**Theorem (`slices_cut_between_characters`).** For every text and all positions, also past the end:
the byte position of a character is the length in UTF-8 of what precedes it, whichever way it is
found; both cuts of a slice fall between characters of the text, and what is cut out are the
characters asked for; and the slices before, between and after two positions are the whole text
again.

The positions that a slice is cut at are those of its first character and of the first one after
it, and there a text can be cut (`Positions`). No position is beyond the end of the text, so none is
larger than the text is long.
-/

namespace PatternSession

/-- The bytes counted are those of the UTF-8 form. -/
theorem byteLength_eq_utf8ByteSize (cs : List Char) :
    byteLength cs = (String.ofList cs).utf8ByteSize := by
  induction cs with
  | nil => rfl
  | cons c cs ih =>
    rw [byteLength_cons, String.ofList_cons, String.utf8ByteSize_append,
      String.utf8ByteSize_singleton, ih]

/-! ## Byte positions -/

/-- How the byte position of a character is found: by the table of positions, which is right for
every text, and by the shortcut, which is right for those that take it. -/
structure FindsOffset (cs : List Char) (index : Nat) : Prop where
  offset_eq : byteOffset cs index = (String.ofList (cs.take (min index cs.length))).utf8ByteSize
  table_eq : (charStarts 0 cs)[index]?.getD (byteLength cs) = byteOffset cs index
  shortcut_eq : isAscii cs = true → min index (byteLength cs) = byteOffset cs index

theorem findsOffset (cs : List Char) (index : Nat) : FindsOffset cs index where
  offset_eq := by
    rw [byteOffset_eq, ← byteLength_eq_utf8ByteSize, ← bytePosition_min_length]
    rfl
  table_eq := by rw [charStarts_getD, byteOffset_eq]
  shortcut_eq h := by rw [byteOffset, if_pos h]

/-! ## Slices -/

/-- How a slice is cut: at the position of its first character and, in the rest from there on, at
the position after its last one. Both cuts succeed, inside the text. -/
structure CutsSlice (cs : List Char) (start len : Nat) : Prop where
  rest_eq : dropBytes? cs (byteOffset cs start) = some (cs.drop start)
  stop_le : byteOffset cs start + byteOffset (cs.drop start) len ≤ byteLength cs
  slice_eq : sliceBytes? cs (byteOffset cs start)
    (byteOffset cs start + byteOffset (cs.drop start) len) = some (sliceChars cs start len)
  chars_eq : sliceChars cs start len = (cs.drop start).take len

/-- A slice ends at the position of the first character after it. -/
theorem byteOffset_add (cs : List Char) (start len : Nat) :
    byteOffset cs start + byteOffset (cs.drop start) len = bytePosition cs (start + len) := by
  rw [byteOffset_eq, byteOffset_eq, bytePosition_add]

theorem cutsSlice (cs : List Char) (start len : Nat) : CutsSlice cs start len where
  rest_eq := by rw [byteOffset_eq, dropBytes?_bytePosition]
  stop_le := by
    rw [byteOffset_add]
    exact bytePosition_le_byteLength cs (start + len)
  slice_eq := by
    rw [byteOffset_add, byteOffset_eq, sliceBytes?_bytePosition cs (Nat.le_add_right start len),
      Nat.add_sub_cancel_left, sliceChars_eq]
  chars_eq := sliceChars_eq cs start len

theorem sliceChars_past {cs : List Char} {start : Nat} (h : cs.length ≤ start) (len : Nat) :
    sliceChars cs start len = [] := by
  rw [sliceChars_eq, List.drop_eq_nil_iff.2 h, List.take_nil]

/-- The slices before, between and after two positions are the text. -/
theorem sliceChars_append (cs : List Char) {a b : Nat} (h : a ≤ b) :
    sliceChars cs 0 a ++ sliceChars cs a (b - a) ++ cs.drop b = cs := by
  have hrest : cs.drop b = (cs.drop a).drop (b - a) := by
    rw [List.drop_drop, Nat.add_sub_cancel' h]
  rw [sliceChars_eq, sliceChars_eq, List.drop_zero, hrest, List.append_assoc,
    List.take_append_drop, List.take_append_drop]

/-- **Slices are cut between characters.** -/
theorem slices_cut_between_characters (cs : List Char) :
    (∀ index, FindsOffset cs index) ∧
    (∀ start len, CutsSlice cs start len) ∧
    (∀ start len, cs.length ≤ start → sliceChars cs start len = []) ∧
    ∀ a b, a ≤ b → b ≤ cs.length → ∃ rest, dropBytes? cs (byteOffset cs b) = some rest ∧
      sliceChars cs 0 a ++ sliceChars cs a (b - a) ++ rest = cs := by
  refine ⟨findsOffset cs, cutsSlice cs, ?_, ?_⟩
  · intro start len hpast
    exact sliceChars_past hpast len
  · intro a b hab _
    exact ⟨cs.drop b, (cutsSlice cs b 0).rest_eq, sliceChars_append cs hab⟩

/-- In `éab` the start is found in the table and the length by the shortcut. A slice past the end is
empty, and the three slices around `a` are the text. -/
theorem slices_cut_between_characters_of_mixed_text :
    isAscii "éab".toList = false ∧ isAscii ("éab".toList.drop 1) = true ∧
      byteOffset "éab".toList 1 = 2 ∧ sliceChars "éab".toList 1 18446744073709551615 = ['a', 'b'] ∧
      sliceChars "éab".toList 7 2 = [] ∧
      ∃ rest, dropBytes? "éab".toList (byteOffset "éab".toList 2) = some rest ∧
        sliceChars "éab".toList 0 1 ++ sliceChars "éab".toList 1 (2 - 1) ++ rest =
          "éab".toList := by
  obtain ⟨hoffset, hslice, hpast, happend⟩ := slices_cut_between_characters "éab".toList
  refine ⟨by decide, by decide, ?_, ?_, ?_, ?_⟩
  · rw [(hoffset 1).offset_eq]
    decide
  · rw [(hslice 1 18446744073709551615).chars_eq]
    rfl
  · exact hpast 7 2 (by decide)
  · exact happend 1 2 (by decide) (by decide)

end PatternSession
