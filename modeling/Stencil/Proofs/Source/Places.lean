import Mathlib
import Stencil.Text.Location

/-!
# Places by counting

A location is moved from character to character. What it holds can be counted in the text that it
has passed: the bytes, the line breaks, and the bytes since the last line break
(`Location.start_after`). The offset is therefore always a border between two characters
(`Location.isValid_offset`), and from such an offset the text can be read on (`Text.dropBytes`).
-/

namespace Stencil

namespace Text

theorem dropBytes_append (cs ds : List Char) :
    dropBytes (String.utf8Len cs) (cs ++ ds) = some ds := by
  induction cs with
  | nil => simp [dropBytes]
  | cons c cs ih =>
      obtain ⟨n, size⟩ := Nat.exists_eq_add_one.2 c.utf8Size_pos
      rw [String.utf8Len_cons, size, ← Nat.add_assoc, List.cons_append, dropBytes, size]
      simpa [Nat.add_assoc] using ih

end Text

namespace Location

/-- The location behind a text, from the text alone. -/
theorem start_after (passed : List Char) :
    start.after passed = ⟨String.utf8Len passed, 1 + passed.count '\n',
      1 + String.utf8Len (passed.rtakeWhile (· != '\n'))⟩ := by
  induction passed using List.reverseRecOn with
  | nil => rfl
  | append_singleton passed c ih =>
      rw [after_append, ih, after_cons, after_nil, advance]
      by_cases isBreak : c = '\n'
      · subst isBreak
        rw [if_pos rfl, List.rtakeWhile_concat_neg _ _ _ (by simp)]
        simp [Nat.add_comm]
      · rw [if_neg isBreak, List.rtakeWhile_concat_pos _ _ _ (by simp [isBreak])]
        simp [isBreak, Nat.add_assoc]

/-- Bytes are counted on from any place. -/
theorem offset_after (l : Location) (passed : List Char) :
    (l.after passed).offset = l.offset + String.utf8Len passed := by
  induction passed generalizing l with
  | nil => rfl
  | cons c passed ih =>
      rw [after_cons, ih, advance]
      split <;> simp [Nat.add_assoc, Nat.add_comm]

/-- Lines are counted on from any place. -/
theorem line_after (l : Location) (passed : List Char) :
    (l.after passed).line = l.line + passed.count '\n' := by
  induction passed generalizing l with
  | nil => rfl
  | cons c passed ih =>
      rw [after_cons, ih, advance]
      by_cases isBreak : c = '\n'
      · subst isBreak
        simp [Nat.add_right_comm, Nat.add_assoc]
      · simp [isBreak]

/-- Within a line only bytes are counted. -/
theorem after_of_notMem (l : Location) {passed : List Char} (free : '\n' ∉ passed) :
    l.after passed = ⟨l.offset + String.utf8Len passed, l.line,
      l.column + String.utf8Len passed⟩ := by
  induction passed generalizing l with
  | nil => rfl
  | cons c passed ih =>
      rw [List.mem_cons, not_or] at free
      rw [after_cons, ih _ free.2, advance, if_neg (Ne.symm free.1)]
      simp [Nat.add_assoc, Nat.add_comm]

/-- Columns are counted on from any place up to the next break. -/
theorem column_after_of_notMem (l : Location) {passed : List Char} (free : '\n' ∉ passed) :
    (l.after passed).column = l.column + String.utf8Len passed := by
  rw [after_of_notMem l free]

theorem column_after_congr {l l' : Location} (same : l.column = l'.column) (passed : List Char) :
    (l.after passed).column = (l'.after passed).column := by
  induction passed generalizing l l' with
  | nil => exact same
  | cons c passed ih =>
      refine ih ?_
      rw [advance, advance]
      split
      · rfl
      · exact congrArg (· + c.utf8Size) same

/-- Behind a break the column does not depend on where the text starts. -/
theorem column_after_of_mem (l l' : Location) {passed : List Char} (broken : '\n' ∈ passed) :
    (l.after passed).column = (l'.after passed).column := by
  induction passed generalizing l l' with
  | nil => cases broken
  | cons c passed ih =>
      rw [after_cons, after_cons]
      by_cases isBreak : c = '\n'
      · refine column_after_congr ?_ passed
        rw [advance, advance, if_pos isBreak, if_pos isBreak]
      · exact ih _ _ ((List.mem_cons.1 broken).resolve_left (Ne.symm isBreak))

/-- Two places in a text with the same line and the same column are one. -/
theorem eq_of_toPlace_after {text passed passed' : List Char} (l : Location)
    (here : passed <+: text) (here' : passed' <+: text)
    (line : (l.after passed).line = (l.after passed').line)
    (column : (l.after passed).column = (l.after passed').column) : passed = passed' := by
  have shorter {p p' : List Char} (le : p <+: p')
      (line : (l.after p).line = (l.after p').line)
      (column : (l.after p).column = (l.after p').column) : p = p' := by
    obtain ⟨more, rfl⟩ := le
    rw [after_append, line_after (l.after p)] at line
    have free : '\n' ∉ more := List.count_eq_zero.1 (by omega)
    rw [after_append, column_after_of_notMem _ free] at column
    have isEmpty : String.utf8Len more = 0 := by omega
    rw [String.utf8Len_eq_zero] at isEmpty
    simp [isEmpty]
  rcases List.prefix_or_prefix_of_prefix here here' with le | ge
  · exact shorter le line column
  · exact (shorter ge line.symm column.symm).symm

/-- The bytes of a text that is passed end between two characters. -/
theorem isValid_offset (passed rest : List Char) :
    String.Pos.Raw.IsValid (String.ofList (passed ++ rest)) ⟨(start.after passed).offset⟩ := by
  rw [String.Pos.Raw.isValid_iff_exists_append]
  refine ⟨String.ofList passed, String.ofList rest, String.ofList_append, ?_⟩
  rw [String.Pos.Raw.ext_iff, String.byteIdx_rawEndPos, String.utf8ByteSize_ofList, start_after]

end Location

end Stencil
