import Stencil.Builtin
import Stencil.Proofs.Text.Pieces

/-!
# Splitting, joining and replacing

A text that is split at a separator is cut at the occurrences of it, found from left to right, so no
piece has the separator in it. Joining the pieces with the separator gives the text back, on
whichever side of the list the separator stands, and joining them with anything else is replacing
the separator.
-/

namespace Stencil.Builtin

/-- The text of a text is the text itself. -/
theorem joinItems_strings (pieces : List String) (separator : List Char) :
    joinItems (pieces.map .string) separator =
      textValue (Text.joinWith separator (pieces.map String.toList)) := by
  rw [joinItems, List.map_map]
  rfl

/-- Splitting, joining and replacing at a separator fit together. -/
theorem call_split_pieces (s p : String) (nonempty : p ≠ "") :
    ∃ pieces : List String,
      split.call [.string s, .string p] = .ok (.list (pieces.map .string)) ∧
      Text.Leftmost p.toList s.toList (pieces.map String.toList) ∧
      (∀ piece ∈ pieces, Value.isIn (.string p) (.string piece) = .ok false) ∧
      join.call [.list (pieces.map .string), .string p] = .ok (.string s) ∧
      join.call [.string p, .list (pieces.map .string)] = .ok (.string s) ∧
      ∀ t : String, replace.call [.string s, .string p, .string t] =
        join.call [.list (pieces.map .string), .string t] := by
  have chars : p.toList ≠ [] := fun empty => nonempty (String.toList_eq_nil_iff.1 empty)
  have notEmpty : p.toList.isEmpty = false := by
    rwa [← Bool.not_eq_true, List.isEmpty_iff]
  have lists : ((Text.cut p.toList s.toList).map String.ofList).map String.toList =
      Text.cut p.toList s.toList := by
    simp
  have joined : textValue (Text.joinWith p.toList (Text.cut p.toList s.toList)) = .string s := by
    rw [Text.joinWith_cut chars, textValue, String.ofList_toList]
  have cuts := Text.leftmost_cut chars s.toList
  refine ⟨(Text.cut p.toList s.toList).map String.ofList, ?_, ?_, ?_, ?_, ?_, ?_⟩
  · rw [List.map_map]
    simp only [call, callSplit, characters, bind, Except.bind, notEmpty]
    rfl
  · rwa [lists]
  · intro piece inside
    have cut : piece.toList ∈ Text.cut p.toList s.toList := by
      rw [← lists]
      exact List.mem_map_of_mem inside
    have free := cuts.not_infix chars cut
    rw [← Text.occurs_iff, Bool.not_eq_true] at free
    exact congrArg Except.ok free
  · change Except.ok (joinItems _ _) = _
    rw [joinItems_strings, lists, joined]
  · change Except.ok (joinItems _ _) = _
    rw [joinItems_strings, lists, joined]
  · intro t
    change _ = Except.ok (joinItems _ _)
    rw [joinItems_strings, lists, ← Text.replaceAll_eq]
    simp only [call, callReplace, characters, bind, Except.bind, notEmpty]
    rfl

/-- The second letter of this text belongs to the occurrence that the first one begins. -/
theorem call_split_pieces_overlapping :
    "aa" ≠ "" ∧ ∃ pieces : List String,
      split.call [.string "aaa", .string "aa"] = .ok (.list (pieces.map .string)) ∧
      Text.Leftmost ['a', 'a'] ['a', 'a', 'a'] (pieces.map String.toList) ∧
      replace.call [.string "aaa", .string "aa", .string "-"] =
        join.call [.list (pieces.map .string), .string "-"] := by
  have nonempty : "aa" ≠ "" := by decide
  obtain ⟨pieces, splits, leftmost, -, -, -, replaces⟩ := call_split_pieces "aaa" "aa" nonempty
  exact ⟨nonempty, pieces, splits, leftmost, replaces "-"⟩

example : split.call [.string "aaa", .string "aa"] = .ok (.list [.string "", .string "a"]) := by
  rfl

end Stencil.Builtin
