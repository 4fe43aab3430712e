import Mathlib
import Stencil.Text.Blank
import Stencil.Text.Occurrence

/-!
# The pieces of a text

A text that is cut at a pattern is its pieces again, joined by the pattern (`Text.joinWith_cut`).
The occurrences between the pieces are found from left to right (`Text.leftmost_cut`), and they are
the ones that are replaced if the text is not cut (`Text.replaceAll_eq`). Its words are what is left
without the blanks, none of them empty. So no piece and no word is longer than the text, and there
are no more words than characters and hardly more pieces (`Text.length_cut_le`).
-/

namespace Stencil.Text

/-! ### Joining -/

@[simp] theorem joinWith_nil (separator : List Char) : joinWith separator [] = [] := rfl

@[simp] theorem joinWith_singleton (separator piece : List Char) :
    joinWith separator [piece] = piece := List.intercalate_singleton

@[simp] theorem joinWith_cons_cons (separator piece next : List Char) (pieces : List (List Char)) :
    joinWith separator (piece :: next :: pieces) =
      piece ++ separator ++ joinWith separator (next :: pieces) :=
  List.intercalate_cons_cons

/-- Two pieces at the end may as well be one with the separator in it. -/
theorem joinWith_merge (separator piece next : List Char) (pieces : List (List Char)) :
    joinWith separator (pieces ++ [piece, next]) =
      joinWith separator (pieces ++ [piece ++ separator ++ next]) := by
  induction pieces with
  | nil => simp
  | cons first pieces ih => cases pieces <;> simp_all

/-- What is put behind the last piece stands behind them all. -/
theorem joinWith_extend (separator piece more : List Char) (pieces : List (List Char)) :
    joinWith separator (pieces ++ [piece ++ more]) =
      joinWith separator (pieces ++ [piece]) ++ more := by
  induction pieces with
  | nil => simp
  | cons first pieces ih => cases pieces <;> simp_all

theorem infix_joinWith {separator piece : List Char} {pieces : List (List Char)}
    (h : piece ∈ pieces) : piece <:+: joinWith separator pieces := by
  induction pieces with
  | nil => cases h
  | cons first pieces ih =>
    cases pieces with
    | nil =>
        obtain rfl := List.mem_singleton.1 h
        rw [joinWith_singleton]
    | cons second pieces =>
        rw [joinWith_cons_cons, List.append_assoc]
        rcases List.mem_cons.1 h with rfl | later
        · exact (List.prefix_append _ _).isInfix
        · exact (ih later).trans ((List.suffix_append _ _).trans (List.suffix_append _ _)).isInfix

/-- There is a separator between any two pieces. -/
theorem length_le_joinWith {separator : List Char} (nonempty : separator ≠ [])
    (pieces : List (List Char)) : pieces.length ≤ (joinWith separator pieces).length + 1 := by
  have positive := List.length_pos_iff.2 nonempty
  induction pieces with
  | nil => simp
  | cons first pieces ih =>
    cases pieces with
    | nil => simp
    | cons second pieces =>
        rw [joinWith_cons_cons, List.length_cons, List.length_append, List.length_append]
        omega

/-! ### Cutting -/

/-- What has been cut and what is left to be cut are the whole text at any time. -/
theorem joinWith_cutFrom {pattern : List Char} (nonempty : pattern ≠ []) {w : Window}
    {cs : List Char} (h : w.Describes pattern cs) (skip : Nat) (piece : List Char)
    (pieces : List (List Char)) :
    joinWith pattern (cutFrom (.ofChars pattern) w skip piece pieces cs) =
      joinWith pattern (pieces.reverse ++ [piece.reverse ++ cs.drop skip]) := by
  induction cs generalizing w skip piece pieces with
  | nil => simp [cutFrom]
  | cons c cs ih =>
    have slid := h.slide nonempty
    cases skip with
    | succ skip =>
        rw [cutFrom, ih slid, List.drop_succ_cons]
    | zero =>
        rw [cutFrom_cons h, List.drop_zero]
        split
        · next here =>
          obtain ⟨rest, text⟩ := List.isPrefixOf_iff_prefix.1 here
          obtain ⟨p, ps, rfl⟩ := List.exists_cons_of_ne_nil nonempty
          have passed : cs.drop ((p :: ps).length - 1) = rest := by
            rw [← (List.cons.inj text).2]
            simp
          rw [ih slid, passed, List.reverse_cons, List.append_assoc, List.singleton_append,
            joinWith_merge, List.reverse_nil, List.nil_append, List.append_assoc, text]
        · rw [ih slid, List.reverse_cons, List.drop_zero, List.append_assoc,
            List.singleton_append]

/-- The pieces of a text, with the pattern between, are the text. -/
theorem joinWith_cut {pattern : List Char} (nonempty : pattern ≠ []) (cs : List Char) :
    joinWith pattern (cut pattern cs) = cs := by
  rw [cut, joinWith_cutFrom nonempty (Window.describes_start pattern cs)]
  simp

/-- What stands between the occurrences of a pattern in a text, where an occurrence is the first one
behind that before: the pattern begins nowhere in the piece in front of it. -/
inductive Leftmost (pattern : List Char) : List Char → List (List Char) → Prop
  | last {cs : List Char} (free : ¬pattern <:+: cs) : Leftmost pattern cs [cs]
  | next {piece rest : List Char} {pieces : List (List Char)}
      (first : ∀ k < piece.length, ¬pattern <+: (piece ++ (pattern ++ rest)).drop k)
      (more : Leftmost pattern rest pieces) :
      Leftmost pattern (piece ++ (pattern ++ rest)) (piece :: pieces)

/-- A pattern that occurs in a text begins at one of its places. -/
theorem exists_place_of_infix {pattern cs : List Char} (nonempty : pattern ≠ [])
    (inside : pattern <:+: cs) (rest : List Char) :
    ∃ k < cs.length, pattern <+: (cs ++ rest).drop k := by
  obtain ⟨before, after, rfl⟩ := inside
  have positive := List.length_pos_iff.2 nonempty
  refine ⟨before.length, by simp only [List.length_append]; omega, after ++ rest, ?_⟩
  simp

theorem Leftmost.not_infix {pattern cs piece : List Char} {pieces : List (List Char)}
    (nonempty : pattern ≠ []) (h : Leftmost pattern cs pieces) (inside : piece ∈ pieces) :
    ¬pattern <:+: piece := by
  induction h with
  | last free => rwa [List.mem_singleton.1 inside]
  | next first more ih =>
      rcases List.mem_cons.1 inside with rfl | later
      · intro occurs
        obtain ⟨k, within, begins⟩ := exists_place_of_infix nonempty occurs _
        exact first k within begins
      · exact ih later

/-- The piece that is being read has no place at which the pattern begins, and the pieces from it on
are cut from left to right. -/
theorem leftmost_cutFrom {pattern : List Char} (nonempty : pattern ≠ []) {w : Window}
    {cs : List Char} (h : w.Describes pattern cs) (skip : Nat) (piece : List Char)
    (pieces : List (List Char))
    (searched : ∀ k < piece.length, ¬pattern <+: (piece.reverse ++ cs.drop skip).drop k) :
    ∃ found, cutFrom (.ofChars pattern) w skip piece pieces cs = pieces.reverse ++ found ∧
      Leftmost pattern (piece.reverse ++ cs.drop skip) found := by
  induction cs generalizing w skip piece pieces with
  | nil =>
      refine ⟨[piece.reverse], by simp [cutFrom], ?_⟩
      rw [List.drop_nil, List.append_nil]
      refine .last fun occurs => ?_
      obtain ⟨k, within, begins⟩ := exists_place_of_infix nonempty occurs []
      exact searched k (by simpa using within) (by simpa using begins)
  | cons c cs ih =>
    have slid := h.slide nonempty
    cases skip with
    | succ skip => exact ih slid skip piece pieces searched
    | zero =>
        rw [cutFrom_cons h, List.drop_zero] at *
        split
        · next here =>
          obtain ⟨rest, text⟩ := List.isPrefixOf_iff_prefix.1 here
          have passed : cs.drop (pattern.length - 1) = rest := by
            obtain ⟨p, ps, rfl⟩ := List.exists_cons_of_ne_nil nonempty
            rw [← (List.cons.inj text).2]
            simp
          obtain ⟨found, result, more⟩ := ih slid (pattern.length - 1) []
            (piece.reverse :: pieces) (by simp)
          rw [passed, List.reverse_nil, List.nil_append] at more
          refine ⟨piece.reverse :: found, by simp [result], ?_⟩
          rw [← text] at searched ⊢
          exact .next (by simpa using searched) more
        · next absent =>
          have here : ¬pattern <+: c :: cs := by
            rwa [← List.isPrefixOf_iff_prefix]
          have further : (c :: piece).reverse ++ cs.drop 0 = piece.reverse ++ c :: cs := by simp
          rw [← further]
          refine ih slid 0 (c :: piece) pieces fun k within => ?_
          rw [further]
          rcases Nat.lt_succ_iff_lt_or_eq.1 within with before | rfl
          · exact searched k before
          · rwa [← List.length_reverse, List.drop_left]

/-- A text is cut at the first occurrence, then at the first one behind it, and so on. -/
theorem leftmost_cut {pattern : List Char} (nonempty : pattern ≠ []) (cs : List Char) :
    Leftmost pattern cs (cut pattern cs) := by
  obtain ⟨found, result, cuts⟩ :=
    leftmost_cutFrom nonempty (Window.describes_start pattern cs) 0 [] [] (by simp)
  rw [List.reverse_nil, List.nil_append] at result cuts
  rw [cut, result]
  exact cuts

/-- What has been replaced so far is what has been cut so far with the replacement between. -/
theorem replaceFrom_eq (pattern : Pattern) (replacement : List Char) (w : Window) (skip : Nat)
    {done piece : List Char} {pieces : List (List Char)}
    (same : done.reverse = joinWith replacement (pieces.reverse ++ [piece.reverse]))
    (cs : List Char) :
    replaceFrom pattern replacement w skip done cs =
      joinWith replacement (cutFrom pattern w skip piece pieces cs) := by
  induction cs generalizing w skip done piece pieces with
  | nil => rw [replaceFrom, cutFrom, same, List.reverse_cons]
  | cons c cs ih =>
    cases skip with
    | succ skip => exact ih _ skip same
    | zero =>
        rw [replaceFrom, cutFrom]
        split
        · refine ih _ _ ?_
          rw [List.reverseAux_eq, List.reverse_append, List.reverse_reverse, same, List.reverse_cons,
            List.append_assoc, List.singleton_append, joinWith_merge, List.reverse_nil,
            List.append_nil, joinWith_extend]
        · refine ih _ _ ?_
          rw [List.reverse_cons, same, List.reverse_cons, joinWith_extend]

/-- To replace a pattern is to cut the text at it and to join the pieces with the replacement. -/
theorem replaceAll_eq (pattern replacement cs : List Char) :
    replaceAll pattern replacement cs = joinWith replacement (cut pattern cs) :=
  replaceFrom_eq _ replacement _ 0 rfl cs

theorem infix_of_mem_cut {pattern piece cs : List Char} (nonempty : pattern ≠ [])
    (h : piece ∈ cut pattern cs) : piece <:+: cs := by
  have joined : piece <:+: joinWith pattern (cut pattern cs) := infix_joinWith h
  rwa [joinWith_cut nonempty] at joined

theorem length_cut_le {pattern : List Char} (nonempty : pattern ≠ []) (cs : List Char) :
    (cut pattern cs).length ≤ cs.length + 1 := by
  have most := length_le_joinWith nonempty (cut pattern cs)
  rwa [joinWith_cut nonempty] at most

/-! ### Occurring -/

/-- What occurs in a text is a part of it. -/
theorem occurs_iff {pattern cs : List Char} : occurs pattern cs = true ↔ pattern <:+: cs := by
  induction cs with
  | nil =>
      rw [List.infix_nil, ← List.isEmpty_iff]
      rfl
  | cons c cs ih =>
      rw [occurs_cons, Bool.or_eq_true, List.isPrefixOf_iff_prefix, ih, List.infix_cons_iff]

/-! ### Words -/

theorem flatten_closeWord (word : List Char) (words : List (List Char)) :
    (closeWord word words).reverse.flatten = words.reverse.flatten ++ word.reverse := by
  rw [closeWord]
  split
  · next empty => simp [List.isEmpty_iff.1 empty]
  · simp

theorem flatten_wordsFrom (word : List Char) (words : List (List Char)) (cs : List Char) :
    (wordsFrom word words cs).flatten =
      words.reverse.flatten ++ word.reverse ++ cs.filter (!isBlank ·) := by
  induction cs generalizing word words with
  | nil => rw [wordsFrom, flatten_closeWord, List.filter_nil, List.append_nil]
  | cons c cs ih =>
    rw [wordsFrom]
    split
    · next blank => simp [ih, flatten_closeWord, blank]
    · next other => simp [ih, other]

/-- The words of a text are the text without its blanks. -/
theorem flatten_words (cs : List Char) : (words cs).flatten = cs.filter (!isBlank ·) := by
  rw [words, flatten_wordsFrom]
  simp

theorem ne_nil_of_mem_closeWord {words : List (List Char)} (known : ∀ w ∈ words, w ≠ [])
    (word : List Char) : ∀ w ∈ closeWord word words, w ≠ [] := by
  rw [closeWord]
  split
  · exact known
  · next nonempty => simpa [List.isEmpty_iff] using And.intro nonempty known

theorem ne_nil_of_mem_wordsFrom {words : List (List Char)} (known : ∀ w ∈ words, w ≠ [])
    (word cs : List Char) : ∀ w ∈ wordsFrom word words cs, w ≠ [] := by
  induction cs generalizing word words with
  | nil => simpa [wordsFrom] using ne_nil_of_mem_closeWord known word
  | cons c cs ih =>
      rw [wordsFrom]
      split
      · exact ih (ne_nil_of_mem_closeWord known word) []
      · exact ih known (c :: word)

theorem ne_nil_of_mem_words {w cs : List Char} (h : w ∈ words cs) : w ≠ [] :=
  ne_nil_of_mem_wordsFrom (by simp) [] cs w h

theorem sublist_of_mem_words {w cs : List Char} (h : w ∈ words cs) : w.Sublist cs := by
  have part : w.Sublist (words cs).flatten := List.sublist_flatten_of_mem h
  rw [flatten_words] at part
  exact part.trans List.filter_sublist

theorem length_words_le (cs : List Char) : (words cs).length ≤ cs.length := by
  have each : ∀ n ∈ (words cs).map List.length, 1 ≤ n := by
    intro n h
    obtain ⟨w, inside, rfl⟩ := List.mem_map.1 h
    exact List.length_pos_iff.2 (ne_nil_of_mem_words inside)
  calc (words cs).length = ((words cs).map List.length).length := by rw [List.length_map]
    _ ≤ ((words cs).map List.length).sum := List.length_le_sum_of_one_le _ each
    _ = (words cs).flatten.length := List.length_flatten.symm
    _ ≤ cs.length := by
      rw [flatten_words]
      exact List.length_filter_le _ _

/-! ### Trimming -/

theorem sublist_trim (cs : List Char) : (trim cs).Sublist cs := by
  rw [trim]
  have ends := (List.dropWhile_sublist isBlank (l := (cs.dropWhile isBlank).reverse)).reverse
  rw [List.reverse_reverse] at ends
  exact ends.trans (List.dropWhile_sublist isBlank)

end Stencil.Text
