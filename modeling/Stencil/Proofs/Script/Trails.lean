import Stencil.Proofs.Script.Keeps
import Stencil.Script.Bytes

/-!
# The trail of a reader

A cursor that moves by bytes is sound if it is between two characters of its text, where it counts
the lines in front of it (`ByteCursor.Sound`). The moves check nothing of this; but what readers
know where they make a move suffices to keep it. So a sound trail stays sound, and leads along the
places of the cursor that passes characters (`lasting_at`).
-/

namespace Stencil.Script

variable {text passed cs rest : List Char} {brackets depth : Nat}

/-- A cursor at the border of two characters of a text: its offset is one from which the text can be
read on, its line is one more than the line breaks in front of it, and this line starts behind the
last of them. -/
structure ByteCursor.Sound (text : List Char) (b : ByteCursor) : Prop where
  whole : b.text = text
  inside : b.offset ≤ (String.ofList text).utf8ByteSize
  border : String.Pos.Raw.IsValid (String.ofList text) ⟨b.offset⟩
  counted : ∃ passed, passed ++ b.rest = text ∧ b.offset = String.utf8Len passed ∧
    b.line = 1 + passed.count '\n' ∧
    b.lineStart = String.utf8Len (passed.rdropWhile (· != '\n'))

/-- All cursors of a trail are sound. -/
def Trail.Sound (text : List Char) (t : Trail) : Prop := ∀ b ∈ t.steps, b.Sound text

namespace ByteCursor

/-- The cursor between two parts of a text. -/
def between (passed rest : List Char) (brackets depth : Nat) : ByteCursor :=
  ⟨passed ++ rest, String.utf8Len passed, 1 + passed.count '\n',
    String.utf8Len (passed.rdropWhile (· != '\n')), brackets, depth⟩

theorem rest_between : (between passed rest brackets depth).rest = rest := by
  rw [ByteCursor.rest, between, Text.dropBytes_append, Option.getD_some]

theorem sound_between : (between passed rest brackets depth).Sound (passed ++ rest) where
  whole := rfl
  inside := by
    rw [String.utf8ByteSize_ofList, String.utf8Len_append]
    exact Nat.le_add_right _ _
  border := by
    have border := Location.isValid_offset passed rest
    rwa [Location.start_after] at border
  counted := ⟨passed, by rw [rest_between], rfl, rfl, rfl⟩

/-- A sound cursor is between two parts of its text. -/
theorem Sound.eq_between {b : ByteCursor} (h : b.Sound text) :
    ∃ passed, passed ++ b.rest = text ∧ b = between passed b.rest b.brackets b.depth := by
  obtain ⟨rfl, -, -, passed, whole, offset, line, lineStart⟩ := h
  refine ⟨passed, whole, ?_⟩
  cases b
  simp_all [between]

/-- It is seen at the place that is counted in front of it. -/
theorem view_between : (between passed rest brackets depth).view =
    ⟨rest, Location.start.after passed, brackets, depth⟩ := by
  have bytes : String.utf8Len passed = String.utf8Len (passed.rdropWhile (· != '\n')) +
      String.utf8Len (passed.rtakeWhile (· != '\n')) := by
    rw [← String.utf8Len_append, List.rdropWhile_append_rtakeWhile]
  have column : (between passed rest brackets depth).column =
      1 + String.utf8Len (passed.rtakeWhile (· != '\n')) := by
    simp only [ByteCursor.column, between]
    omega
  rw [view, rest_between, column, Location.start_after]
  rfl

theorem passChar_between (x : Char) :
    (between passed (x :: rest) brackets depth).passChar x =
      between (passed ++ [x]) rest brackets depth := by
  by_cases isBreak : x = '\n'
  · subst isBreak
    simp [passChar, between, List.rdropWhile_concat_neg, Nat.add_assoc]
  · simp [passChar, between, isBreak, List.rdropWhile_concat_pos]

/-- In a line, the bytes of whole characters are passed. -/
theorem passBytes_between (plain : '\n' ∉ cs) :
    (between passed (cs ++ rest) brackets depth).passBytes (String.utf8Len cs) =
      between (passed ++ cs) rest brackets depth := by
  have noBreak : ∀ x ∈ cs.reverse, x != '\n' := by
    intro x inside
    rw [bne_iff_ne]
    rintro rfl
    exact plain (List.mem_reverse.1 inside)
  have lineStart : (passed ++ cs).rdropWhile (· != '\n') = passed.rdropWhile (· != '\n') := by
    rw [List.rdropWhile, List.reverse_append, List.dropWhile_append_of_pos noBreak]
    rfl
  simp [passBytes, between, lineStart, List.count_eq_zero.2 plain]

/-- Bytes that are no characters lead to where no cursor is sound. -/
example : ¬((start ['é']).passBytes 1).Sound ['é'] := by
  rintro ⟨-, -, -, passed, whole, offset, -⟩
  have nothing : ((start ['é']).passBytes 1).rest = [] := rfl
  rw [nothing, List.append_nil] at whole
  subst whole
  exact absurd offset (by decide)

theorem start_eq (text : List Char) : start text = between [] text 0 0 := rfl

end ByteCursor

/-! ### Trails along cursors -/

/-- A sound trail that has led to the place of a cursor, and counts what it counts. -/
structure Trail.At (text : List Char) (t : Trail) (c : Cursor) : Prop where
  here : ∃ passed, passed ++ c.rest = text ∧ c.place = Location.start.after passed ∧
    t.cursor = .between passed c.rest c.brackets c.depth
  sound : t.Sound text

namespace Trail.At

variable {t : Trail} {c : Cursor}

theorem of_sound (h : t.Sound text) : t.At text t.cursor.view := by
  obtain ⟨passed, whole, cursor⟩ := (h _ List.mem_cons_self).eq_between
  refine ⟨⟨passed, whole, ?_, cursor⟩, h⟩
  rw [cursor, ByteCursor.view_between]

theorem view (h : t.At text c) : t.cursor.view = c := by
  obtain ⟨passed, -, place, cursor⟩ := h.here
  rw [cursor, ByteCursor.view_between, ← place]

theorem rest_eq (h : t.At text c) : t.cursor.rest = c.rest := congrArg Cursor.rest h.view

/-- One step to a place between two parts of the text. -/
theorem step {change : ByteCursor → ByteCursor} {c' : Cursor} (h : t.Sound text)
    (passed : List Char) (whole : passed ++ c'.rest = text)
    (place : c'.place = Location.start.after passed)
    (changed : change t.cursor = .between passed c'.rest c'.brackets c'.depth) :
    (t.step change).At text c' := by
  refine ⟨⟨passed, whole, place, changed⟩, ?_⟩
  rintro b here
  rcases List.mem_cons.1 here with rfl | earlier
  · have sound : (change t.cursor).Sound text := by
      rw [changed, ← whole]
      exact ByteCursor.sound_between
    exact sound
  · exact h b earlier

/-- One step over some characters that are next. -/
theorem pass {change : ByteCursor → ByteCursor} (h : t.At text c) (cs : List Char)
    (ahead : c.rest = cs ++ rest)
    (changed : ∀ passed, change (.between passed (cs ++ rest) c.brackets c.depth) =
      .between (passed ++ cs) rest c.brackets c.depth) :
    (t.step change).At text (c.pass cs.length) := by
  obtain ⟨passed, whole, place, cursor⟩ := h.here
  rw [ahead] at whole cursor
  have behind : (c.pass cs.length).rest = rest := by
    rw [Cursor.rest_pass, ahead, List.drop_left]
  refine step h.sound (passed ++ cs) ?_ ?_ ?_
  · rw [behind, List.append_assoc, whole]
  · rw [Location.after_append, ← place, Cursor.pass, ahead, List.take_left]
  · rw [cursor, changed, behind]
    rfl

theorem char {x : Char} (h : t.At text c) (next : c.rest.head? = some x) :
    (t.step (.passChar x)).At text (c.pass 1) := by
  obtain ⟨rest, ahead⟩ := List.head?_eq_some_iff.1 next
  exact h.pass [x] ahead fun _ => ByteCursor.passChar_between x

theorem bytes (h : t.At text c) (ahead : cs <+: c.rest) (plain : '\n' ∉ cs) :
    (t.step (.passBytes (String.utf8Len cs))).At text (c.pass cs.length) := by
  obtain ⟨rest, ahead⟩ := ahead
  exact h.pass cs ahead.symm fun _ => ByteCursor.passBytes_between plain

/-- A step that only counts. -/
theorem count {brackets depth : Nat} {change : ByteCursor → ByteCursor} (h : t.At text c)
    (changed : ∀ passed rest, change (.between passed rest c.brackets c.depth) =
      .between passed rest brackets depth) :
    (t.step change).At text { c with brackets, depth } := by
  obtain ⟨passed, whole, place, cursor⟩ := h.here
  exact step h.sound passed whole place (by rw [cursor, changed])

/-- Blanks and comments are passed one by one, up to where they are known to end. -/
theorem skip {blank : Char → Bool} : ∀ {fuel : Nat} {comment : Bool} {t : Trail} {c : Cursor},
    t.At text c → c.rest.length ≤ fuel →
      (t.skip blank comment fuel).At text (c.pass (gapLength blank comment c.rest))
  | 0, comment, t, c, h, enough => by
    have ended := List.eq_nil_of_length_eq_zero (Nat.le_zero.1 enough)
    rwa [Cursor.pass_of_nil ended]
  | fuel + 1, comment, t, c, h, enough => by
    rw [Trail.skip, h.rest_eq]
    cases rest : c.rest with
    | nil => rwa [Cursor.pass_of_nil rest]
    | cons x cs =>
        have passed := h.char (rest ▸ List.head?_cons : c.rest.head? = some x)
        have behind : (c.pass 1).rest = cs := Cursor.rest_pass_one rest
        have fewer : (c.pass 1).rest.length ≤ fuel := by
          rw [rest] at enough
          exact behind ▸ Nat.le_of_succ_le_succ enough
        have more (comment : Bool) :
            ((t.step (.passChar x)).skip blank comment fuel).At text
              (c.pass (1 + gapLength blank comment cs)) := by
          rw [← Cursor.pass_pass, ← behind]
          exact skip passed fewer
        simp only [List.head?_cons, gapLength]
        split
        · rw [Nat.add_comm]
          exact more true
        split
        · rw [Nat.add_comm]
          exact more false
        · exact h

/-- So is a row of characters that are one byte each. -/
theorem row {kind : Char → Bool} (small : IsSmall kind) : ∀ {fuel : Nat} {t : Trail} {c : Cursor},
    t.At text c → c.rest.length ≤ fuel →
      (t.row kind fuel).At text (c.pass (c.rest.takeWhile kind).length)
  | 0, t, c, h, enough => by
    have ended := List.eq_nil_of_length_eq_zero (Nat.le_zero.1 enough)
    rwa [Cursor.pass_of_nil ended]
  | fuel + 1, t, c, h, enough => by
    rw [Trail.row, h.rest_eq]
    cases rest : c.rest with
    | nil => rwa [Cursor.pass_of_nil rest]
    | cons x cs =>
        by_cases holds : kind x
        · obtain ⟨plain, size⟩ := small x holds
          have next : [x] <+: c.rest := ⟨cs, rest.symm⟩
          have passed := h.bytes next (by simpa using plain.symm)
          have behind : (c.pass 1).rest = cs := Cursor.rest_pass_one rest
          have fewer : (c.pass 1).rest.length ≤ fuel := by
            rw [rest] at enough
            exact behind ▸ Nat.le_of_succ_le_succ enough
          rw [String.utf8Len_cons, String.utf8Len_nil, size] at passed
          have more := row small passed fewer
          rw [List.length_singleton, behind, Cursor.pass_pass] at more
          rwa [List.head?_cons, Option.any_some, if_pos holds, List.takeWhile_cons_of_pos holds,
            List.length_cons, Nat.add_comm]
        · simpa [holds] using h

end Trail.At

/-- A trail of bytes leads along the places of the cursor that passes characters. -/
theorem lasting_at (text : List Char) : Lasting (Trail.At text) (Error.On text) where
  view := Trail.At.view
  char := Trail.At.char
  unseen {t c piece} h found plain := by
    have size : piece.utf8ByteSize = String.utf8Len piece.toList := by
      rw [← String.utf8ByteSize_ofList, String.ofList_toList]
    have passed := h.bytes (List.isPrefixOf_iff_prefix.1 found) plain
    rwa [String.length_toList, ← size] at passed
  skip h blank := h.skip (h.rest_eq ▸ le_rfl)
  row h small := h.row small (h.rest_eq ▸ le_rfl)
  back {start t start' c} there h := by
    obtain ⟨passed, whole, place, cursor⟩ := there.here
    obtain ⟨passed', whole', -, cursor'⟩ := h.here
    refine .step h.sound passed whole place ?_
    rw [cursor, cursor', ByteCursor.back, ByteCursor.between, ByteCursor.between, whole']
    rw [ByteCursor.between, ← whole]
    rfl
  setDepth h depth := h.count fun _ _ => rfl
  setBrackets h brackets := h.count fun _ _ => rfl
  close h inside := h.count fun passed rest => by
    rw [inside]
    rfl
  error {t c} h d := by
    obtain ⟨passed, whole, place, -⟩ := h.here
    exact ⟨passed, ⟨c.rest, whole⟩, ⟨by rw [Cursor.error, place], by rw [Cursor.error, place]⟩⟩

end Stencil.Script
