import Stencil.Proofs.Script.Opening
import Stencil.Script.Stmt

/-!
# Written lines

Between two statements there are only line breaks and indentation. A statement starts with a
character that is neither skipped nor closes a body, and with a word that does not continue a
conditional, so the reader finds every statement where it was written.
-/

namespace Stencil

namespace Script

section Blanks

variable {blank : Char → Bool} {row cs : List Char} {x : Char} {c : Cursor}

/-- A row of blanks and line breaks. -/
def IsBlank (row : List Char) : Prop := ∀ x ∈ row, x = ' ' ∨ x = '\n'

theorem isBlank_nil : IsBlank [] := by simp [IsBlank]

theorem isBlank_break : IsBlank ['\n'] := by simp [IsBlank]

theorem isBlank_indent (depth : Nat) : IsBlank (Stmt.indent depth) :=
  fun _ h => .inl (List.eq_of_mem_replicate h)

theorem IsBlank.append {row' : List Char} (h : IsBlank row) (h' : IsBlank row') :
    IsBlank (row ++ row') :=
  List.forall_mem_append.2 ⟨h, h'⟩

/-- Every reader that skips line breaks skips such a row. -/
theorem gapLength_blank (space : blank ' ' = true) (break' : blank '\n' = true)
    (h : IsBlank row) :
    gapLength blank false (row ++ cs) = row.length + gapLength blank false cs := by
  induction row with
  | nil => simp
  | cons x row ih =>
      have rest := ih fun y mem => h y (List.mem_cons_of_mem _ mem)
      rcases h x (by simp) with rfl | rfl
      · simp [gapLength, space, rest]
        omega
      · simp [gapLength, break', rest]
        omega

/-- Nothing is skipped in front of a character that is no blank. -/
theorem gapLength_solid (h : blank x = false) (h' : x ≠ '#') :
    gapLength blank false (x :: cs) = 0 := by
  simp [gapLength, h, h']

/-- The cursor behind blanks and line breaks. -/
theorem rest_pass_blank (space : blank ' ' = true) (break' : blank '\n' = true)
    (isBlank : IsBlank row) (solid : gapLength blank false cs = 0) (rest : c.rest = row ++ cs) :
    (c.pass (gapLength blank false c.rest)).rest = cs := by
  rw [Cursor.rest_pass, rest, gapLength_blank space break' isBlank, solid, Nat.add_zero,
    List.drop_left]

end Blanks

/-- The first characters of a statement: they are not skipped, close no body and continue no
conditional. -/
structure Starts (text : List Char) : Prop where
  head : ∃ x xs, text = x :: xs ∧ isSeparator x = false ∧ x ≠ '#' ∧ x ≠ '\x7d'
  word : ∀ {c : Cursor}, c.rest = text →
    c.word ≠ ['e', 'l', 'i', 'f'] ∧ c.word ≠ ['e', 'l', 's', 'e']

section Starts

variable {text : List Char}

theorem not_separator_word {x : Char} (h : isWordChar x) :
    isSeparator x = false ∧ x ≠ '#' ∧ x ≠ '\x7d' := by
  have ne (y : Char) (h' : isWordChar y = false) : x ≠ y := ne_of_isWordChar h h'
  refine ⟨?_, ne '#' (by decide), ne '\x7d' (by decide)⟩
  simp [isSeparator, isSpaceOrBreak, isSpace, ne ' ' (by decide), ne '\t' (by decide),
    ne '\r' (by decide), ne '\n' (by decide), ne ';' (by decide)]

/-- An expression starts a statement. -/
theorem Opening.starts {brackets strength : Nat} (h : Opening brackets strength text) :
    Starts text where
  head := by
    obtain ⟨x, xs, rfl, first⟩ := h.head
    refine ⟨x, xs, rfl, ?_⟩
    rcases first with word | rfl | rfl | rfl | ⟨rfl, -⟩
    · exact not_separator_word word
    · decide
    · decide
    · decide
    · decide
  word := by
    intro c rest
    rcases h.word rest with word | ⟨-, word⟩ | word | word | word | ⟨free, -⟩
    · simp [word]
    · simp [word]
    · simp [word]
    · simp [word]
    · simp [word]
    · constructor
      · intro word
        rw [word] at free
        exact absurd (by decide) free
      · intro word
        rw [word] at free
        exact absurd (by decide) free

/-- A word that does not continue a conditional starts a statement. -/
theorem starts_word {word cs : List Char} (isWord : ∀ x ∈ word, isWordChar x)
    (nonempty : word ≠ []) (letter : word.head?.any Char.isDigit = false)
    (ends : cs.head?.any isWordChar = false)
    (other : word ≠ ['e', 'l', 'i', 'f'] ∧ word ≠ ['e', 'l', 's', 'e']) : Starts (word ++ cs) where
  head := by
    obtain ⟨x, xs, rfl⟩ := List.exists_cons_of_ne_nil nonempty
    exact ⟨x, xs ++ cs, rfl, not_separator_word (isWord x (by simp))⟩
  word := by
    intro c rest
    rw [word_append isWord nonempty letter ends rest]
    exact other

theorem IsName.starts {name : String} {cs : List Char} (h : IsName name)
    (ends : cs.head?.any isWordChar = false) : Starts (name.toList ++ cs) := by
  refine starts_word h.word h.nonempty h.letter ends ⟨?_, ?_⟩
  · intro word
    have same : name = "elif" := String.toList_inj.1 word
    exact h.free (same ▸ by decide)
  · intro word
    have same : name = "else" := String.toList_inj.1 word
    exact h.free (same ▸ by decide)

end Starts

end Script

namespace Stmt

open Script

section Texts

variable {tail : List Char} {depth : Nat}

theorem isName_emitLiteral : IsName "emit_literal" :=
  ⟨by decide, List.all_eq_true.1 (by decide), by decide, by decide⟩

theorem isName_emitValue : IsName "emit_value" :=
  ⟨by decide, List.all_eq_true.1 (by decide), by decide, by decide⟩

theorem chars_emitText (text : String) :
    (emitText text).chars depth = (Expr.call "emit_literal" [.literal (.string text)]).chars := by
  show callText "emit_literal" (Text.Quoted.encode text.toList) = _
  simp [callText, Expr.chars, Expr.listChars, Text.joinWith, Literal.chars, Literal.value,
    Value.chars]

theorem chars_emit (e : Expr) :
    (emit e).chars depth = (Expr.call "emit_value" [e]).chars := by
  show callText "emit_value" e.chars = _
  simp [callText, Expr.chars, Expr.listChars, Text.joinWith]

theorem chars_declare (name : String) (value : Expr) :
    (declare name value).chars depth ++ tail =
      ['l', 'e', 't'] ++ ' ' :: (name.toList ++ ' ' :: '=' :: ' ' :: (value.chars ++ tail)) := by
  show "let ".toList ++ name.toList ++ " = ".toList ++ value.chars ++ tail = _
  simp

theorem chars_assign (name : String) (op : AssignOp) (value : Expr) :
    (assign name op value).chars depth ++ tail =
      name.toList ++ ' ' :: (op.symbol.toList ++ ' ' :: (value.chars ++ tail)) := by
  show name.toList ++ ' ' :: op.symbol.toList ++ ' ' :: value.chars ++ tail = _
  simp

theorem chars_branch (cond : Expr) (body : List Stmt) (otherwise : Else) :
    (branch cond body otherwise).chars depth ++ tail =
      ['i', 'f'] ++ ' ' :: (cond.chars ++ (braced depth (blockChars (depth + 1) body) ++
        (elseChars depth otherwise ++ tail))) := by
  show "if ".toList ++ cond.chars ++ braced depth (blockChars (depth + 1) body) ++
    elseChars depth otherwise ++ tail = _
  simp

theorem chars_forLoop (var : String) (iterable : Expr) (body : List Stmt) :
    (forLoop var iterable body).chars depth ++ tail =
      ['f', 'o', 'r'] ++ ' ' :: (var.toList ++ ' ' :: (['i', 'n'] ++ ' ' :: (iterable.chars ++
        (braced depth (blockChars (depth + 1) body) ++ tail)))) := by
  show "for ".toList ++ var.toList ++ " in ".toList ++ iterable.chars ++
    braced depth (blockChars (depth + 1) body) ++ tail = _
  simp

theorem chars_whileLoop (cond : Expr) (body : List Stmt) :
    (whileLoop cond body).chars depth ++ tail =
      ['w', 'h', 'i', 'l', 'e'] ++ ' ' :: (cond.chars ++
        (braced depth (blockChars (depth + 1) body) ++ tail)) := by
  show "while ".toList ++ cond.chars ++ braced depth (blockChars (depth + 1) body) ++ tail = _
  simp

theorem elseChars_block (body : List Stmt) :
    elseChars depth (.block body) ++ tail =
      ' ' :: (['e', 'l', 's', 'e'] ++ (braced depth (blockChars (depth + 1) body) ++ tail)) := by
  show " else".toList ++ braced depth (blockChars (depth + 1) body) ++ tail = _
  simp

theorem elseChars_elif (cond : Expr) (body : List Stmt) (otherwise : Else) :
    elseChars depth (.elif cond body otherwise) ++ tail =
      ' ' :: (['e', 'l', 'i', 'f'] ++ ' ' :: (cond.chars ++
        (braced depth (blockChars (depth + 1) body) ++ (elseChars depth otherwise ++ tail)))) := by
  show " elif ".toList ++ cond.chars ++ braced depth (blockChars (depth + 1) body) ++
    elseChars depth otherwise ++ tail = _
  simp

theorem blockChars_cons (s : Stmt) (ss : List Stmt) :
    blockChars depth (s :: ss) ++ tail =
      indent depth ++ (s.chars depth ++ '\n' :: (blockChars depth ss ++ tail)) := by
  show indent depth ++ s.chars depth ++ '\n' :: blockChars depth ss ++ tail = _
  simp

theorem braced_append (lines : List Char) :
    braced depth lines ++ tail =
      ' ' :: '\x7b' :: '\n' :: (lines ++ (indent depth ++ '\x7d' :: tail)) := by
  simp [braced]

theorem legible_emitText (text : String) :
    (Expr.call "emit_literal" [.literal (.string text)]).IsLegible Literal.IsReadable := by
  have readable : Literal.IsReadable (.string text) := trivial
  rw [Expr.isLegible_call]
  exact ⟨isName_emitLiteral, by simpa using readable⟩

theorem legible_emit {e : Expr} (legible : e.IsLegible Literal.IsReadable) :
    (Expr.call "emit_value" [e]).IsLegible Literal.IsReadable := by
  rw [Expr.isLegible_call]
  exact ⟨isName_emitValue, by simpa using legible⟩

theorem starts_expr {e : Expr} (legible : e.IsLegible Literal.IsReadable) :
    Starts (e.chars ++ '\n' :: tail) :=
  have follows : Follows 0 0 ('\n' :: tail) := .line tail rfl
  (Expr.opening legible follows).starts

/-- A keyword that starts a statement. -/
theorem starts_keyword {word cs : List Char} (isKeyword : String.ofList word ∈ keywords)
    (other : word ≠ ['e', 'l', 'i', 'f'] ∧ word ≠ ['e', 'l', 's', 'e'])
    (ends : cs.head?.any isWordChar = false) : Starts (word ++ cs) := by
  obtain ⟨isWord, nonempty, letter⟩ := letters_keyword isKeyword
  exact starts_word isWord nonempty letter ends other

end Texts

/-- Every written statement starts like one. -/
theorem starts {s : Stmt} (legible : s.IsLegible Literal.IsReadable) (depth : Nat)
    (tail : List Char) : Starts (s.chars depth ++ '\n' :: tail) := by
  cases s with
  | emitText text =>
      rw [chars_emitText]
      exact starts_expr (legible_emitText text)
  | emit e =>
      rw [isLegible_emit] at legible
      rw [chars_emit]
      exact starts_expr (legible_emit legible)
  | declare name value =>
      rw [chars_declare]
      exact starts_keyword (by decide) (by decide) (by rfl)
  | assign name op value =>
      rw [isLegible_assign] at legible
      rw [chars_assign]
      exact legible.1.starts (by rfl)
  | expr e => exact starts_expr legible
  | branch cond body otherwise =>
      rw [chars_branch]
      exact starts_keyword (by decide) (by decide) (by rfl)
  | forLoop var iterable body =>
      rw [chars_forLoop]
      exact starts_keyword (by decide) (by decide) (by rfl)
  | whileLoop cond body =>
      rw [chars_whileLoop]
      exact starts_keyword (by decide) (by decide) (by rfl)
  | breakLoop =>
      show Starts (['b', 'r', 'e', 'a', 'k'] ++ '\n' :: tail)
      exact starts_keyword (by decide) (by decide) (by rfl)
  | continueLoop =>
      show Starts (['c', 'o', 'n', 't', 'i', 'n', 'u', 'e'] ++ '\n' :: tail)
      exact starts_keyword (by decide) (by decide) (by rfl)

end Stmt

end Stencil
