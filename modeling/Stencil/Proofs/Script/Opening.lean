import Stencil.Proofs.Script.Literals

/-!
# How an expression opens

The first characters of a written expression tell which reader takes it up: a sign, a word that is
no name, or a name. With the strength of the expression they rule out the other readers, and the
statements that start with a keyword or a target of an assignment.
-/

namespace Stencil

namespace Script

/-- The first characters of an expression of a given strength, and what follows it. -/
inductive Opening (brackets : Nat) : Nat → List Char → Prop
  | sign {strength : Nat} {x : Char} (cs : List Char)
    (h : x = '"' ∨ x = '[' ∨ x = '(' ∨ x.isDigit) : Opening brackets strength (x :: cs)
  | minus {strength : Nat} (cs : List Char) (loose : strength ≤ 7) :
    Opening brackets strength ('-' :: cs)
  | denial {strength : Nat} (cs : List Char) (loose : strength ≤ 3) :
    Opening brackets strength (['n', 'o', 't', ' '] ++ cs)
  | constant {strength p : Nat} {word cs : List Char}
    (h : word = ['t', 'r', 'u', 'e'] ∨ word = ['f', 'a', 'l', 's', 'e'] ∨
      word = ['n', 'o', 'n', 'e']) (follows : Follows brackets p cs) :
    Opening brackets strength (word ++ cs)
  | name {strength : Nat} {name : String} {cs : List Char} (isName : IsName name)
    (follows : (∃ p, Follows brackets p cs) ∨ ∃ xs, cs = '(' :: xs) :
    Opening brackets strength (name.toList ++ cs)

section Names

variable {brackets d p : Nat} {name : String} {cs : List Char} {c : Cursor} {E : Error → Prop}

theorem ends_name (follows : (∃ p, Follows brackets p cs) ∨ ∃ xs, cs = '(' :: xs) :
    cs.head?.any isWordChar = false := by
  rcases follows with ⟨p, follows⟩ | ⟨xs, rfl⟩
  · exact follows.ends
  · exact (by decide : isWordChar '(' = false)

theorem IsName.solid (h : IsName name) : Solid brackets (name.toList ++ cs) := by
  obtain ⟨x, xs, chars⟩ := List.exists_cons_of_ne_nil h.nonempty
  rw [chars]
  exact solid_word (h.word x (by simp [chars]))

/-- The word at a name. -/
theorem word_name (h : IsName name) (ends : cs.head?.any isWordChar = false)
    (rest : c.rest = name.toList ++ cs) : c.word = name.toList :=
  word_append h.word h.nonempty h.letter ends rest

theorem skipped_solid (solid : Solid c.brackets c.rest) : c.skipped = c := by
  rw [Solid] at solid
  rw [Cursor.skipped, solid, Cursor.pass_zero]

theorem identifier_back {Q : String → Cursor → Prop} (h : IsName name)
    (ends : cs.head?.any isWordChar = false)
    (there : At brackets d (' ' :: name.toList ++ cs) c)
    (next : ∀ c', At brackets d cs c' → Q name c') : Ends identifier c Q E := by
  obtain ⟨at', rest⟩ := there.skipped h.solid
  have word : c.skipped.word = name.toList := word_name h ends rest
  rw [Ends.identifier_iff, word, String.ofList_toList]
  refine ⟨fun empty => absurd empty h.nonempty, fun _ => ⟨fun used => absurd used h.free, ?_⟩⟩
  intro _
  refine next _ ⟨at'.brackets, at'.depth, .inl ?_⟩
  rw [Cursor.rest_pass, rest]
  exact List.drop_left

theorem primary_var {whole : Parse Expr} {Q : Expr → Cursor → Prop} (h : IsName name)
    (ends : cs.head?.any isWordChar = false)
    (there : At brackets d (' ' :: name.toList ++ cs) c)
    (next : ∀ c', At brackets d cs c' → Q (.var name) c') : Ends (primary whole) c Q E := by
  obtain ⟨at', rest⟩ := there.skipped h.solid
  have word : c.skipped.word = name.toList := word_name h ends rest
  obtain ⟨x, xs, chars⟩ := List.exists_cons_of_ne_nil h.nonempty
  have start : c.skipped.rest.head? = some x := by
    rw [rest, List.cons_append, chars]
    rfl
  have isWord : isWordChar x := h.word x (by simp [chars])
  have letter : x.isDigit = false := by simpa [chars] using h.letter
  have ne (y : Char) (sign : isWordChar y = false) : x ≠ y := ne_of_isWordChar isWord sign
  have free (keyword : String) (isKeyword : keyword ∈ keywords) :
      name.toList ≠ keyword.toList := by
    intro same
    exact h.free (String.toList_inj.1 same ▸ isKeyword)
  have again : Ends identifier c.skipped (fun name c' => Q (.var name) c') E := by
    refine identifier_back h ends ⟨at'.brackets, at'.depth, .inr ?_⟩ next
    rw [rest]
    rfl
  have isTrue := free "true" (by decide)
  have isFalse := free "false" (by decide)
  have isNone := free "none" (by decide)
  simp at isTrue isFalse isNone
  simp [primary, start, letter, ne '"' (by decide), ne '\'' (by decide), ne '[' (by decide),
    ne '(' (by decide), word, isTrue, isFalse, isNone, h.nonempty, -Ends.identifier_iff]
  exact again

end Names

section Opening

variable {brackets strength p : Nat} {text tail : List Char} {c : Cursor} {E : Error → Prop}

theorem Opening.mono {looser : Nat} (h : Opening brackets strength text) (le : looser ≤ strength) :
    Opening brackets looser text := by
  cases h with
  | sign cs h => exact .sign cs h
  | minus cs loose => exact .minus cs (by omega)
  | denial cs loose => exact .denial cs (by omega)
  | constant h follows => exact .constant h follows
  | name isName follows => exact .name isName follows

theorem Opening.solid (h : Opening brackets strength text) : Solid brackets text := by
  cases h with
  | sign cs h =>
      rcases h with rfl | rfl | rfl | digit
      · exact solid_cons (by decide) (by decide)
      · exact solid_cons (by decide) (by decide)
      · exact solid_cons (by decide) (by decide)
      · exact solid_word (isWordChar_digit digit)
  | minus cs loose => exact solid_cons (by decide) (by decide)
  | denial cs loose => exact solid_cons (by decide) (by decide)
  | constant h follows => rcases h with rfl | rfl | rfl <;> exact solid_word (by decide)
  | name isName follows => exact isName.solid

/-- The word that a written expression starts with, if any, is the one of a denial, a constant, or a
name. -/
theorem Opening.word (h : Opening brackets strength text) (rest : c.rest = text) :
    c.word = [] ∨ (strength ≤ 3 ∧ c.word = ['n', 'o', 't']) ∨ c.word = ['t', 'r', 'u', 'e'] ∨
      c.word = ['f', 'a', 'l', 's', 'e'] ∨ c.word = ['n', 'o', 'n', 'e'] ∨
      (String.ofList c.word ∉ keywords ∧ ∃ cs, text = c.word ++ cs ∧
        ((∃ p, Follows brackets p cs) ∨ ∃ xs, cs = '(' :: xs)) := by
  cases h with
  | sign cs h =>
      refine .inl ?_
      rcases h with rfl | rfl | rfl | digit
      · exact word_sign rest (by decide)
      · exact word_sign rest (by decide)
      · exact word_sign rest (by decide)
      · rw [Cursor.word, if_pos]
        simpa [Cursor.startsWithChar, rest] using digit
  | minus cs loose => exact .inl (word_sign rest (by decide))
  | denial cs loose =>
      exact .inr (.inl ⟨loose, word_keyword (by decide) (rest.trans (by rfl))⟩)
  | constant h follows =>
      rcases h with rfl | rfl | rfl
      · have word := word_keyword_append (by decide) follows.ends rest
        simp [word]
      · have word := word_keyword_append (by decide) follows.ends rest
        simp [word]
      · have word := word_keyword_append (by decide) follows.ends rest
        simp [word]
  | name isName follows =>
      have word := word_name isName (ends_name follows) rest
      rw [word, String.ofList_toList]
      exact .inr (.inr (.inr (.inr (.inr ⟨isName.free, _, rfl, follows⟩))))

/-- The first character of a written expression. -/
theorem Opening.head (h : Opening brackets strength text) :
    ∃ x xs, text = x :: xs ∧
      (isWordChar x ∨ x = '"' ∨ x = '[' ∨ x = '(' ∨ (x = '-' ∧ strength ≤ 7)) := by
  cases h with
  | sign cs h =>
      refine ⟨_, cs, rfl, ?_⟩
      rcases h with rfl | rfl | rfl | digit
      · simp
      · simp
      · simp
      · exact .inl (isWordChar_digit digit)
  | minus cs loose => exact ⟨'-', cs, rfl, by simp [loose]⟩
  | denial cs loose => exact ⟨'n', _, rfl, .inl (by decide)⟩
  | constant h follows =>
      rcases h with rfl | rfl | rfl
      · exact ⟨'t', _, rfl, .inl (by decide)⟩
      · exact ⟨'f', _, rfl, .inl (by decide)⟩
      · exact ⟨'n', _, rfl, .inl (by decide)⟩
  | name isName follows =>
      obtain ⟨x, xs, chars⟩ := List.exists_cons_of_ne_nil isName.nonempty
      rw [chars]
      exact ⟨x, _, rfl, .inl (isName.word x (by simp [chars]))⟩

theorem Opening.not_startsWith (h : Opening brackets strength text) (rest : c.rest = text)
    {s : String} (sign : ∃ y ys, s.toList = y :: ys ∧ isWordChar y = false ∧
      y ≠ '"' ∧ y ≠ '[' ∧ y ≠ '(' ∧ (y = '-' → 8 ≤ strength)) : c.startsWith s = false := by
  obtain ⟨x, xs, rfl, first⟩ := h.head
  obtain ⟨y, ys, chars, notWord, notQuote, notList, notParen, notMinus⟩ := sign
  have differs : y ≠ x := by
    rintro rfl
    rcases first with word | rfl | rfl | rfl | ⟨rfl, loose⟩
    · rw [word] at notWord
      cases notWord
    · exact notQuote rfl
    · exact notList rfl
    · exact notParen rfl
    · have tight := notMinus rfl
      omega
  simp [Cursor.startsWith, rest, chars, List.isPrefixOf, differs]

/-- A tight expression does not open as a denial does. -/
theorem Opening.acceptNot {Q : Bool → Cursor → Prop} (h : Opening brackets strength text)
    (tight : 4 ≤ strength) (rest : c.rest = text) (next : Q false c) : Ends acceptNot c Q E := by
  have sign : c.startsWith "!" = false :=
    h.not_startsWith rest
      ⟨'!', [], by decide, by decide, by decide, by decide, by decide, fun minus => by cases minus⟩
  have word : c.word ≠ ['n', 'o', 't'] := by
    rcases h.word rest with word | ⟨loose, -⟩ | word | word | word | ⟨free, -⟩
    · simp [word]
    · omega
    · simp [word]
    · simp [word]
    · simp [word]
    · intro word
      rw [word] at free
      exact absurd free (by decide)
  simp [Script.acceptNot, sign, word, next]

end Opening

end Script

namespace Expr

open Script

variable {brackets : Nat} {tail : List Char}

/-- An operand, in parentheses where it is looser than it may be. -/
def operandChars (least : Nat) (e : Expr) : List Char := enclose (e.strength < least) e.chars

theorem chars_connect (op : Connective) (l r : Expr) (tail : List Char) :
    (connect op l r).chars ++ tail = l.operandChars op.strength ++
      (' ' :: op.symbol.toList ++ ' ' :: (r.operandChars (op.strength + 1) ++ tail)) := by
  simp [chars, operandChars]

theorem chars_binary (op : BinaryOp) (l r : Expr) (tail : List Char) :
    (binary op l r).chars ++ tail = l.operandChars op.strength ++
      (' ' :: op.symbol.toList ++ ' ' :: (r.operandChars (op.strength + 1) ++ tail)) := by
  simp [chars, operandChars]

theorem chars_index (target position : Expr) (tail : List Char) :
    (index target position).chars ++ tail =
      target.operandChars postfixStrength ++ ('[' :: (position.chars ++ ']' :: tail)) := by
  simp [chars, operandChars]

theorem chars_member (target : Expr) (name : String) (tail : List Char) :
    (member target name).chars ++ tail =
      target.operandChars postfixStrength ++ ('.' :: name.toList ++ tail) := by
  simp [chars, operandChars]

theorem chars_call (function : String) (args : List Expr) (tail : List Char) :
    (call function args).chars ++ tail =
      function.toList ++ ('(' :: (Text.joinWith [',', ' '] (listChars args) ++ ')' :: tail)) := by
  simp [chars]

theorem operandChars_loose {least : Nat} {e : Expr} (loose : e.strength < least) :
    e.operandChars least = '(' :: e.chars ++ [')'] := by
  simp [operandChars, enclose, loose]

theorem operandChars_tight {least : Nat} {e : Expr} (tight : least ≤ e.strength) :
    e.operandChars least = e.chars := by
  have notLoose : ¬e.strength < least := by omega
  simp [operandChars, enclose, notLoose]

/-- An operand in parentheses opens with one. -/
theorem opening_operand {least : Nat} {e : Expr}
    (h : Opening brackets e.strength (e.chars ++ tail)) :
    Opening brackets least (e.operandChars least ++ tail) := by
  by_cases loose : e.strength < least
  · rw [operandChars_loose loose]
    exact .sign _ (by simp)
  · rw [operandChars_tight (by omega)]
    exact h.mono (by omega)

theorem opening_literal {l : Literal} {p strength : Nat} (readable : l.IsReadable)
    (follows : Follows brackets p tail) : Opening brackets strength (l.chars ++ tail) := by
  cases l with
  | none => exact .constant (by simp [Literal.chars, Literal.value, Value.chars]) follows
  | bool b =>
      cases b with
      | false => exact .constant (by simp [Literal.chars, Literal.value, Value.chars]) follows
      | true => exact .constant (by simp [Literal.chars, Literal.value, Value.chars]) follows
  | int i =>
      have row := Decimal.isRow_natDigits i.toInt.toNat
      obtain ⟨y, ys, chars⟩ := List.exists_cons_of_ne_nil row.1
      rw [chars] at row
      rw [Literal.chars_int readable, chars]
      exact .sign _ (.inr (.inr (.inr (row.2 y (by simp)))))
  | float x =>
      obtain ⟨whole, fraction, hw, -, chars, -⟩ := readable
      obtain ⟨y, ys, rfl⟩ := List.exists_cons_of_ne_nil hw.1
      rw [chars]
      exact .sign _ (.inr (.inr (.inr (hw.2 y (by simp)))))
  | string s => exact .sign _ (.inl rfl)

/-- Every written expression opens in one of these ways. -/
theorem opening : ∀ {e : Expr}, e.IsLegible Literal.IsReadable →
    ∀ {p : Nat} {tail : List Char}, Follows brackets p tail →
    Opening brackets e.strength (e.chars ++ tail)
  | literal l, legible, _, _, follows => by
    rw [chars]
    exact opening_literal (by simpa using legible) follows
  | list items, _, _, _, _ => by
    rw [chars]
    exact .sign _ (by simp)
  | var name, legible, p, _, follows => by
    rw [chars]
    exact .name (by simpa using legible) (.inl ⟨p, follows⟩)
  | unary op e, _, _, _, _ => by
    cases op with
    | neg =>
        rw [chars]
        exact .minus _ (Nat.le_refl 7)
    | not =>
        rw [chars, List.append_assoc]
        exact .denial _ (Nat.le_refl 3)
  | connect op l r, legible, _, _, _ => by
    rw [isLegible_connect] at legible
    rw [chars_connect]
    exact opening_operand (opening legible.1 (.connective op _))
  | binary op l r, legible, _, _, _ => by
    rw [isLegible_binary] at legible
    rw [chars_binary]
    exact opening_operand (opening legible.1 (.operator op _))
  | call function args, legible, _, _, _ => by
    rw [isLegible_call] at legible
    rw [chars_call]
    exact .name legible.1 (.inr ⟨_, rfl⟩)
  | index target position, legible, _, _, _ => by
    rw [isLegible_index] at legible
    rw [chars_index]
    exact opening_operand (opening legible.1 (.position _))
  | member target name, legible, _, _, _ => by
    rw [isLegible_member] at legible
    rw [chars_member]
    exact opening_operand (opening legible.1 (.member _ legible.2))

end Expr

end Stencil
