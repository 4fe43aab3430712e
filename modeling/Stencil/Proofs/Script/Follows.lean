import Stencil.Proofs.Script.Legible
import Stencil.Proofs.Script.Ends
import Stencil.Script.Expr

/-!
# What follows an operand

Written expressions follow one another only in a few ways: what comes after an operand closes the
construct it stands in, or is an operator, an index or a member. `Follows` lists them with the
strength of what goes on there. A reader of another strength does not go on, and the reader of that
strength does.
-/

namespace Stencil.Script

/-- The cursor stands at a text, or behind the blank that the text starts with. -/
structure At (brackets depth : Nat) (text : List Char) (c : Cursor) : Prop where
  brackets : c.brackets = brackets
  depth : c.depth = depth
  rest : c.rest = text ∨ ' ' :: c.rest = text

/-- A text without the blank in front of it. -/
def unspaced : List Char → List Char
  | ' ' :: cs => cs
  | cs => cs

theorem unspaced_cases (text : List Char) :
    (∃ cs, text = ' ' :: cs) ∨ unspaced text = text := by
  unfold unspaced
  split
  · next cs => exact .inl ⟨cs, rfl⟩
  · exact .inr rfl

/-- Whether nothing is skipped in front of a text. -/
def Solid (brackets : Nat) (text : List Char) : Prop :=
  gapLength (if 0 < brackets then isSpaceOrBreak else isSpace) false text = 0

/-- What may follow an operand, and how strong what goes on there is. Nothing goes on at strength
zero. -/
inductive Follows (brackets : Nat) : Nat → List Char → Prop
  | closer {c : Char} (cs : List Char) (closes : c = ')' ∨ c = ']' ∨ c = ',') :
    Follows brackets 0 (c :: cs)
  | line (cs : List Char) (outside : brackets = 0) : Follows brackets 0 ('\n' :: cs)
  | brace (cs : List Char) : Follows brackets 0 (' ' :: '\x7b' :: cs)
  | connective (op : Connective) (cs : List Char) :
    Follows brackets op.strength (' ' :: op.symbol.toList ++ ' ' :: cs)
  | operator (op : BinaryOp) (cs : List Char) :
    Follows brackets op.strength (' ' :: op.symbol.toList ++ ' ' :: cs)
  | position (cs : List Char) : Follows brackets Expr.postfixStrength ('[' :: cs)
  | member {name : String} (cs : List Char) (isName : IsName name) :
    Follows brackets Expr.postfixStrength ('.' :: name.toList ++ cs)

/-- How what follows an operand starts, with the strength of what goes on there. -/
def continuations : List (Nat × List Char) :=
  [(0, [')']), (0, [']']), (0, [',']), (0, ['\n']), (0, ['\x7b']), (1, ['o', 'r', ' ']),
    (2, ['a', 'n', 'd', ' ']), (4, ['=', '=', ' ']), (4, ['!', '=', ' ']), (4, ['i', 'n', ' ']),
    (4, ['<', ' ']), (4, ['<', '=', ' ']), (4, ['>', ' ']), (4, ['>', '=', ' ']), (5, ['+', ' ']),
    (5, ['-', ' ']), (6, ['*', ' ']), (6, ['/', ' ']), (6, ['%', ' ']), (8, ['[']), (8, ['.'])]

/-- The strengths of what may start with a sign. -/
def strengthsOf (sign : String) : List Nat :=
  (continuations.filter fun s =>
    sign.toList.isPrefixOf s.2 || s.2.isPrefixOf sign.toList).map Prod.fst

section Words

variable {c : Cursor} {x : Char} {word cs : List Char}

theorem isWordChar_space : isWordChar ' ' = false := by decide

theorem ne_of_isWordChar {y : Char} (h : isWordChar x) (h' : isWordChar y = false) : x ≠ y := by
  rintro rfl
  rw [h] at h'
  cases h'

/-- A word ends where no character of a word follows. -/
theorem word_append (isWord : ∀ x ∈ word, isWordChar x) (nonempty : word ≠ [])
    (letter : word.head?.any Char.isDigit = false) (ends : cs.head?.any isWordChar = false)
    (h : c.rest = word ++ cs) : c.word = word := by
  obtain ⟨x, xs, rfl⟩ := List.exists_cons_of_ne_nil nonempty
  have first : x.isDigit = false := by simpa using letter
  have rest : cs.takeWhile isWordChar = [] := by
    cases cs with
    | nil => rfl
    | cons y ys =>
        have other : isWordChar y = false := by simpa using ends
        simp [other]
  rw [Cursor.word, h, if_neg (by simp [Cursor.startsWithChar, h, first]),
    List.takeWhile_append_of_pos isWord, rest, List.append_nil]

/-- Keywords are words. -/
theorem letters_keyword (isKeyword : String.ofList word ∈ keywords) :
    (∀ x ∈ word, isWordChar x) ∧ word ≠ [] ∧ word.head?.any Char.isDigit = false := by
  have letters : ∀ k ∈ keywords, k.toList.all isWordChar ∧ k.toList ≠ [] ∧
      k.toList.head?.any Char.isDigit = false := by
    decide
  have ⟨isWord, rest⟩ := letters _ isKeyword
  rw [String.toList_ofList] at isWord rest
  exact ⟨List.all_eq_true.1 isWord, rest⟩

/-- The word at a keyword. -/
theorem word_keyword_append (isKeyword : String.ofList word ∈ keywords)
    (ends : cs.head?.any isWordChar = false) (h : c.rest = word ++ cs) : c.word = word := by
  obtain ⟨isWord, nonempty, letter⟩ := letters_keyword isKeyword
  exact word_append isWord nonempty letter ends h

theorem word_keyword (isKeyword : String.ofList word ∈ keywords) (h : c.rest = word ++ ' ' :: cs) :
    c.word = word :=
  word_keyword_append isKeyword (by simp [isWordChar_space]) h

theorem word_sign (h : c.rest = x :: cs) (sign : isWordChar x = false) : c.word = [] := by
  rw [Cursor.word, h]
  split
  · rfl
  · simp [sign]

theorem solid_cons {brackets : Nat} (h : isSpaceOrBreak x = false) (h' : x ≠ '#') :
    Solid brackets (x :: cs) := by
  have blank : (if 0 < brackets then isSpaceOrBreak else isSpace) x = false := by
    split
    · exact h
    · rw [isSpaceOrBreak, Bool.or_eq_false_iff] at h
      exact h.1
  simp [Solid, gapLength, blank, h']

theorem solid_word {brackets : Nat} (h : isWordChar x) : Solid brackets (x :: cs) := by
  have ne (y : Char) (h' : isWordChar y = false) : x ≠ y := ne_of_isWordChar h h'
  refine solid_cons ?_ (ne '#' (by decide))
  simp [isSpaceOrBreak, isSpace, ne ' ' (by decide), ne '\t' (by decide), ne '\r' (by decide),
    ne '\n' (by decide)]

end Words

section Tails

variable {brackets d p : Nat} {text tail : List Char} {c : Cursor}

/-- Blanks are skipped up to the text. -/
theorem At.skipped (h : At brackets d text c) (solid : Solid brackets (unspaced text)) :
    At brackets d text c.skipped ∧ c.skipped.rest = unspaced text := by
  have gap : c.skipped.rest = unspaced text := by
    rw [Solid, ← h.brackets] at solid
    rw [Cursor.skipped, Cursor.rest_pass]
    rcases h.rest with same | passed
    · rw [same]
      rcases unspaced_cases text with ⟨cs, rfl⟩ | none
      · have blank : (if 0 < c.brackets then isSpaceOrBreak else isSpace) ' ' = true := by
          split <;> rfl
        rw [unspaced] at solid ⊢
        simp [gapLength, blank, solid]
      · rw [none] at solid ⊢
        simp [solid]
    · rw [← passed, unspaced] at solid
      rw [← passed, unspaced, solid, List.drop_zero]
  refine ⟨⟨h.brackets, h.depth, ?_⟩, gap⟩
  rw [gap]
  rcases unspaced_cases text with ⟨cs, rfl⟩ | none
  · exact .inr rfl
  · exact .inl none

/-- The same at an equal depth. -/
theorem At.cast {d' : Nat} (h : At brackets d text c) (same : d = d') : At brackets d' text c :=
  same ▸ h

/-- A cursor at a blank and a text has all of the text in front of it. -/
theorem At.length_le (h : At brackets d (' ' :: text) c) : text.length ≤ c.rest.length := by
  rcases h.rest with rest | rest
  · rw [rest]
    simp
  · rw [(List.cons.inj rest).2]

/-- Where a text starts with a character that is no blank, the cursor has passed none. -/
theorem At.rest_eq {x : Char} {cs : List Char} (h : At brackets d (x :: cs) c)
    (solid : x ≠ ' ') : c.rest = x :: cs := by
  rcases h.rest with rest | blank
  · exact rest
  · exact absurd (List.cons.inj blank).1.symm solid

theorem Follows.solid (h : Follows brackets p tail) : Solid brackets (unspaced tail) := by
  rcases h with ⟨cs, rfl | rfl | rfl⟩ | ⟨cs, rfl⟩ | ⟨cs⟩ | ⟨_ | _, cs⟩ |
    ⟨_ | _ | _ | (_ | _ | _ | _) | (_ | _ | _ | _ | _), cs⟩ | ⟨cs⟩ | ⟨cs, _⟩
  case line => simp [unspaced, Solid, gapLength, isSpace]
  all_goals exact solid_cons (by decide) (by decide)

theorem Follows.start (h : Follows brackets p tail) :
    ∃ start cs, (p, start) ∈ continuations ∧ unspaced tail = start ++ cs := by
  cases h with
  | closer cs closes =>
      rcases closes with rfl | rfl | rfl
      · exact ⟨[')'], cs, by decide, rfl⟩
      · exact ⟨[']'], cs, by decide, rfl⟩
      · exact ⟨[','], cs, by decide, rfl⟩
  | line cs => exact ⟨['\n'], cs, by decide, rfl⟩
  | brace cs => exact ⟨['\x7b'], cs, by decide, rfl⟩
  | connective op cs =>
      refine ⟨op.symbol.toList ++ [' '], cs, ?_, by simp [unspaced]⟩
      cases op <;> decide
  | operator op cs =>
      refine ⟨op.symbol.toList ++ [' '], cs, ?_, by simp [unspaced]⟩
      rcases op with _ | _ | _ | (_ | _ | _ | _) | (_ | _ | _ | _ | _) <;> decide
  | position cs => exact ⟨['['], cs, by decide, rfl⟩
  | member cs isName => exact ⟨['.'], _, by decide, rfl⟩

/-- What follows starts as one of the continuations with a sign does. -/
theorem Follows.start_of_startsWith (h : Follows brackets p tail) (rest : c.rest = unspaced tail)
    {sign : String} (found : c.startsWith sign) :
    ∃ start cs, (p, start) ∈ continuations ∧ c.rest = start ++ cs ∧
      (sign.toList <+: start ∨ start <+: sign.toList) := by
  obtain ⟨start, cs, mem, text⟩ := h.start
  have within : sign.toList <+: start ++ cs := by
    rw [← text, ← rest]
    simpa [Cursor.startsWith] using found
  exact ⟨start, cs, mem, rest.trans text,
    List.prefix_or_prefix_of_prefix within (List.prefix_append start cs)⟩

/-- Signs of other strengths do not follow. -/
theorem Follows.not_startsWith (h : Follows brackets p tail) (rest : c.rest = unspaced tail)
    {sign : String} {strengths : List Nat} (only : strengthsOf sign = strengths)
    (other : p ∉ strengths) : c.startsWith sign = false := by
  cases found : c.startsWith sign with
  | false => rfl
  | true =>
      obtain ⟨start, cs, mem, -, either⟩ := h.start_of_startsWith rest found
      have listed : p ∈ strengthsOf sign := by
        rw [strengthsOf, List.mem_map]
        exact ⟨(p, start), List.mem_filter.2 ⟨mem, by simpa using either⟩, rfl⟩
      rw [only] at listed
      exact absurd listed other

/-- Nor do they where the blank has not been passed. -/
theorem Follows.not_startsWith_unskipped (h : Follows brackets p tail) (there : At brackets d tail c)
    {sign : String} {strengths : List Nat} (only : strengthsOf sign = strengths)
    (other : p ∉ strengths) (solid : [' '].isPrefixOf sign.toList = false ∧ sign.toList ≠ []) :
    c.startsWith sign = false := by
  have cases_ : c.rest = unspaced tail ∨ c.rest = ' ' :: unspaced tail := by
    rcases there.rest with rest | rest
    · rcases unspaced_cases tail with ⟨cs, rfl⟩ | same
      · exact .inr rest
      · exact .inl (rest.trans same.symm)
    · rw [← rest]
      exact .inl rfl
  rcases cases_ with rest | rest
  · exact h.not_startsWith rest only other
  · obtain ⟨x, xs, chars⟩ := List.exists_cons_of_ne_nil solid.2
    have blank : x ≠ ' ' := by
      rintro rfl
      rw [chars] at solid
      simp at solid
    simp [Cursor.startsWith, rest, chars, List.isPrefixOf, blank]

/-- No word goes on where something follows. -/
theorem Follows.ends (h : Follows brackets p tail) : tail.head?.any isWordChar = false := by
  have sign {x : Char} {cs : List Char} (h : isWordChar x = false) :
      (x :: cs).head?.any isWordChar = false := by
    simp [h]
  rcases h with ⟨cs, rfl | rfl | rfl⟩ | _ | _ | _ | _ | _ | _ <;> exact sign (by decide)

/-- The only words that follow an operand are those of operators. -/
theorem Follows.word (h : Follows brackets p tail) (rest : c.rest = unspaced tail) :
    c.word = [] ∨ (p = 1 ∧ c.word = ['o', 'r']) ∨ (p = 2 ∧ c.word = ['a', 'n', 'd']) ∨
      (p = 4 ∧ c.word = ['i', 'n']) := by
  rcases h with ⟨cs, rfl | rfl | rfl⟩ | ⟨cs, _⟩ | ⟨cs⟩ | ⟨_ | _, cs⟩ |
    ⟨_ | _ | _ | (_ | _ | _ | _) | (_ | _ | _ | _ | _), cs⟩ | ⟨cs⟩ | ⟨cs, _⟩
  case connective.or => exact .inr (.inl ⟨rfl, word_keyword (by decide) rest⟩)
  case connective.and =>
    exact .inr (.inr (.inl ⟨rfl, word_keyword (by decide) rest⟩))
  case operator.isIn =>
    exact .inr (.inr (.inr ⟨rfl, word_keyword (by decide) rest⟩))
  all_goals exact .inl (word_sign rest (by decide))

variable {whole : Parse Expr} {e : Expr}

/-- A step that adds nothing, and passes at most a blank. -/
abbrev Stops (brackets : Nat) (tail : List Char) (p : Parse (Option Expr)) : Prop :=
  ∀ d c, At brackets d tail c →
    Ends p c (fun r c' => r = none ∧ At brackets d tail c') fun _ => False

theorem moreFilters_stops (h : Follows brackets p tail) :
    Stops brackets tail (moreFilters whole e) := by
  intro d c there
  obtain ⟨there, rest⟩ := there.skipped h.solid
  have noBar := h.not_startsWith rest (by decide : strengthsOf "|" = []) (by simp)
  simp [moreFilters, there, noBar]

theorem moreDisjuncts_stops (h : Follows brackets p tail) (other : p ≠ 1) :
    Stops brackets tail (moreDisjuncts whole e) := by
  intro d c there
  obtain ⟨there, rest⟩ := there.skipped h.solid
  have word : c.skipped.word ≠ ['o', 'r'] := by
    rcases h.word rest with word | ⟨strength, -⟩ | ⟨-, word⟩ | ⟨-, word⟩
    · simp [word]
    · exact absurd strength other
    · simp [word]
    · simp [word]
  have noSign := h.not_startsWith rest (by decide : strengthsOf "||" = []) (by simp)
  simp [moreDisjuncts, acceptEither, there, noSign, word]

theorem moreConjuncts_stops (h : Follows brackets p tail) (other : p ≠ 2) :
    Stops brackets tail (moreConjuncts whole e) := by
  intro d c there
  obtain ⟨there, rest⟩ := there.skipped h.solid
  have word : c.skipped.word ≠ ['a', 'n', 'd'] := by
    rcases h.word rest with word | ⟨-, word⟩ | ⟨strength, -⟩ | ⟨-, word⟩
    · simp [word]
    · simp [word]
    · exact absurd strength other
    · simp [word]
  have noSign := h.not_startsWith rest (by decide : strengthsOf "&&" = []) (by simp)
  simp [moreConjuncts, acceptEither, there, noSign, word]

theorem moreTerms_stops (h : Follows brackets p tail) (other : p ≠ 5) :
    Stops brackets tail (moreTerms whole e) := by
  intro d c there
  obtain ⟨there, rest⟩ := there.skipped h.solid
  have noAssign := h.not_startsWith rest (by decide : strengthsOf "+=" = []) (by simp)
  have noAssign' := h.not_startsWith rest (by decide : strengthsOf "-=" = []) (by simp)
  have noPlus := h.not_startsWith rest (by decide : strengthsOf "+" = [5]) (by simpa using other)
  have noMinus := h.not_startsWith rest (by decide : strengthsOf "-" = [5]) (by simpa using other)
  simp [moreTerms, there, noAssign, noAssign', noPlus, noMinus]

/-- What follows an operand is no argument list. -/
theorem Follows.not_call (h : Follows brackets p tail) (there : At brackets d tail c) :
    c.startsWith "(" = false :=
  h.not_startsWith_unskipped there (by decide : strengthsOf "(" = []) (by simp) (by decide)

theorem trailer_stops (h : Follows brackets p tail) (other : p ≠ 8) :
    Stops brackets tail (trailer whole e) := by
  intro d c there
  have noCall := h.not_call there
  have noIndex := h.not_startsWith_unskipped there (by decide : strengthsOf "[" = [8])
    (by simpa using other) (by decide)
  have noPoint := h.not_startsWith_unskipped there (by decide : strengthsOf "." = [8])
    (by simpa using other) (by decide)
  simp [trailer, there, noCall, noIndex, noPoint]

theorem compared_stops (h : Follows brackets p tail) (other : p ≠ 4) (there : At brackets d tail c) :
    Ends (compared whole e) c (fun r c' => r = e ∧ At brackets d tail c') fun _ => False := by
  obtain ⟨there, rest⟩ := there.skipped h.solid
  have notKeyword : c.skipped.word ≠ ['n', 'o', 't'] := by
    rcases h.word rest with word | ⟨-, word⟩ | ⟨-, word⟩ | ⟨-, word⟩ <;> simp [word]
  have inKeyword : c.skipped.word ≠ ['i', 'n'] := by
    rcases h.word rest with word | ⟨-, word⟩ | ⟨-, word⟩ | ⟨strength, -⟩
    · simp [word]
    · simp [word]
    · simp [word]
    · exact absurd strength other
  have noEq := h.not_startsWith rest (by decide : strengthsOf "==" = [4]) (by simpa using other)
  have noNe := h.not_startsWith rest (by decide : strengthsOf "!=" = [4]) (by simpa using other)
  have noLe := h.not_startsWith rest (by decide : strengthsOf "<=" = [4]) (by simpa using other)
  have noGe := h.not_startsWith rest (by decide : strengthsOf ">=" = [4]) (by simpa using other)
  have noLt := h.not_startsWith rest (by decide : strengthsOf "<" = [4, 4]) (by simpa using other)
  have noGt := h.not_startsWith rest (by decide : strengthsOf ">" = [4, 4]) (by simpa using other)
  simp [compared, acceptNotIn, relation?, there, notKeyword, inKeyword, noEq, noNe, noLe, noGe,
    noLt, noGt]

theorem moreFactors_stops (h : Follows brackets p tail) (other : p ≠ 6) :
    Stops brackets tail (moreFactors whole e) := by
  intro d c there
  obtain ⟨there, rest⟩ := there.skipped h.solid
  have noStar := h.not_startsWith rest (by decide : strengthsOf "*" = [6]) (by simpa using other)
  have noSlash := h.not_startsWith rest (by decide : strengthsOf "/" = [6]) (by simpa using other)
  have noPercent := h.not_startsWith rest (by decide : strengthsOf "%" = [6]) (by simpa using other)
  simp [moreFactors, there, noStar, noSlash, noPercent]

end Tails

section Levels

/-- The reader of what binds at least as tight as a strength. Only the readers of negations use the
fuel. -/
def readAt (whole : Parse Expr) (fuel : Nat) : Nat → Parse Expr
  | 0 => filtered whole
  | 1 => disjunction whole
  | 2 => conjunction whole
  | 3 => denied whole fuel
  | 4 => comparison whole
  | 5 => sum whole
  | 6 => product whole
  | 7 => negated whole fuel
  | _ => trailed whole

/-- The step that goes on at a strength. Where the grammar has no repetition there is none. -/
def stepAt (whole : Parse Expr) : Nat → Expr → Parse (Option Expr)
  | 0 => moreFilters whole
  | 1 => moreDisjuncts whole
  | 2 => moreConjuncts whole
  | 5 => moreTerms whole
  | 6 => moreFactors whole
  | 8 => trailer whole
  | _ => fun _ => return none

variable {brackets d p : Nat} {tail cs : List Char} {c : Cursor} {whole : Parse Expr} {e : Expr}
variable {E : Error → Prop}

/-- A step goes on at its own strength only. -/
theorem stepAt_stops (h : Follows brackets p tail) {strength : Nat}
    (other : strength = 0 ∨ p ≠ strength) : Stops brackets tail (stepAt whole strength e) := by
  have idle : Stops brackets tail (return none) := by
    intro d c there
    simpa using there
  unfold stepAt
  split
  · exact moreFilters_stops h
  · exact moreDisjuncts_stops h (by simpa using other)
  · exact moreConjuncts_stops h (by simpa using other)
  · exact moreTerms_stops h (by simpa using other)
  · exact moreFactors_stops h (by simpa using other)
  · exact trailer_stops h (by simpa using other)
  · exact idle

/-- Building on an expression ends where no step goes on. -/
theorem extend_stops {step : Expr → Parse (Option Expr)} {Q : Expr → Cursor → Prop} {fuel : Nat}
    (stops : Stops brackets tail (step e)) (there : At brackets d tail c)
    (enough : fuel = 0 → ∀ err, E err) (next : ∀ c', At brackets d tail c' → Q e c') :
    Ends (extend step fuel e) c Q E := by
  cases fuel with
  | zero => simp [extend, enough rfl]
  | succ fuel =>
      rw [extend, Ends.bind_iff]
      refine (stops d c there).mono ?_ fun _ => False.elim
      rintro _ c' ⟨rfl, there⟩
      simpa using next c' there

theorem stepAt_connective {Q : Option Expr → Cursor → Prop} (op : Connective)
    (there : At brackets d (' ' :: op.symbol.toList ++ ' ' :: cs) c)
    (refused : maxDepth ≤ d → ∀ err, err.defect = .nestedTooDeeply → E err)
    (next : d < maxDepth → ∀ c', At brackets (d + 1) (' ' :: cs) c' →
      Ends (readAt whole (maxDepth + 1) (op.strength + 1)) c'
        (fun r c'' => Q (some (.connect op e r)) c'') E) :
    Ends (stepAt whole op.strength e) c Q E := by
  have follows : Follows brackets op.strength (' ' :: op.symbol.toList ++ ' ' :: cs) :=
    .connective op cs
  obtain ⟨there, rest⟩ := there.skipped follows.solid
  have noOr := follows.not_startsWith rest (by decide : strengthsOf "||" = []) (by simp)
  have noAnd := follows.not_startsWith rest (by decide : strengthsOf "&&" = []) (by simp)
  have atDepth : c.depth = d := there.depth
  have moved (n : Nat) (h : c.skipped.rest.drop n = ' ' :: cs) :
      At brackets (d + 1) (' ' :: cs) { c.skipped.pass n with depth := d + 1 } :=
    ⟨there.brackets, rfl, .inl h⟩
  cases op with
  | or =>
      have word : c.skipped.word = ['o', 'r'] := word_keyword (by decide) rest
      show Ends (moreDisjuncts whole e) c Q E
      simp [moreDisjuncts, acceptEither, noOr, word, rightOperand, atDepth]
      exact ⟨fun full => refused full _ rfl,
        fun more => next more _ (moved 2 (by rw [rest]; rfl))⟩
  | and =>
      have word : c.skipped.word = ['a', 'n', 'd'] := word_keyword (by decide) rest
      show Ends (moreConjuncts whole e) c Q E
      simp [moreConjuncts, acceptEither, noAnd, word, rightOperand, atDepth]
      exact ⟨fun full => refused full _ rfl,
        fun more => next more _ (moved 3 (by rw [rest]; rfl))⟩

theorem stepAt_arith {Q : Option Expr → Cursor → Prop} (op : Arithmetic)
    (there : At brackets d (' ' :: op.symbol.toList ++ ' ' :: cs) c)
    (refused : maxDepth ≤ d → ∀ err, err.defect = .nestedTooDeeply → E err)
    (next : d < maxDepth → ∀ c', At brackets (d + 1) (' ' :: cs) c' →
      Ends (readAt whole (maxDepth + 1) ((BinaryOp.arith op).strength + 1)) c'
        (fun r c'' => Q (some (.binary (.arith op) e r)) c'') E) :
    Ends (stepAt whole (BinaryOp.arith op).strength e) c Q E := by
  have follows : Follows brackets (BinaryOp.arith op).strength
      (' ' :: op.symbol.toList ++ ' ' :: cs) := .operator (.arith op) cs
  obtain ⟨there, rest⟩ := there.skipped follows.solid
  have atDepth : c.depth = d := there.depth
  cases op with
  | add | sub =>
      show Ends (moreTerms whole e) c Q E
      simp [moreTerms, rightOperand, Cursor.startsWith, rest, unspaced, List.isPrefixOf,
        Arithmetic.symbol, atDepth]
      exact ⟨fun full => refused full _ rfl, fun more => next more _ ⟨there.brackets, rfl, .inl rfl⟩⟩
  | mul | div | rem =>
      show Ends (moreFactors whole e) c Q E
      simp [moreFactors, rightOperand, Cursor.startsWith, rest, unspaced, List.isPrefixOf,
        Arithmetic.symbol, atDepth]
      exact ⟨fun full => refused full _ rfl, fun more => next more _ ⟨there.brackets, rfl, .inl rfl⟩⟩

theorem compared_operator {Q : Expr → Cursor → Prop} {op : BinaryOp} (compares : op.strength = 4)
    (there : At brackets d (' ' :: op.symbol.toList ++ ' ' :: cs) c)
    (next : ∀ c', At brackets d (' ' :: cs) c' →
      Ends (sum whole) c' (fun r c'' => Q (.binary op e r) c'') E) :
    Ends (compared whole e) c Q E := by
  have follows : Follows brackets op.strength (' ' :: op.symbol.toList ++ ' ' :: cs) :=
    .operator op cs
  obtain ⟨there, rest⟩ := there.skipped follows.solid
  have sign {x : Char} {xs : List Char} (rest : c.skipped.rest = x :: xs)
      (sign : isWordChar x = false) : c.skipped.word = [] := word_sign rest sign
  simp [compared, acceptNotIn, relation?]
  generalize c.skipped = d' at there rest sign
  have goes {n : Nat} (h : d'.rest.drop n = ' ' :: cs) :
      Ends (sum whole) (d'.pass n) (fun r c'' => Q (.binary op e r) c'') E :=
    next _ ⟨there.brackets, there.depth, .inl h⟩
  cases op with
  | eq =>
      simp [sign rest (by decide), Cursor.startsWith, rest, unspaced, BinaryOp.symbol]
      exact goes (by rw [rest]; rfl)
  | ne =>
      simp [sign rest (by decide), Cursor.startsWith, rest, unspaced, List.isPrefixOf,
        BinaryOp.symbol]
      exact goes (by rw [rest]; rfl)
  | isIn =>
      have word : d'.word = ['i', 'n'] := word_keyword (by decide) rest
      simp [word, Cursor.startsWith, rest, unspaced, List.isPrefixOf, BinaryOp.symbol]
      exact goes (by rw [rest]; rfl)
  | compare relation =>
      cases relation <;>
        simp [sign rest (by decide), Cursor.startsWith, rest, unspaced, List.isPrefixOf,
          BinaryOp.symbol, Comparison.symbol] <;>
        exact goes (by rw [rest]; rfl)
  | arith op => cases op <;> cases compares

end Levels

end Stencil.Script
