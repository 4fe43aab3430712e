import Stencil.Proofs.Script.Alike

/-!
# Terms that nothing follows

A term behind which no operator goes on is taken for the same expression by all readers, from the
tightest operator to a complete expression. If it is a whole text, it is what the text is read as.
-/

namespace Stencil.Script

/-- What stands behind an operand: nothing, or what no operator starts with. -/
inductive Idle : List Char → Prop
  | nil : Idle []
  | comma (cs : List Char) : Idle (',' :: cs)
  | bar (cs : List Char) : Idle ('|' :: ' ' :: cs)

/-- The reader yields `e`, and but for blanks stops in front of `tail`, or it fails with an error
that satisfies `E`. -/
def Settles (p : Parse Expr) (c : Cursor) (e : Expr) (tail : List Char) (E : Error → Prop) : Prop :=
  Ends p c (fun e' c' => e' = e ∧ c'.skipped.rest = tail ∧ c'.brackets = c.brackets) E

/-- The step adds nothing in front of `tail`. -/
def StopsAt (tail : List Char) (step : Parse (Option Expr)) : Prop :=
  ∀ c : Cursor, c.skipped.rest = tail →
    Ends step c (fun r c' => r = none ∧ c'.skipped.rest = tail ∧ c'.brackets = c.brackets)
      fun _ => False

section Idle

variable {tail : List Char} {whole p : Parse Expr} {e : Expr} {c : Cursor} {E : Error → Prop}

theorem Settles.extend {step : Expr → Parse (Option Expr)} (h : Settles p c e tail E)
    (stops : StopsAt tail (step e)) (fuel : Nat) :
    Settles (do Script.extend step (fuel + 1) (← p)) c e tail E := by
  rw [Settles, Ends.bind_iff]
  refine Ends.imp h ?_
  rintro _ c' ⟨rfl, rest, brackets⟩
  rw [Script.extend, Ends.bind_iff]
  refine (stops c' rest).mono ?_ fun _ => False.elim
  rintro _ c'' ⟨rfl, rest', brackets'⟩
  exact ⟨rfl, rest', brackets'.trans brackets⟩

theorem word_idle (idle : Idle tail) (rest : c.rest = tail) : c.word = [] := by
  cases idle with
  | nil => simp [Cursor.word, rest]
  | comma cs => exact word_sign rest (by decide)
  | bar cs => exact word_sign rest (by decide)

theorem moreFactors_stopsAt (idle : Idle tail) : StopsAt tail (moreFactors whole e) := by
  intro c rest
  cases idle <;> simp [moreFactors, Cursor.startsWith, rest]

theorem moreTerms_stopsAt (idle : Idle tail) : StopsAt tail (moreTerms whole e) := by
  intro c rest
  cases idle <;> simp [moreTerms, Cursor.startsWith, rest, List.isPrefixOf]

theorem moreConjuncts_stopsAt (idle : Idle tail) : StopsAt tail (moreConjuncts whole e) := by
  intro c rest
  have word := word_idle idle rest
  cases idle <;> simp [moreConjuncts, acceptEither, Cursor.startsWith, rest, word, List.isPrefixOf]

theorem moreDisjuncts_stopsAt (idle : Idle tail) : StopsAt tail (moreDisjuncts whole e) := by
  intro c rest
  have word := word_idle idle rest
  cases idle <;> simp [moreDisjuncts, acceptEither, Cursor.startsWith, rest, word, List.isPrefixOf]

theorem moreFilters_stopsAt (loose : tail = [] ∨ ∃ cs, tail = ',' :: cs) :
    StopsAt tail (moreFilters whole e) := by
  intro c rest
  rcases loose with rfl | ⟨cs, rfl⟩ <;> simp [moreFilters, Cursor.startsWith, rest]

/-- A sign behind blanks starts nothing directly either. -/
theorem not_startsWith_idle (idle : Idle tail) (rest : c.skipped.rest = tail) {x : Char}
    {sign : String} (chars : sign.toList = [x]) (solid : isSpaceOrBreak x = false)
    (other : x ≠ '#' ∧ x ≠ ',' ∧ x ≠ '|') : c.startsWith sign = false := by
  refine Bool.eq_false_iff.2 fun found => ?_
  rw [Cursor.startsWith_one chars, beq_iff_eq] at found
  obtain ⟨cs, start⟩ := List.head?_eq_some_iff.1 found
  rw [skipped_solid (by rw [start]; exact solid_cons solid other.1), start] at rest
  subst rest
  cases idle with
  | comma => exact other.2.1 rfl
  | bar => exact other.2.2 rfl

theorem trailer_stopsAt (idle : Idle tail) : StopsAt tail (trailer whole e) := by
  intro c rest
  have noCall : c.startsWith "(" = false := not_startsWith_idle idle rest rfl rfl (by decide)
  have noIndex : c.startsWith "[" = false := not_startsWith_idle idle rest rfl rfl (by decide)
  have noPoint : c.startsWith "." = false := not_startsWith_idle idle rest rfl rfl (by decide)
  simp [trailer, noCall, noIndex, noPoint, rest]

theorem compared_settles (idle : Idle tail) (rest : c.skipped.rest = tail) :
    Settles (compared whole e) c e tail E := by
  have word := word_idle idle rest
  cases idle <;>
    simp [Settles, compared, acceptNotIn, relation?, Cursor.startsWith, rest, word, List.isPrefixOf]

/-- The cursor stands at what opens neither a denial nor with a minus sign. -/
structure Plain (c : Cursor) : Prop where
  solid : c.skipped = c
  minus : c.startsWith "-" = false
  sign : c.startsWith "!" = false
  word : c.word ≠ ['n', 'o', 't']

/-- A term in front of no operator is a disjunction. -/
theorem disjunction_settles (plain : Plain c) (idle : Idle tail)
    (h : Settles (trailed whole) c e tail E) : Settles (disjunction whole) c e tail E := by
  have factor : Settles (factor whole) c e tail E := by
    simpa [Settles, Script.factor, negated, plain.solid, plain.minus] using h
  have product : Settles (product whole) c e tail E := factor.extend (moreFactors_stopsAt idle) _
  have sum : Settles (sum whole) c e tail E := product.extend (moreTerms_stopsAt idle) _
  have comparison : Settles (comparison whole) c e tail E := by
    rw [Settles, Script.comparison, Ends.bind_iff]
    refine Ends.imp sum ?_
    rintro _ c' ⟨rfl, rest, brackets⟩
    refine Ends.imp (compared_settles idle rest) ?_
    rintro _ c'' ⟨rfl, rest', brackets'⟩
    exact ⟨rfl, rest', brackets'.trans brackets⟩
  have conjunct : Settles (conjunct whole) c e tail E := by
    simpa [Settles, Script.conjunct, denied, acceptNot, plain.solid, plain.sign, plain.word]
      using comparison
  have conjunction : Settles (conjunction whole) c e tail E :=
    conjunct.extend (moreConjuncts_stopsAt idle) _
  exact conjunction.extend (moreDisjuncts_stopsAt idle) _

/-- A term that no filter follows is a complete expression. -/
theorem filtered_settles (plain : Plain c) (loose : tail = [] ∨ ∃ cs, tail = ',' :: cs)
    (h : Settles (trailed whole) c e tail E) : Settles (filtered whole) c e tail E := by
  have idle : Idle tail := by
    rcases loose with rfl | ⟨cs, rfl⟩
    · exact .nil
    · exact .comma cs
  exact (disjunction_settles plain idle h).extend (moreFilters_stopsAt loose) _

end Idle

/-! ### Where a term starts -/

section Plain

variable {c : Cursor} {cs : List Char} {name : String}

theorem plain_paren (rest : c.rest = '(' :: cs) : Plain c := by
  refine ⟨skipped_solid ?_, ?_, ?_, ?_⟩
  · rw [rest]
    exact solid_cons (by decide) (by decide)
  · exact Cursor.startsWith_of_rest rest "-"
  · exact Cursor.startsWith_of_rest rest "!"
  · rw [word_sign rest (by decide)]
    decide

theorem plain_name (isName : IsName name) (ends : cs.head?.any isWordChar = false)
    (rest : c.rest = name.toList ++ cs) : Plain c := by
  obtain ⟨x, xs, chars⟩ := List.exists_cons_of_ne_nil isName.nonempty
  have isWord : isWordChar x := isName.word x (by simp [chars])
  refine ⟨skipped_solid ?_, ?_, ?_, ?_⟩
  · rw [rest]
    exact isName.solid
  · simp [Cursor.startsWith, rest, chars, List.isPrefixOf,
      (ne_of_isWordChar isWord (by decide : isWordChar '-' = false)).symm]
  · simp [Cursor.startsWith, rest, chars, List.isPrefixOf,
      (ne_of_isWordChar isWord (by decide : isWordChar '!' = false)).symm]
  · rw [word_name isName ends rest]
    intro same
    have keyword : name = "not" := String.toList_inj.1 same
    exact isName.free (keyword ▸ by decide)

theorem plain_digit {x : Char} (digit : x.isDigit) (rest : c.rest = x :: cs) : Plain c := by
  have isWord := isWordChar_digit digit
  refine ⟨skipped_solid ?_, ?_, ?_, ?_⟩
  · rw [rest]
    exact solid_word isWord
  · simp [Cursor.startsWith, rest, List.isPrefixOf,
      (ne_of_isWordChar isWord (by decide : isWordChar '-' = false)).symm]
  · simp [Cursor.startsWith, rest, List.isPrefixOf,
      (ne_of_isWordChar isWord (by decide : isWordChar '!' = false)).symm]
  · simp [Cursor.word, Cursor.startsWithChar, rest, digit]

/-- A sign that is in front of a term opens none itself. -/
theorem primary_sign {whole : Parse Expr} {x : Char} (solid : c.skipped = c)
    (rest : c.rest = x :: cs) (sign : isWordChar x = false)
    (opens : x ∉ ['"', '\'', '[', '(']) :
    Yields (primary whole) c fun _ _ => False := by
  have digit : x.isDigit = false :=
    Bool.eq_false_iff.2 fun digit => Bool.eq_false_iff.1 sign (isWordChar_digit digit)
  have word : c.word = [] := word_sign rest sign
  simp only [List.mem_cons, List.not_mem_nil, or_false, not_or] at opens
  obtain ⟨quote, quote', list, group⟩ := opens
  simp only [primary, Yields.bind_iff, Yields.skipSpace_iff, Yields.look_iff, solid, rest,
    List.head?_cons, digit, beq_eq_false_iff_ne.2 quote, beq_eq_false_iff_ne.2 quote',
    beq_eq_false_iff_ne.2 list, beq_eq_false_iff_ne.2 group, Bool.or_false, Bool.false_eq_true,
    if_false]
  simp [solid, word]

/-- Nothing else is read as a term. -/
theorem primary_plain {whole : Parse Expr} (solid : c.skipped = c) :
    Yields (primary whole) c fun _ _ => Plain c := by
  by_cases minus : c.startsWith "-"
  · obtain ⟨cs, rest⟩ := Cursor.rest_of_startsWith_one rfl minus
    exact (primary_sign solid rest (by decide) (by decide)).mono fun _ _ => False.elim
  by_cases sign : c.startsWith "!"
  · obtain ⟨cs, rest⟩ := Cursor.rest_of_startsWith_one rfl sign
    exact (primary_sign solid rest (by decide) (by decide)).mono fun _ _ => False.elim
  by_cases word : c.word = ['n', 'o', 't']
  · obtain ⟨cs, rest⟩ := Cursor.rest_of_word (word ▸ by decide : c.word ≠ [])
    rw [word] at rest
    simp [primary, solid, rest, word, keywords]
  · exact fun _ _ _ => ⟨solid, Bool.eq_false_iff.2 minus, Bool.eq_false_iff.2 sign, word⟩

end Plain

/-! ### Whole texts -/

/-- The cursor at the complete expression that is a whole text. -/
def Cursor.opening (text : List Char) : Cursor :=
  { Cursor.skipped { Cursor.start text with brackets := 1 } with depth := 1 }

/-- An expression that is a whole text is what its reader takes all of the text for. -/
theorem Settles.readExpression {text : List Char} {e : Expr} {E : Error → Prop}
    (h : Settles (filtered (expressionWithin maxDepth)) (.opening text) e [] E) :
    Script.readExpression text = .ok e ∨
      ∃ err, Script.readExpression text = .error err ∧ E err := by
  have ends : Ends (bracketed do
      skipSpace
      let e ← expression
      expectEnd
      return e) (.start text) (fun r _ => r = e) E := by
    simp only [Ends.bracketed_iff, Ends.bind_iff, Ends.skipSpace_iff, Ends.expectEnd_iff,
      Ends.pure_iff, expression, expressionWithin, Ends.keepingDepth_iff, Ends.descend_iff]
    have start : ¬maxDepth ≤ 0 := by decide
    refine ⟨fun full => absurd full start, fun _ => ?_⟩
    refine Ends.imp h ?_
    rintro _ c' ⟨rfl, rest, brackets⟩
    have inside : 0 < c'.brackets := by
      rw [brackets]
      exact Nat.one_pos
    rw [Cursor.skipped, if_pos inside, Cursor.rest_pass] at rest
    exact ⟨fun _ => rfl, fun more => absurd rest more⟩
  rcases Ends.of_run (P := fun r => r = e) ends with ⟨r, read, rfl⟩ | refused
  · exact .inl read
  · exact .inr refused

/-- A single term that is a whole text is what the text is read as. -/
theorem readExpression_primary {text : List Char} {e : Expr}
    (plain : Plain ⟨text, .start, 1, 1⟩)
    (h : Ends (primary (expressionWithin maxDepth)) ⟨text, .start, 1, 1⟩
      (fun e' c' => e' = e ∧ At 1 1 [] c') fun _ => False) :
    Script.readExpression text = .ok e := by
  have opening : Cursor.opening text = ⟨text, .start, 1, 1⟩ := plain.solid
  have alone : Settles (primary (expressionWithin maxDepth)) (.opening text) e []
      fun _ => False := by
    rw [opening]
    refine Ends.imp h ?_
    rintro _ c' ⟨rfl, there⟩
    exact ⟨rfl, (there.skipped rfl).2, there.brackets⟩
  have trailed : Settles (trailed (expressionWithin maxDepth)) (.opening text) e []
      fun _ => False := alone.extend (trailer_stopsAt .nil) maxDepth
  rcases (filtered_settles (opening ▸ plain) (.inl rfl) trailed).readExpression with
    read | ⟨_, _, impossible⟩
  · exact read
  · cases impossible

end Stencil.Script
