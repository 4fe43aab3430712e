import Stencil.Proofs.Script.Breaks
import Stencil.Proofs.Script.Idle

/-!
# Three spellings of a call

A filter, a method and a function in front of its arguments spell the same call. The first argument
and the others are read at different strengths in the three, in more or fewer brackets, and in front
of different texts; what they are read as is the same.
-/

namespace Stencil.Script

inductive Spelling where
  | filter
  | method
  | function
deriving DecidableEq

/-- The text of a call. The first argument stands in parentheses, and a line breaks behind it and
behind the others, since a comment may end them. -/
def Spelling.text (subject name args : List Char) : Spelling → List Char
  | filter => '(' :: (subject ++ '\n' :: ')' :: ' ' :: '|' :: ' ' ::
      (name ++ '(' :: (args ++ ['\n', ')'])))
  | method => '(' :: (subject ++ '\n' :: ')' :: '.' :: (name ++ '(' :: (args ++ ['\n', ')'])))
  | function => name ++ '(' :: '(' :: (subject ++ '\n' :: ')' :: ',' :: ' ' ::
      (args ++ ['\n', ')']))

/-! ### What a call is made of -/

section Parts

variable {subject args cs tail : List Char} {name : String} {e : Expr} {es : List Expr}
variable {c : Cursor} {levels : Nat}

/-- Arguments are items in parentheses. -/
theorem arguments_of_items (rest : c.rest = '(' :: cs)
    (inside : ItemsReach levels (cs.length + 1)
      { c.pass 1 with brackets := c.brackets + 1 } es tail) :
    Reaches (arguments (expressionWithin levels)) c es tail := by
  have opens : c.startsWith "(" := Cursor.startsWith_of_rest rest "("
  have length : (c.pass "(".length).rest.length = cs.length :=
    congrArg List.length (Cursor.rest_pass_one rest)
  simp only [Reaches, arguments, sequence, Ends.bind_iff, Ends.expect_iff, Ends.bracketed_iff,
    Ends.look_iff, Ends.skipSpace_iff, Ends.pure_iff, length]
  refine ⟨fun _ => ?_, fun missing => absurd (missing.symm.trans opens) (by decide)⟩
  refine Ends.imp inside ?_
  rintro _ c' ⟨rfl, rest'⟩
  have closes : Cursor.startsWith { c'.skipped with brackets := c.brackets } ")" :=
    Cursor.startsWith_of_rest rest' ")"
  exact ⟨fun _ => ⟨rfl, Cursor.rest_pass_one rest', rfl⟩,
    fun missing => absurd (missing.symm.trans closes) (by decide)⟩

/-- The arguments, from their opening bracket on. -/
theorem arguments_reaches (levels : Nat)
    (lists : readExpression ('[' :: (args ++ ['\n', ']'])) = .ok (.list es))
    (rest : c.rest = '(' :: (args ++ '\n' :: ')' :: tail)) :
    Reaches (arguments (expressionWithin levels)) c es tail := by
  refine arguments_of_items rest (items_reach (Nat.succ_pos _) ?_ lists _ _)
  exact Cursor.rest_pass_one rest

/-- The first argument in its parentheses, as a term. -/
theorem primary_reaches (levels : Nat) (reads : readExpression subject = .ok e)
    (inside : 0 < c.brackets) (rest : c.rest = '(' :: (subject ++ '\n' :: ')' :: tail)) :
    Reaches (primary (expressionWithin levels)) c e tail := by
  have solid := (plain_paren rest).solid
  have enclosed : Reaches (enclosed (expressionWithin levels) ")") (c.pass 1) e tail :=
    enclosed_reaches reads levels inside (Cursor.rest_pass_one rest)
  simpa [Reaches, primary, solid, rest] using enclosed

/-- The name of a function, behind which its arguments are read. -/
theorem identifier_called {Q : String → Cursor → Prop} (levels : Nat) (isName : IsName name)
    (lists : readExpression ('[' :: (args ++ ['\n', ']'])) = .ok (.list es))
    (rest : c.rest = name.toList ++ '(' :: (args ++ '\n' :: ')' :: tail) ∨
      c.rest = ' ' :: (name.toList ++ '(' :: (args ++ '\n' :: ')' :: tail)))
    (next : ∀ c', c'.brackets = c.brackets → c'.startsWith "(" →
      Reaches (arguments (expressionWithin levels)) c' es tail → Q name c') :
    Ends identifier c Q TooDeep := by
  have there : At c.brackets c.depth
      (' ' :: name.toList ++ '(' :: (args ++ '\n' :: ')' :: tail)) c :=
    ⟨rfl, rfl, rest.symm.imp id fun rest => congrArg (' ' :: ·) rest⟩
  refine identifier_back isName ?_ there fun c' there => ?_
  · exact (by decide : isWordChar '(' = false)
  · have rest := there.rest_eq (by decide)
    have opens : c'.startsWith "(" := Cursor.startsWith_of_rest rest "("
    exact next c' there.brackets opens (arguments_reaches levels lists rest)

/-! ### The three spellings -/

/-- A filter. -/
theorem moreFilters_call (isName : IsName name)
    (lists : readExpression ('[' :: (args ++ ['\n', ']'])) = .ok (.list es))
    (rest : c.skipped.rest = '|' :: ' ' :: (name.toList ++ '(' :: (args ++ '\n' :: ')' :: tail))) :
    Ends (moreFilters (expressionWithin levels) e) c
      (fun r c' => r = some (.call name (e :: es)) ∧ c'.rest = tail ∧ c'.brackets = c.brackets)
      TooDeep := by
  have bar : c.skipped.startsWith "|" := Cursor.startsWith_of_rest rest "|"
  have single : c.skipped.startsWith "||" = false := Cursor.startsWith_of_rest rest "||"
  simp only [moreFilters, Ends.bind_iff, Ends.skipSpace_iff, Ends.peek_iff, bar, single,
    Bool.not_false, Bool.and_self, if_true, Ends.unseen_iff, Ends.descend_iff]
  refine ⟨fun _ => rfl, fun _ => ?_⟩
  generalize opened : { c.skipped.pass "|".length with
    depth := (c.skipped.pass "|".length).depth + 1 } = c'
  have start : c'.rest = ' ' :: (name.toList ++ '(' :: (args ++ '\n' :: ')' :: tail)) := by
    rw [← opened]
    exact Cursor.rest_pass_one rest
  refine identifier_called levels isName lists (.inr start) fun c'' brackets opens reaches => ?_
  rw [opens, if_pos rfl, Ends.bind_iff]
  refine Ends.imp reaches ?_
  rintro _ last ⟨rfl, rest', brackets'⟩
  refine ⟨rfl, rest', (brackets'.trans brackets).trans ?_⟩
  rw [← opened]
  rfl

/-- A method. -/
theorem trailer_method (isName : IsName name)
    (lists : readExpression ('[' :: (args ++ ['\n', ']'])) = .ok (.list es))
    (rest : c.rest = '.' :: (name.toList ++ '(' :: (args ++ '\n' :: ')' :: tail))) :
    Ends (trailer (expressionWithin levels) e) c
      (fun r c' => r = some (.call name (e :: es)) ∧ c'.rest = tail ∧ c'.brackets = c.brackets)
      TooDeep := by
  have noCall : c.startsWith "(" = false := Cursor.startsWith_of_rest rest "("
  have noIndex : c.startsWith "[" = false := Cursor.startsWith_of_rest rest "["
  have point : c.startsWith "." := Cursor.startsWith_of_rest rest "."
  simp only [trailer, afterPoint, Ends.bind_iff, Ends.peek_iff, noCall, noIndex, point,
    Bool.false_eq_true, if_false, if_true, Ends.descend_iff, Ends.unseen_iff, Ends.look_iff]
  refine ⟨fun _ => rfl, fun _ => ?_⟩
  generalize opened : Cursor.pass { c with depth := c.depth + 1 } ".".length = c'
  have start : c'.rest = name.toList ++ '(' :: (args ++ '\n' :: ')' :: tail) := by
    rw [← opened]
    exact Cursor.rest_pass_one rest
  have letter : c'.startsWithChar Char.isDigit = false := by
    rw [Cursor.startsWithChar, start]
    obtain ⟨x, xs, chars⟩ := List.exists_cons_of_ne_nil isName.nonempty
    have letter := isName.letter
    rw [chars] at letter ⊢
    exact letter
  rw [letter]
  simp only [Bool.false_eq_true, if_false, Ends.bind_iff, Ends.peek_iff]
  refine identifier_called levels isName lists (.inl start) fun c'' brackets opens reaches => ?_
  rw [opens, if_pos rfl, Ends.bind_iff]
  refine Ends.imp reaches ?_
  rintro _ last ⟨rfl, rest', brackets'⟩
  refine ⟨rfl, rest', (brackets'.trans brackets).trans ?_⟩
  rw [← opened]
  rfl

theorem Reaches.settles {p : Parse Expr} {text : List Char} (h : Reaches p c e text)
    (solid : ∀ brackets, Solid brackets (unspaced text)) :
    Settles p c e (unspaced text) TooDeep := by
  refine Ends.imp h ?_
  rintro _ c' ⟨rfl, rest, brackets⟩
  have there : At c'.brackets c'.depth text c' := ⟨rfl, rfl, .inl rest⟩
  exact ⟨rfl, (there.skipped (solid _)).2, brackets⟩

/-- One step, behind which nothing follows. -/
theorem extend_once {p : Parse Expr} {step : Expr → Parse (Option Expr)} {e' : Expr}
    {P : Cursor → Prop}
    (h : Ends p c (fun r c' => r = e ∧ P c' ∧ c'.brackets = c.brackets) TooDeep)
    (goes : ∀ c', P c' → Ends (step e) c'
      (fun r c'' => r = some e' ∧ c''.rest = [] ∧ c''.brackets = c'.brackets) TooDeep)
    (stops : StopsAt [] (step e')) (fuel : Nat) :
    Settles (do Script.extend step (fuel + 2) (← p)) c e' [] TooDeep := by
  rw [Settles, Ends.bind_iff]
  refine Ends.imp h ?_
  rintro _ c' ⟨rfl, there, brackets⟩
  rw [Script.extend, Ends.bind_iff]
  refine (goes c' there).imp ?_
  rintro _ c'' ⟨rfl, rest, brackets'⟩
  have none : c''.skipped.rest = [] := by
    rw [Cursor.skipped, Cursor.rest_pass, rest, List.drop_nil]
  simp only [Script.extend, Ends.bind_iff]
  refine (stops c'' none).mono ?_ fun _ => False.elim
  rintro _ last ⟨rfl, rest', brackets''⟩
  exact ⟨rfl, rest', (brackets''.trans brackets').trans brackets⟩

/-- A blank in front of items. -/
theorem items_blank {whole : Parse Expr} {close : String} {fuel : Nat}
    {Q : List Expr → Cursor → Prop} (rest : c.rest = ' ' :: cs)
    (h : Ends (items whole close fuel) (c.pass 1) Q TooDeep) :
    Ends (items whole close fuel) c Q TooDeep := by
  have same : (c.pass 1).skipped = c.skipped := by
    have blank : (if 0 < c.brackets then isSpaceOrBreak else isSpace) ' ' = true := by
      split <;> rfl
    rw [Cursor.skipped, Cursor.skipped, Cursor.pass_pass, Cursor.brackets_pass, Cursor.rest_pass,
      rest, gapLength]
    simp [blank, Nat.add_comm]
  cases fuel with
  | zero => exact Ends.fail_iff.2 rfl
  | succ fuel =>
      rw [items, Ends.bind_iff, Ends.skipSpace_iff] at h ⊢
      rwa [← same]

section Spellings

variable (reads : readExpression subject = .ok e) (isName : IsName name)
variable (lists : readExpression ('[' :: (args ++ ['\n', ']'])) = .ok (.list es))
variable (inside : 0 < c.brackets)

include reads isName lists inside

theorem filter_settles (rest : c.rest = Spelling.filter.text subject name.toList args) :
    Settles (filtered (expressionWithin levels)) c (.call name (e :: es)) [] TooDeep := by
  have primary := primary_reaches levels reads inside rest
  have idle := Idle.bar (name.toList ++ '(' :: (args ++ ['\n', ')']))
  have trailed : Settles (trailed (expressionWithin levels)) c e _ TooDeep :=
    (primary.settles fun _ => solid_cons (by decide) (by decide)).extend (trailer_stopsAt idle) _
  have disjunction := disjunction_settles (plain_paren rest) idle trailed
  exact extend_once disjunction (fun c' rest => moreFilters_call isName lists rest)
    (moreFilters_stopsAt (.inl rfl)) _

theorem method_settles (rest : c.rest = Spelling.method.text subject name.toList args) :
    Settles (filtered (expressionWithin levels)) c (.call name (e :: es)) [] TooDeep := by
  have primary := primary_reaches levels reads inside rest
  have trailed : Settles (trailed (expressionWithin levels)) c (.call name (e :: es)) [] TooDeep :=
    extend_once primary (fun c' rest => trailer_method isName lists rest) (trailer_stopsAt .nil) _
  exact filtered_settles (plain_paren rest) (.inl rfl) trailed

omit inside lists isName in
/-- The first argument, in front of a comma. -/
theorem expression_settles (levels : Nat) (inside : 0 < c.brackets)
    (rest : c.rest = '(' :: (subject ++ '\n' :: ')' :: ',' :: cs)) :
    Settles (expressionWithin levels) c e (',' :: cs) TooDeep := by
  cases levels with
  | zero => exact Ends.fail_iff.2 rfl
  | succ levels =>
      have filtered {c : Cursor} (inside : 0 < c.brackets)
          (rest : c.rest = '(' :: (subject ++ '\n' :: ')' :: ',' :: cs)) :
          Settles (filtered (expressionWithin levels)) c e (',' :: cs) TooDeep := by
        have primary := primary_reaches levels reads inside rest
        have trailed : Settles (trailed (expressionWithin levels)) c e (',' :: cs) TooDeep :=
          (primary.settles fun _ => solid_cons (by decide) (by decide)).extend
            (trailer_stopsAt (.comma cs)) _
        exact filtered_settles (plain_paren rest) (.inr ⟨cs, rfl⟩) trailed
      simp only [Settles, expressionWithin, Ends.keepingDepth_iff, Ends.bind_iff, Ends.descend_iff]
      exact ⟨fun _ => rfl, fun _ => filtered inside rest⟩

omit isName in
/-- The first argument and the others. -/
theorem items_function (levels fuel : Nat)
    (rest : c.rest = '(' :: (subject ++ '\n' :: ')' :: ',' :: ' ' ::
      (args ++ '\n' :: ')' :: tail))) :
    ItemsReach levels fuel c (e :: es) tail := by
  cases fuel with
  | zero => exact Ends.fail_iff.2 rfl
  | succ fuel =>
      have first := expression_settles reads levels inside rest
      have open' : c.startsWith ")" = false := Cursor.startsWith_of_rest rest ")"
      rw [ItemsReach, items]
      simp only [Ends.bind_iff, Ends.skipSpace_iff, Ends.peek_iff, (plain_paren rest).solid, open',
        Bool.false_eq_true, if_false, Ends.accept_iff]
      refine Ends.imp first ?_
      rintro _ c' ⟨rfl, rest', brackets⟩
      have comma : c'.skipped.startsWith "," := Cursor.startsWith_of_rest rest' ","
      refine ⟨fun _ => ?_, fun missing => absurd (missing.symm.trans comma) (by decide)⟩
      have blank : (c'.skipped.pass ",".length).rest = ' ' :: (args ++ '\n' :: ')' :: tail) :=
        Cursor.rest_pass_one rest'
      have others : ItemsReach levels fuel ((c'.skipped.pass ",".length).pass 1) es tail := by
        refine items_reach ?_ ?_ lists _ _
        · show 0 < c'.brackets
          rwa [brackets]
        · exact Cursor.rest_pass_one blank
      simp only [if_true, Ends.bind_iff, Ends.pure_iff]
      refine Ends.imp (items_blank blank others) ?_
      rintro _ c'' ⟨rfl, rest''⟩
      exact ⟨rfl, rest''⟩

omit inside in
/-- The name of the function, and all arguments. -/
theorem function_settles (rest : c.rest = Spelling.function.text subject name.toList args) :
    Settles (filtered (expressionWithin levels)) c (.call name (e :: es)) [] TooDeep := by
  have plain : Plain c := by
    refine plain_name isName ?_ rest
    exact (by decide : isWordChar '(' = false)
  have primary : Ends (primary (expressionWithin levels)) c (fun r c' => r = .var name ∧
      c'.rest = '(' :: '(' :: (subject ++ '\n' :: ')' :: ',' :: ' ' :: (args ++ ['\n', ')'])) ∧
      c'.brackets = c.brackets) TooDeep := by
    have there : At c.brackets c.depth (' ' :: name.toList ++ '(' :: '(' ::
        (subject ++ '\n' :: ')' :: ',' :: ' ' :: (args ++ ['\n', ')']))) c :=
      ⟨rfl, rfl, .inr (congrArg (' ' :: ·) rest)⟩
    refine primary_var isName ?_ there fun c' there => ?_
    · exact (by decide : isWordChar '(' = false)
    · exact ⟨rfl, there.rest_eq (by decide), there.brackets⟩
  have trailed : Settles (trailed (expressionWithin levels)) c (.call name (e :: es)) []
      TooDeep := by
    refine extend_once primary (fun c' rest => ?_) (trailer_stopsAt .nil) _
    have opens : c'.startsWith "(" := Cursor.startsWith_of_rest rest "("
    simp only [trailer, Ends.bind_iff, Ends.peek_iff, opens, if_true, Ends.descend_iff]
    refine ⟨fun _ => rfl, fun _ => ?_⟩
    have called : Reaches (arguments (expressionWithin levels))
        { c' with depth := c'.depth + 1 } (e :: es) [] :=
      arguments_of_items rest
        (items_function reads lists (Nat.succ_pos _) levels _ (Cursor.rest_pass_one rest))
    refine Ends.imp called ?_
    rintro _ c'' ⟨rfl, rest', brackets⟩
    exact ⟨rfl, rest', brackets⟩
  exact filtered_settles plain (.inl rfl) trailed

end Spellings

end Parts

/-- Three spellings of a call are read as the same call, unless there are too few levels: each of
them is when its first argument is an expression and the others are the items of a list. -/
theorem readExpression_spelling {subject args : List Char} {name : String} {e : Expr}
    {es : List Expr} (reads : readExpression subject = .ok e) (isName : IsName name)
    (lists : readExpression ('[' :: (args ++ ['\n', ']'])) = .ok (.list es)) (s : Spelling) :
    readExpression (s.text subject name.toList args) = .ok (.call name (e :: es)) ∨
      ∃ err, readExpression (s.text subject name.toList args) = .error err ∧
        err.defect = .nestedTooDeeply := by
  have settles (c : Cursor) (inside : 0 < c.brackets)
      (rest : c.rest = s.text subject name.toList args) :
      Settles (filtered (expressionWithin maxDepth)) c (.call name (e :: es)) [] TooDeep := by
    cases s with
    | filter => exact filter_settles reads isName lists inside rest
    | method => exact method_settles reads isName lists inside rest
    | function => exact function_settles reads isName lists rest
  have solid (brackets : Nat) : Solid brackets (s.text subject name.toList args) := by
    cases s with
    | filter => exact solid_cons (by decide) (by decide)
    | method => exact solid_cons (by decide) (by decide)
    | function => exact isName.solid
  refine Settles.readExpression (settles _ Nat.one_pos ?_)
  exact congrArg Cursor.rest (skipped_solid (solid 1))

set_option maxRecDepth 4000 in
/-- All three spellings, with a comment behind the first argument. -/
theorem readExpression_spelling_commented :
    let call : Except Error Expr := .ok (.call "join" [.var "a", .var "b", .var "c"])
    readExpression ['a', '#'] = .ok (.var "a") ∧ IsName "join" ∧
      readExpression ('[' :: (['b', ',', 'c'] ++ ['\n', ']'])) = .ok (.list [.var "b", .var "c"]) ∧
      readExpression "(a#\n) | join(b,c\n)".toList = call ∧
      readExpression "(a#\n).join(b,c\n)".toList = call ∧
      readExpression "join((a#\n), b,c\n)".toList = call := by
  intro call
  have reads : readExpression ['a', '#'] = .ok (.var "a") := by cbv
  have isName : IsName "join" := ⟨by decide, List.all_eq_true.1 (by decide), by decide, by decide⟩
  have lists : readExpression ('[' :: (['b', ',', 'c'] ++ ['\n', ']'])) =
      .ok (.list [.var "b", .var "c"]) := by
    cbv
  have spelled (s : Spelling)
      (accepted : (readExpression (s.text ['a', '#'] "join".toList ['b', ',', 'c'])).isOk = true) :
      readExpression (s.text ['a', '#'] "join".toList ['b', ',', 'c']) = call := by
    rcases readExpression_spelling reads isName lists s with same | ⟨err, refused, -⟩
    · exact same
    · rw [refused] at accepted
      cases accepted
  exact ⟨reads, isName, lists, spelled .filter (by cbv), spelled .method (by cbv),
    spelled .function (by cbv)⟩

end Stencil.Script
