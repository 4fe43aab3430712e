import Stencil.Proofs.Script.Alike

/-!
# Code behind which a line breaks

An expression that is a whole text is the same expression in parentheses, with a line break in front
of the closing one, which ends a comment. The items of a list are in the same way the arguments of a
call, if a line break stands in front of the closing bracket.
-/

namespace Stencil.Script

/-! ### Blanks in front of a break -/

/-- What stands behind a line break is skipped only if all in front of it is, and no comment goes on
there. -/
theorem gapLength_break (blank : Char → Bool) (breaks : blank '\n') (behind : List Char) :
    ∀ (comment : Bool) (text : List Char),
      gapLength blank comment (text ++ '\n' :: behind) =
        if gapLength blank comment text < text.length then gapLength blank comment text
        else text.length + 1 + gapLength blank false behind
  | comment, [] => by
    simp [gapLength, breaks]
    omega
  | comment, x :: text => by
    have marked := gapLength_break blank breaks behind true text
    have plain := gapLength_break blank breaks behind false text
    simp only [List.cons_append, gapLength, List.length_cons]
    split
    · rw [marked]
      split <;> split <;> omega
    · split
      · rw [plain]
        split <;> split <;> omega
      · simp

theorem Cursor.skipped_inside {c : Cursor} (inside : 0 < c.brackets) :
    c.skipped = c.pass (gapLength isSpaceOrBreak false c.rest) := by
  rw [Cursor.skipped, if_pos inside]

/-! ### The seam -/

/-- What does not go on itself cuts off what goes on in front of it. -/
theorem takeWhile_cut {kind : Char → Bool} {text behind : List Char}
    (stop : behind.takeWhile kind = []) :
    (text ++ behind).takeWhile kind = text.takeWhile kind := by
  rw [List.takeWhile_append, stop, List.append_nil]
  split
  · next all => exact ((List.takeWhile_prefix kind).eq_of_length all).symm
  · rfl

inductive Gap (here common : List Char) : List Char → Prop
  | line (ended : here = []) : Gap here common ['\n']
  | none (fresh : common = [] ∨ common.getLast? = some '\n') : Gap here common []

/-- Two cursors inside brackets. The one text ends behind what they have in common, or closes a
list; the other one closes parentheses there. -/
structure AtBreak (here tail : List Char) (c d : Cursor) : Prop where
  inside : 0 < c.brackets
  inside' : 0 < d.brackets
  common : ∃ common gap, Gap here common gap ∧ c.rest = common ++ here ∧
    d.rest = common ++ (gap ++ ')' :: tail)

namespace AtBreak

variable {here tail : List Char} {c d : Cursor}

theorem pass (h : AtBreak here tail c d) {n : Nat} (fits : n + here.length ≤ c.rest.length) :
    AtBreak here tail (c.pass n) (d.pass n) := by
  obtain ⟨inside, inside', common, gap, joins, rest, rest'⟩ := h
  rw [rest, List.length_append] at fits
  refine ⟨inside, inside', common.drop n, gap, ?_, ?_, ?_⟩
  · cases joins with
    | line ended => exact .line ended
    | none fresh =>
        refine .none ?_
        rw [List.drop_eq_nil_iff, List.getLast?_drop]
        by_cases all : common.length ≤ n
        · exact .inl all
        · rw [if_neg all]
          refine .inr (fresh.resolve_left ?_)
          rintro rfl
          exact all (Nat.zero_le n)
  · rw [Cursor.rest_pass, rest, List.drop_append_of_le_length (by omega)]
  · rw [Cursor.rest_pass, rest', List.drop_append_of_le_length (by omega)]

theorem head (h : AtBreak here tail c d) (more : here.length < c.rest.length) :
    c.rest.head? = d.rest.head? := by
  obtain ⟨-, -, common, gap, -, rest, rest'⟩ := h
  cases common with
  | nil =>
      rw [rest] at more
      exact absurd more (Nat.lt_irrefl _)
  | cons x common =>
      rw [rest, rest']
      rfl

section Stops

variable (stops : here = [] ∨ here = [']'])

include stops

theorem length (h : AtBreak here tail c d) :
    here.length ≤ c.rest.length ∧ c.rest.length ≤ d.rest.length := by
  obtain ⟨-, -, common, gap, -, rest, rest'⟩ := h
  rw [rest, rest']
  simp only [List.length_append, List.length_cons]
  rcases stops with rfl | rfl
  · simp
  · simp only [List.length_cons, List.length_nil]
    omega

theorem line (h : AtBreak here tail c d) :
    c.rest.takeWhile isInner = d.rest.takeWhile isInner ∧
      (c.rest.takeWhile isInner).length + here.length ≤ c.rest.length := by
  obtain ⟨-, -, common, gap, joins, rest, rest'⟩ := h
  have blocked : here.takeWhile isInner = [] := by
    rcases stops with rfl | rfl <;> rfl
  have blocked' : (gap ++ ')' :: tail).takeWhile isInner = [] := by
    cases joins <;> rfl
  rw [rest, rest', takeWhile_cut blocked, takeWhile_cut blocked', List.length_append]
  exact ⟨rfl, Nat.add_le_add_right (List.takeWhile_prefix isInner).length_le _⟩

theorem skipped (h : AtBreak here tail c d) : AtBreak here tail c.skipped d.skipped := by
  have whole := h
  obtain ⟨inside, inside', common, gap, joins, rest, rest'⟩ := h
  have solid : gapLength isSpaceOrBreak false here = 0 := by
    rcases stops with rfl | rfl <;> rfl
  have solid' : gapLength isSpaceOrBreak false (')' :: tail) = 0 := by
    simp [gapLength, isSpaceOrBreak, isSpace]
  have behind (text : List Char) := gapLength_break isSpaceOrBreak rfl text false
  rw [Cursor.skipped_inside inside, Cursor.skipped_inside inside']
  cases joins with
  | line ended =>
      subst ended
      rw [List.append_nil] at rest
      have passed : gapLength isSpaceOrBreak false d.rest =
          if gapLength isSpaceOrBreak false common < common.length
          then gapLength isSpaceOrBreak false common else common.length + 1 := by
        rw [rest', List.singleton_append, behind, solid', Nat.add_zero]
      rw [passed, rest]
      split
      · next more => exact whole.pass (by rw [rest, List.length_nil]; omega)
      · next all =>
        refine ⟨inside, inside', [], [], .none (.inl rfl), ?_, ?_⟩
        · rw [Cursor.rest_pass, rest, List.drop_eq_nil_of_le (by omega)]
          rfl
        · rw [Cursor.rest_pass, rest', List.singleton_append, ← List.drop_drop, List.drop_left]
          rfl
  | none fresh =>
      rcases fresh with rfl | last
      · rw [List.nil_append] at rest rest'
        rw [rest, rest', List.nil_append, solid, solid']
        exact whole
      · obtain ⟨line, rfl⟩ := List.getLast?_eq_some_iff.1 last
        have passed : gapLength isSpaceOrBreak false c.rest =
            gapLength isSpaceOrBreak false d.rest := by
          rw [rest, rest', List.append_assoc, List.append_assoc, List.singleton_append,
            List.singleton_append, List.nil_append, behind, behind, solid, solid']
        have few : gapLength isSpaceOrBreak false c.rest ≤ line.length + 1 := by
          rw [rest, List.append_assoc, List.singleton_append, behind, solid]
          split <;> omega
        rw [← passed]
        refine whole.pass ?_
        rw [rest, List.length_append, List.length_append, List.length_singleton, ← rest]
        omega

/-- Where the first text ends or closes a list, the second one closes parentheses. -/
theorem closes (h : AtBreak here tail c d) (ended : c.skipped.rest = here) :
    d.skipped.rest = ')' :: tail := by
  obtain ⟨-, -, common, gap, joins, rest, rest'⟩ := h.skipped stops
  obtain rfl : common = [] := by
    rw [rest] at ended
    exact List.append_left_eq_self.1 ended
  cases joins with
  | none => exact rest'
  | line =>
      have gone : gapLength isSpaceOrBreak false d.skipped.rest = 0 := by
        rw [Cursor.skipped_inside h.inside']
        exact gapLength_drop _ false d.rest
      rw [rest'] at gone
      cases gone

end Stops

end AtBreak

/-- The seam at a line break, or at the end of a text, in front of a closing bracket. -/
def Seam.atBreak (here tail : List Char) (stops : here = [] ∨ here = [']']) : Seam where
  Meets := AtBreak here tail
  floor := here.length
  loose := True
  level _ := .inl trivial
  depth h _ _ _ := ⟨h.inside, h.inside', h.common⟩
  pass h _ fits := h.pass fits
  skipped h _ := h.skipped stops
  length h := h.length stops
  head h more := h.head more
  line h := h.line stops

theorem Seam.nests_atBreak (here tail : List Char) (stops : here = [] ∨ here = [']']) :
    (Seam.atBreak here tail stops).Nests where
  inside h := h.inside
  enter h := ⟨Nat.succ_pos _, Nat.succ_pos _, h.common⟩
  leave h h' := ⟨h.inside, h.inside', h'.common⟩

/-! ### A complete expression -/

/-- The reader passes blanks before anything else. -/
def Skips {α : Type} (p : Parse α) : Prop :=
  ∀ (c : Cursor) (Q : α → Cursor → Prop), Ends p c.skipped Q TooDeep → Ends p c Q TooDeep

namespace Skips

variable {α β : Type} {p : Parse α} {whole : Parse Expr}

theorem bind {f : α → Parse β} (h : Skips p) : Skips (p >>= f) := by
  intro c Q ends
  rw [Ends.bind_iff] at ends ⊢
  exact h c _ ends

theorem skipSpace {f : Unit → Parse β} : Skips (skipSpace >>= f) := by
  intro c Q ends
  simpa using ends

theorem tooDeep : Skips (fail .nestedTooDeeply : Parse α) := fun _ _ _ => Ends.fail_iff.2 rfl

theorem denied : ∀ fuel : Nat, Skips (denied whole fuel)
  | 0 => tooDeep
  | _ + 1 => skipSpace

theorem expressionWithin : ∀ levels : Nat, Skips (expressionWithin levels)
  | 0 => tooDeep
  | levels + 1 => by
    intro c Q ends
    simp only [Script.expressionWithin, Ends.keepingDepth_iff, Ends.bind_iff, Ends.descend_iff]
      at ends ⊢
    refine ⟨fun _ => rfl, fun more => ?_⟩
    have filtered : Skips (filtered (Script.expressionWithin levels)) :=
      (((denied _).bind).bind).bind
    exact filtered _ _ (ends.2 more)

end Skips

/-- The reader yields `a` and stops in front of `tail`, unless there are too few levels. -/
def Reaches {α : Type} (p : Parse α) (c : Cursor) (a : α) (tail : List Char) : Prop :=
  Ends p c (fun a' c' => a' = a ∧ c'.rest = tail ∧ c'.brackets = c.brackets) TooDeep

section Whole

variable {text tail : List Char} {e : Expr} {d : Cursor}

/-- An expression that is a whole text is the same expression in parentheses. -/
theorem enclosed_reaches (read : readExpression text = .ok e) (levels : Nat)
    (inside : 0 < d.brackets) (rest : d.rest = text ++ '\n' :: ')' :: tail) :
    Reaches (enclosed (expressionWithin levels) ")") d e tail := by
  refine Yields.of_run (P := fun e => Reaches _ d e tail) ?_ read
  simp only [wholeExpression, Yields.bracketed_iff, Yields.bind_iff, Yields.skipSpace_iff,
    Yields.expectEnd_iff, Yields.pure_iff]
  have meets : AtBreak [] tail { Cursor.start text with brackets := 1 }
      { d with brackets := d.brackets + 1 } :=
    ⟨Nat.one_pos, Nat.succ_pos _, text, ['\n'], .line rfl, (List.append_nil _).symm, rest⟩
  have alike : (Seam.atBreak [] tail (.inl rfl)).Agree expression (expressionWithin levels) :=
    Seam.expressionWithin_agree (Seam.nests_atBreak _ _ _) _ _ (.inl trivial)
  refine (alike.tracks (meets.skipped (.inl rfl))).mono fun e c' ends ended => ?_
  simp only [Reaches, enclosed, Ends.bind_iff, Ends.bracketed_iff, Ends.skipSpace_iff,
    Ends.expect_iff, Ends.pure_iff]
  refine Skips.expressionWithin levels _ _ ?_
  refine (ends (Seam.clear_of_floor rfl c')).mono ?_ fun _ excused => excused.2
  rintro _ d' ⟨rfl, meets'⟩
  have meets' : AtBreak [] tail c' { d' with brackets := d.brackets } :=
    ⟨meets'.inside, inside, meets'.common⟩
  have closer := meets'.closes (.inl rfl) (by rwa [Cursor.skipped_inside meets'.inside])
  have found : Cursor.startsWith (Cursor.skipped { d' with brackets := d.brackets }) ")" :=
    Cursor.startsWith_of_rest closer ")"
  refine ⟨fun _ => ⟨rfl, ?_, rfl⟩, fun missing => ?_⟩
  · exact Cursor.rest_pass_one closer
  · rw [missing] at found
    cases found

end Whole

/-! ### A list -/

@[simp] theorem Yields.true {α : Type} (p : Parse α) (c : Cursor) : Yields p c fun _ _ => True :=
  fun _ _ _ => trivial

section Ladder

variable {whole : Parse Expr} {I : Expr → Cursor → Prop}

/-- A step that yields what satisfies `I`, or leaves the expression before it as it is. -/
def Maintains (I : Expr → Cursor → Prop) (step : Expr → Parse (Option Expr)) : Prop :=
  ∀ e c, I e c → Yields (step e) c fun r c' => I (r.getD e) c'

theorem Yields.extend {p : Parse Expr} {step : Expr → Parse (Option Expr)} {c : Cursor}
    (h : Yields p c I) (steps : Maintains I step) (fuel : Nat) :
    Yields (do extend step fuel (← p)) c I := by
  rw [Yields.bind_iff]
  refine h.mono fun e c' holds => Yields.of_steps (fun e c holds => ?_) fuel e c' holds
  refine (steps e c holds).mono fun r c' next => ?_
  cases r with
  | none => exact next
  | some e' => exact next

variable (skips : ∀ e c, I e c → I e c.skipped) (builds : ∀ e c, (∀ es, e ≠ .list es) → I e c)

include skips builds

omit skips in
theorem trailer_maintains : Maintains I (trailer whole) := by
  intro e c holds
  unfold trailer
  cases e <;> simp [afterPoint, holds, builds]

theorem moreFactors_maintains : Maintains I (moreFactors whole) := by
  intro e c holds
  simp [moreFactors, rightOperand, skips _ _ holds, builds]

theorem moreTerms_maintains : Maintains I (moreTerms whole) := by
  intro e c holds
  simp [moreTerms, rightOperand, skips _ _ holds, builds]

theorem moreConjuncts_maintains : Maintains I (moreConjuncts whole) := by
  intro e c holds
  simp [moreConjuncts, acceptEither, rightOperand, skips _ _ holds, builds]

theorem moreDisjuncts_maintains : Maintains I (moreDisjuncts whole) := by
  intro e c holds
  simp [moreDisjuncts, acceptEither, rightOperand, skips _ _ holds, builds]

theorem moreFilters_maintains : Maintains I (moreFilters whole) := by
  intro e c holds
  simp [moreFilters, skips _ _ holds, builds]

theorem compared_yields {e : Expr} {c : Cursor} (holds : I e c) :
    Yields (compared whole e) c I := by
  simp [compared, acceptNotIn, relation?, skips _ _ holds, builds]

/-- What satisfies `I` if it stands alone does so as the beginning of any complete expression. -/
theorem filtered_yields {c : Cursor} (solid : c.skipped = c) (h : Yields (primary whole) c I) :
    Yields (filtered whole) c I := by
  have trailed : Yields (trailed whole) c I := h.extend (trailer_maintains builds) _
  have factor : Yields (factor whole) c I := by
    simp [factor, negated, solid, trailed, builds]
  have product : Yields (product whole) c I := factor.extend (moreFactors_maintains skips builds) _
  have sum : Yields (sum whole) c I := product.extend (moreTerms_maintains skips builds) _
  have comparison : Yields (comparison whole) c I :=
    Yields.bind_iff.2 (sum.mono fun _ _ => compared_yields skips builds)
  have conjunct : Yields (conjunct whole) c I := by
    simp [conjunct, denied, acceptNot, solid, comparison, builds]
  have conjunction : Yields (conjunction whole) c I :=
    conjunct.extend (moreConjuncts_maintains skips builds) _
  have disjunction : Yields (disjunction whole) c I :=
    conjunction.extend (moreDisjuncts_maintains skips builds) _
  exact disjunction.extend (moreFilters_maintains skips builds) _

end Ladder

section Items

variable {text tail : List Char} {es : List Expr} {c d : Cursor}

theorem lasting_suffix (text : List Char) :
    Lasts (fun c => c.rest <:+ text) := by
  refine .of_place ?_ (fun suffix n => (List.drop_suffix n _).trans suffix) fun _ _ => trivial
  intro c c' suffix rest _
  rwa [rest]

/-- Nothing but blanks is left of a list only if nothing is. -/
theorem rest_eq_nil_of_blanks (blanks : c.skipped.rest = []) (inside : 0 < c.brackets)
    (suffix : c.rest <:+ text ++ ['\n', ']']) : c.rest = [] := by
  have parts : text ++ ['\n', ']'] = (text ++ ['\n']) ++ [']'] := by simp
  rw [Cursor.skipped_inside inside, Cursor.rest_pass, List.drop_eq_nil_iff] at blanks
  rw [parts, List.suffix_concat_iff] at suffix
  rcases suffix with none | ⟨line, last, suffix⟩
  · exact none
  · refine absurd blanks (Nat.not_le.2 ?_)
    rw [List.suffix_concat_iff] at suffix
    rcases suffix with rfl | ⟨line, rfl, -⟩
    · rw [last]
      exact Nat.one_pos
    · rw [last, List.append_assoc, List.singleton_append, gapLength_break isSpaceOrBreak rfl,
        List.length_append, List.length_cons, List.length_singleton]
      have solid : gapLength isSpaceOrBreak false [']'] = 0 := rfl
      split <;> omega

/-- What is a list is followed by blanks only if its items satisfy `P`. -/
def ListOnly (P : List Expr → Prop) (e : Expr) (c : Cursor) : Prop :=
  ∀ es, e = .list es → 0 < c.brackets ∧ (c.skipped.rest = [] → P es)

theorem ListOnly.skipped {P : List Expr → Prop} {e : Expr} (h : ListOnly P e c) :
    ListOnly P e c.skipped := by
  intro es list
  rw [Cursor.skipped_skipped]
  exact h es list

theorem ListOnly.of_other {P : List Expr → Prop} {e : Expr} (other : ∀ es, e ≠ .list es) :
    ListOnly P e c :=
  fun es list => absurd list (other es)

/-- The reader of items yields `es` in front of the closing parenthesis, unless there are too few
levels. -/
def ItemsReach (levels fuel : Nat) (d : Cursor) (es : List Expr) (tail : List Char) : Prop :=
  Ends (items (expressionWithin levels) ")" fuel) d
    (fun es' d' => es' = es ∧ d'.skipped.rest = ')' :: tail) TooDeep

section At

variable (inside' : 0 < d.brackets) (rest' : d.rest = text ++ '\n' :: ')' :: tail)

include inside' rest'

/-- What a list has in its brackets is read in parentheses as well. -/
theorem sequence_listOnly (levels levels' fuel : Nat) (inside : 0 < c.brackets)
    (rest : c.rest = text ++ ['\n', ']']) :
    Yields (sequence (expressionWithin levels) "]") c fun es c' =>
      0 < c'.brackets ∧ (c'.skipped.rest = [] → ItemsReach levels' fuel d es tail) := by
  have meets : AtBreak [']'] tail { c with brackets := c.brackets + 1 } d := by
    refine ⟨Nat.succ_pos _, inside', text ++ ['\n'], [], .none (.inr (by simp)), ?_, ?_⟩
    · simp [rest]
    · simp [rest']
  have alike : (Seam.atBreak [']'] tail (.inr rfl)).Agree (expressionWithin levels)
      (expressionWithin levels') :=
    Seam.expressionWithin_agree (Seam.nests_atBreak _ _ _) levels levels' (.inl trivial)
  have closes {c d : Cursor} (meets : AtBreak [']'] tail c d) (last : c.rest.length = 1)
      (_ : c.startsWith "]") : d.startsWith ")" := by
    obtain ⟨-, -, common, gap, joins, rest, rest'⟩ := meets
    have none : common = [] := by simpa [rest] using last
    cases joins with
    | line ended => cases ended
    | none =>
        rw [Cursor.startsWith, rest', none]
        rfl
  have clear (c : Cursor) (last : c.skipped.rest.length = 1) :
      (Seam.atBreak [']'] tail (.inr rfl)).Clear c := by
    refine ⟨Seam.inFront_of_skipped _ last.ge, fun stuck => ?_⟩
    obtain ⟨cs, rest⟩ := stuck.rest
    rw [rest] at last
    cases last
  have read : (Seam.atBreak [']'] tail (.inr rfl)).Tracks (fun c' => c'.skipped.rest.length = 1)
      (items (expressionWithin levels) "]" (c.rest.length + 1))
      (items (expressionWithin levels') ")" fuel) { c with brackets := c.brackets + 1 } d :=
    Seam.items_tracks alike (.expressionWithin levels) (G := fun c => c.rest.length = 1) clear
      closes (blocked_one (x := ')') rfl (by decide)) _ _ (.inl trivial) meets
  have lasting := lasting_suffix (text ++ ['\n', ']'])
  have kept : Yields (items (expressionWithin levels) "]" (c.rest.length + 1))
      { c with brackets := c.brackets + 1 } fun _ c' => c'.rest <:+ text ++ ['\n', ']'] :=
    (items_keeps lasting (expressionWithin_keeps lasting levels) _ _).yields
      (rest ▸ List.suffix_rfl)
  simp only [sequence, Yields.bind_iff, Yields.bracketed_iff, Yields.look_iff, Yields.skipSpace_iff,
    Yields.expect_iff, Yields.pure_iff]
  intro es c' ran found
  refine ⟨inside, fun blanks => ?_⟩
  have last : c'.skipped.rest = [']'] := by
    rw [Cursor.startsWith_one (x := ']') rfl, beq_iff_eq] at found
    obtain ⟨behind, start⟩ := List.head?_eq_some_iff.1 found
    have start : c'.skipped.rest = ']' :: behind := start
    have suffix : behind <:+ text ++ ['\n', ']'] :=
      (start ▸ List.suffix_cons ']' behind).trans ((List.drop_suffix _ _).trans (kept es c' ran))
    have passed : (Cursor.pass { c'.skipped with brackets := c.brackets } "]".length).rest =
        behind :=
      Cursor.rest_pass_one start
    have none := rest_eq_nil_of_blanks blanks inside (passed ▸ suffix)
    rw [start, ← passed, none]
  refine (read es c' ran (congrArg List.length last)).mono ?_ fun _ excused => excused.2
  rintro _ d' ⟨rfl, meets'⟩
  exact ⟨rfl, AtBreak.closes (.inr rfl) meets' last⟩

/-- An expression that opens as a list and is one is that list only. -/
theorem expression_listOnly (levels levels' fuel : Nat) (inside : 0 < c.brackets)
    (rest : c.rest = '[' :: (text ++ ['\n', ']'])) :
    Yields (expressionWithin levels) c (ListOnly fun es => ItemsReach levels' fuel d es tail) := by
  cases levels with
  | zero => simp [expressionWithin]
  | succ levels =>
      simp only [expressionWithin, Yields.keepingDepth_iff, Yields.bind_iff, Yields.descend_iff]
      intro _
      obtain ⟨c', opened⟩ : ∃ c', c' = { c with depth := c.depth + 1 } := ⟨_, rfl⟩
      have inside : 0 < c'.brackets := opened ▸ inside
      have rest : c'.rest = '[' :: (text ++ ['\n', ']']) := opened ▸ rest
      rw [← opened]
      have solid : c'.skipped = c' := by
        refine skipped_solid ?_
        rw [rest]
        exact solid_cons (by decide) (by decide)
      have bracket := sequence_listOnly inside' rest' levels levels' fuel (c := c'.pass 1) inside
        (Cursor.rest_pass_one rest)
      have listed : Yields (do return Expr.list (← sequence (expressionWithin levels) "]"))
          (c'.pass 1) (ListOnly fun es => ItemsReach levels' fuel d es tail) := by
        rw [Yields.bind_iff]
        refine bracket.mono fun es c'' reach => Yields.pure_iff.2 ?_
        rintro _ ⟨⟩
        exact reach
      have first : Yields (primary (expressionWithin levels)) c'
          (ListOnly fun es => ItemsReach levels' fuel d es tail) := by
        simpa [primary, solid, rest] using listed
      exact filtered_yields (fun _ _ => .skipped) (fun _ _ => .of_other) solid first

/-- The items of a list that is a whole text are the items in parentheses, with a line break in
front of the closing bracket. -/
theorem items_reach (read : readExpression ('[' :: (text ++ ['\n', ']'])) = .ok (.list es))
    (levels fuel : Nat) : ItemsReach levels fuel d es tail := by
  have yields : Yields (bracketed do
      skipSpace
      let e ← expression
      expectEnd
      return e) (.start ('[' :: (text ++ ['\n', ']']))) fun e _ =>
        ∀ es, e = .list es → ItemsReach levels fuel d es tail := by
    simp only [Yields.bracketed_iff, Yields.bind_iff, Yields.skipSpace_iff, Yields.expectEnd_iff,
      Yields.pure_iff]
    rw [skipped_solid (solid_cons (by decide) (by decide))]
    refine (expression_listOnly inside' rest' _ levels fuel Nat.one_pos rfl).mono ?_
    intro e c' only blanks es list
    obtain ⟨inside, reach⟩ := only es list
    exact reach (by rwa [Cursor.skipped_inside inside])
  exact Yields.of_run yields read es rfl

end At

end Items

end Stencil.Script
