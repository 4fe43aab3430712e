import Stencil.Proofs.Script.Every

/-!
# How high an expression can be

Going deeper into the tree is counted, and the count is taken back where a complete expression ends.
What is built upon an expression in brackets therefore starts from the depth in front of the
bracket, and its levels come on top of those inside. The levels that are left, the `room`, bound the
height all the same: within `r` levels the highest expression that can be read is a list of one that
is read within `r - 1` levels, with `r - 1` operators upon it, of which one is a negated membership
test; such a test adds two levels that are not counted.
-/

namespace Stencil

mutual

/-- The nodes on the longest way down from the root of an expression. -/
def Expr.height : Expr → Nat
  | .literal _ => 1
  | .list items => heightAll items + 1
  | .var _ => 1
  | .unary _ e => e.height + 1
  | .connect _ l r => max l.height r.height + 1
  | .binary _ l r => max l.height r.height + 1
  | .call _ args => heightAll args + 1
  | .index target position => max target.height position.height + 1
  | .member target _ => target.height + 1

def heightAll : List Expr → Nat
  | [] => 0
  | e :: es => max e.height (heightAll es)

end

theorem Expr.height_pos (e : Expr) : 0 < e.height := by
  cases e <;> simp [Expr.height]

namespace Script

/-- The height of the highest expression that can be read within some levels. -/
def tallest : Nat → Nat
  | 0 => 0
  | room + 1 => tallest room + room + 3

theorem tallest_mono {r s : Nat} (h : r ≤ s) : tallest r ≤ tallest s := by
  induction h with
  | refl => exact le_refl _
  | step _ ih =>
      rw [tallest]
      omega

namespace Cursor

/-- How many more levels the tree may have. -/
def room (c : Cursor) : Nat := maxDepth - c.depth

@[simp] theorem room_pass (c : Cursor) (n : Nat) : (c.pass n).room = c.room := rfl

@[simp] theorem room_skipped (c : Cursor) : c.skipped.room = c.room := rfl

theorem room_descend {c : Cursor} (h : c.depth < maxDepth) :
    c.room = room { c with depth := c.depth + 1 } + 1 := by
  simp only [room]
  omega

end Cursor

/-- What is built on an expression within `r` levels uses up one of them for each level that it
adds, but for `extra` ones. -/
structure Grown (extra r : Nat) (e : Expr) (c : Cursor) : Prop where
  room : c.room ≤ r
  height : e.height + c.room ≤ tallest r + extra + r

/-- A reader that uses up one level of its room for each level that it adds, but for `extra` ones. -/
abbrev Grows (extra : Nat) (p : Parse Expr) : Prop := ∀ c, Yields p c (Grown extra c.room)

/-- A reader of complete expressions, which uses up no room. -/
abbrev Fits (p : Parse Expr) : Prop :=
  ∀ c, Yields p c fun e c' => c'.room = c.room ∧ e.height ≤ tallest c.room

/-- A reader that uses up no room. -/
abbrev Level {α : Type} (p : Parse α) : Prop := ∀ c, Yields p c fun _ c' => c'.room = c.room

variable {whole operand : Parse Expr} {extra r : Nat} {e : Expr} {c : Cursor}

theorem Grown.mono {r' extra' : Nat} (h : Grown extra r e c) (more : r ≤ r')
    (most : extra ≤ extra') : Grown extra' r' e c := by
  have higher := tallest_mono more
  have ⟨room, height⟩ := h
  constructor <;> omega

theorem Grown.moved {c' : Cursor} (h : Grown extra r e c) (room : c'.room = c.room) :
    Grown extra r e c' :=
  ⟨room ▸ h.room, room ▸ h.height⟩

/-- A node over an expression and complete ones that are read one level deeper. -/
theorem Grown.over {e' : Expr} {c' : Cursor} (h : Grown extra r e c) (room : c'.room + 1 = c.room)
    (height : e'.height ≤ max e.height (tallest c'.room) + 1) : Grown extra r e' c' := by
  have ⟨within, bounded⟩ := h
  have higher : tallest c'.room ≤ tallest r := tallest_mono (by omega)
  constructor <;> omega

/-- A node over an expression that is read one level deeper. -/
theorem Grown.under {e' : Expr} {c' d : Cursor} (h : Grown extra d.room e c')
    (room : c.room = d.room + 1) (height : e'.height = e.height + 1) :
    Grown extra c.room e' c' := by
  have ⟨within, bounded⟩ := h
  have higher : tallest d.room ≤ tallest c.room := tallest_mono (by omega)
  constructor <;> omega

/-- A node over two expressions, the second of which is read one level deeper. -/
theorem Grown.combine {l n : Expr} {c' d : Cursor} (left : Grown extra r l c)
    (right : Grown extra d.room e c') (room : d.room + 1 = c.room)
    (height : n.height = max l.height e.height + 1) : Grown extra r n c' := by
  have ⟨within, leftHeight⟩ := left
  have ⟨within', rightHeight⟩ := right
  have higher : tallest d.room ≤ tallest r := tallest_mono (by omega)
  constructor <;> omega

theorem extend_grows {step : Expr → Parse (Option Expr)} {first : Parse Expr} (fuel : Nat)
    (h : Grows extra first)
    (more : ∀ r e c, Grown extra r e c →
      Yields (step e) c fun result c' => Grown extra r (result.getD e) c') :
    Grows extra (do extend step fuel (← first)) := by
  intro c
  rw [Yields.bind_iff]
  refine (h c).mono ?_
  intro e c' he
  refine Yields.of_steps (fun e d grown => ?_) fuel e c' he
  refine (more _ e d grown).mono ?_
  intro result d' grown'
  cases result with
  | some b => exact grown'
  | none => exact grown'

theorem rightOperand_grows {combine : Expr → Expr} (h : Grows extra operand)
    (height : ∀ r, (combine r).height = max e.height r.height + 1) (grown : Grown extra r e c) :
    Yields (rightOperand operand combine) c fun result c' => Grown extra r (result.getD e) c' := by
  simp only [rightOperand, Yields.bind_iff, Yields.descend_iff, Yields.pure_iff]
  intro deep
  refine (h _).mono ?_
  intro right c' read
  exact grown.combine read (Cursor.room_descend deep).symm (height right)

theorem number_level : Level number := by
  intro c
  simp [number, digitRow]

theorem codePoint_level : Level codePoint := by
  intro c
  simp [codePoint]

theorem escaped_level (atEnd : Error) : Level (escaped atEnd) := by
  intro c
  have braces (c : Cursor) : Yields codePoint c fun _ c' => c'.room = c.room := codePoint_level c
  simp only [escaped, Yields.bind_iff, Yields.look_iff, Yields.nextChar?_iff]
  split
  case h_6 => exact braces _
  all_goals simp

theorem stringBody_level (quote : Char) (atEnd : Error) :
    ∀ fuel, Level (stringBody quote atEnd fuel)
  | 0, c => by simp [stringBody]
  | fuel + 1, c => by
    have escape (c : Cursor) : Yields (escaped atEnd) c fun _ c' => c'.room = c.room :=
      escaped_level atEnd c
    have rest (c d : Cursor) (h : d.room = c.room) :
        Yields (stringBody quote atEnd fuel) d fun _ c' => c'.room = c.room :=
      (stringBody_level quote atEnd fuel d).mono fun _ _ same => same.trans h
    simp only [stringBody, Yields.bind_iff, Yields.nextChar?_iff]
    split
    · simp
    · simp only [Yields.ite_iff, Yields.pure_iff, Yields.bind_iff, Cursor.room_pass]
      refine ⟨fun _ => trivial, fun _ => ⟨fun _ => ?_, fun _ => rest c _ rfl⟩⟩
      exact (escape _).mono fun _ d same => rest c d same

theorem quoted_level (quote : Char) : Level (quoted quote) := by
  intro c
  simp only [quoted, Yields.bind_iff, Yields.look_iff, Yields.char_iff, Yields.pure_iff]
  exact stringBody_level quote _ _ _

section Expressions

theorem items_fit {close : String} (h : Fits whole) :
    ∀ (fuel : Nat) (c : Cursor), Yields (items whole close fuel) c fun es c' =>
      c'.room = c.room ∧ heightAll es ≤ tallest c.room
  | 0, c => by simp [items]
  | fuel + 1, c => by
    simp only [items, Yields.bind_iff, Yields.skipSpace_iff, Yields.peek_iff, Yields.ite_iff,
      Yields.pure_iff, Yields.accept_iff]
    refine ⟨by simp [heightAll], ?_⟩
    intro _
    refine (h _).mono ?_
    rintro e c' ⟨room, height⟩
    rw [Cursor.room_skipped] at room height
    refine ⟨?_, by simpa [heightAll] using fun _ => ⟨room, height⟩⟩
    intro _
    refine ⟨?_, by simp⟩
    intro _
    refine (items_fit h fuel _).mono ?_
    rintro es c'' ⟨room', heights⟩
    simp only [Cursor.room_pass, Cursor.room_skipped, room] at room' heights
    exact ⟨room', max_le height heights⟩

theorem sequence_fits {close : String} (h : Fits whole) :
    Yields (sequence whole close) c fun es c' =>
      c'.room = c.room ∧ heightAll es ≤ tallest c.room := by
  simp only [sequence, Yields.bind_iff, Yields.bracketed_iff, Yields.look_iff]
  refine (items_fit h _ _).mono ?_
  intro es c' hes
  simp only [Yields.skipSpace_iff, Yields.pure_iff, Yields.expect_iff]
  exact fun _ => hes

theorem arguments_fit (h : Fits whole) :
    Yields (arguments whole) c fun es c' => c'.room = c.room ∧ heightAll es ≤ tallest c.room := by
  simp only [arguments, Yields.bind_iff, Yields.expect_iff]
  intro _
  exact sequence_fits h

theorem enclosed_fits {close : String} (h : Fits whole) : Fits (enclosed whole close) := by
  intro c
  simp only [enclosed, Yields.bind_iff, Yields.bracketed_iff]
  refine (h _).mono ?_
  intro e c' he
  simp only [Yields.skipSpace_iff, Yields.expect_iff, Yields.pure_iff]
  exact fun _ => he

/-- A term is no higher than a list of what is read within one level less. -/
theorem primary_grows (h : Fits whole) : Grows 1 (primary whole) := by
  intro c
  have leaf {e : Expr} {d : Cursor} (height : e.height = 1) (room : d.room = c.room) :
      Grown 1 c.room e d := by
    constructor <;> omega
  have number : Yields number c.skipped fun l c' => Grown 1 c.room (.literal l) c' :=
    (number_level _).mono fun l c' same => leaf rfl same
  have string (quote : Char) : Yields (quoted quote) c.skipped fun s c' =>
      Grown 1 c.room (.literal (.string s)) c' :=
    (quoted_level quote _).mono fun s c' same => leaf rfl same
  have list : Yields (sequence whole "]") (c.skipped.pass 1) fun es c' =>
      Grown 1 c.room (.list es) c' := by
    refine (sequence_fits h).mono ?_
    rintro es c' ⟨same, heights⟩
    rw [Cursor.room_pass, Cursor.room_skipped] at same heights
    constructor
    · exact same.le
    · rw [Expr.height]
      omega
  have parentheses : Yields (enclosed whole ")") (c.skipped.pass 1) fun e c' =>
      Grown 1 c.room e c' := by
    refine (enclosed_fits h _).mono ?_
    rintro e c' ⟨same, height⟩
    rw [Cursor.room_pass, Cursor.room_skipped] at same height
    constructor <;> omega
  have constant (l : Literal) (n : Nat) : Grown 1 c.room (.literal l) (c.skipped.pass n) :=
    leaf rfl rfl
  have name (name : String) (n : Nat) : Grown 1 c.room (.var name) (c.skipped.skipped.pass n) :=
    leaf rfl rfl
  simp only [primary, Yields.bind_iff, Yields.skipSpace_iff, Yields.look_iff]
  split
  · simp
  · simp [number, string, list, parentheses, constant, name]

theorem afterPoint_grows {d : Cursor} (h : Fits whole) (grown : Grown extra r e c)
    (room : d.room + 1 = c.room) :
    Yields (afterPoint whole e) d fun e' c' => Grown extra r e' c' := by
  simp only [afterPoint, Yields.bind_iff, Yields.look_iff, Yields.ite_iff, Yields.pure_iff]
  refine ⟨?_, ?_⟩
  · intro _
    refine (number_level d).mono ?_
    intro l c' same
    have positive := e.height_pos
    exact grown.over (same ▸ room) (by rw [Expr.height, Expr.height]; omega)
  · intro _
    simp only [Yields.identifier_iff, Yields.peek_iff]
    intro _ _
    refine ⟨?_, ?_⟩
    · intro _
      refine (arguments_fit h).mono ?_
      rintro args c' ⟨same, heights⟩
      refine grown.over (same ▸ room) ?_
      rw [Expr.height, heightAll, same]
      omega
    · intro _
      exact grown.over room (by rw [Expr.height]; omega)

/-- A call, an index or a point adds one level. -/
theorem trailer_grows (h : Fits whole) (grown : Grown extra r e c) :
    Yields (trailer whole e) c fun result c' => Grown extra r (result.getD e) c' := by
  simp only [trailer, Yields.bind_iff, Yields.peek_iff, Yields.ite_iff, Yields.descend_iff,
    Yields.unseen_iff, Yields.pure_iff]
  refine ⟨?_, ?_⟩
  · intro _ deep
    have room := Cursor.room_descend deep
    cases e with
    | var function =>
        simp only [Yields.bind_iff, Yields.pure_iff]
        refine (arguments_fit h).mono ?_
        rintro args c' ⟨same, heights⟩
        refine grown.over (by rw [same, room]) ?_
        simp only [Option.getD_some, Expr.height, same]
        omega
    | _ => simp
  · intro _
    refine ⟨?_, ?_⟩
    · intro _ deep
      have room := Cursor.room_descend deep
      refine (enclosed_fits h _).mono ?_
      rintro position c' ⟨same, height⟩
      rw [Cursor.room_pass] at same height
      refine grown.over (by rw [same, room]) ?_
      rw [Option.getD_some, Expr.height, same]
      omega
    · intro _
      refine ⟨?_, fun _ => grown⟩
      intro _ deep
      exact afterPoint_grows h grown (Cursor.room_descend deep).symm

theorem trailed_grows (h : Fits whole) : Grows 1 (trailed whole) :=
  extend_grows _ (primary_grows h) fun _ _ _ grown => trailer_grows h grown

theorem negated_grows (h : Fits whole) : ∀ (fuel : Nat), Grows 1 (negated whole fuel)
  | 0, c => by simp [negated]
  | fuel + 1, c => by
    simp only [negated, Yields.bind_iff, Yields.skipSpace_iff, Yields.accept_iff, Yields.ite_iff,
      Yields.descend_iff, Yields.pure_iff]
    refine ⟨?_, ?_⟩
    · intro _
      refine ⟨?_, by simp⟩
      intro _ deep
      refine (negated_grows h fuel _).mono ?_
      intro e c' read
      exact read.under (Cursor.room_descend deep) rfl
    · intro _
      refine ⟨by simp, ?_⟩
      intro _
      exact trailed_grows h _

theorem moreFactors_grows (h : Grows extra (factor whole)) (grown : Grown extra r e c) :
    Yields (moreFactors whole e) c fun result c' => Grown extra r (result.getD e) c' := by
  have operand (op : Arithmetic) (n : Nat) :
      Yields (rightOperand (factor whole) (.binary (.arith op) e)) (c.skipped.pass n)
        fun result c' => Grown extra r (result.getD e) c' :=
    rightOperand_grows h (fun _ => rfl) (grown.moved rfl)
  have none : Grown extra r e c.skipped := grown.moved rfl
  simp [moreFactors, operand, none]

theorem product_grows (h : Fits whole) : Grows 1 (product whole) :=
  extend_grows _ (negated_grows h _) fun _ _ _ grown => moreFactors_grows (negated_grows h _) grown

theorem moreTerms_grows (h : Grows extra (product whole)) (grown : Grown extra r e c) :
    Yields (moreTerms whole e) c fun result c' => Grown extra r (result.getD e) c' := by
  have operand (op : Arithmetic) (n : Nat) :
      Yields (rightOperand (product whole) (.binary (.arith op) e)) (c.skipped.pass n)
        fun result c' => Grown extra r (result.getD e) c' :=
    rightOperand_grows h (fun _ => rfl) (grown.moved rfl)
  have none : Grown extra r e c.skipped := grown.moved rfl
  simp [moreTerms, operand, none]

theorem sum_grows (h : Fits whole) : Grows 1 (sum whole) :=
  extend_grows _ (product_grows h) fun _ _ _ grown => moreTerms_grows (product_grows h) grown

/-- A negated membership test adds a level that is not counted, in addition to its own. -/
theorem compared_grows (h : Fits whole) (grown : Grown 1 r e c) :
    Yields (compared whole e) c fun e' c' => Grown 3 r e' c' := by
  have right (d : Cursor) (room : d.room = c.room) :
      Yields (sum whole) d fun e' c' => ∀ n : Expr, n.height ≤ max e.height e'.height + 2 →
        Grown 3 r n c' := by
    refine (sum_grows h d).mono ?_
    rintro e' c' read n height
    rw [room] at read
    have ⟨within, bounded⟩ := grown
    have ⟨within', bounded'⟩ := read.mono within (le_refl _)
    have further := read.room
    constructor <;> omega
  have tested (op : BinaryOp) (n : Nat) : Yields (sum whole) (c.skipped.pass n) fun e' c' =>
      Grown 3 r (.binary op e e') c' :=
    (right (c.skipped.pass n) rfl).mono fun e' c' any => any (.binary op e e') (by simp [Expr.height])
  have denied (m n : Nat) : Yields (sum whole) ((c.skipped.pass m).skipped.pass n) fun e' c' =>
      Grown 3 r (.unary .not (.binary .isIn e e')) c' :=
    (right ((c.skipped.pass m).skipped.pass n) rfl).mono fun e' c' any =>
      any (.unary .not (.binary .isIn e e')) (by simp [Expr.height])
  have alone : Grown 3 r e c.skipped := (grown.mono (le_refl _) (by omega)).moved rfl
  simp [compared, acceptNotIn, relation?, tested, denied, alone]

theorem comparison_grows (h : Fits whole) : Grows 3 (comparison whole) := by
  intro c
  rw [comparison, Yields.bind_iff]
  exact (sum_grows h c).mono fun e c' grown => compared_grows h grown

theorem denied_grows (h : Fits whole) : ∀ (fuel : Nat), Grows 3 (denied whole fuel)
  | 0, c => by simp [denied]
  | fuel + 1, c => by
    have operand (n : Nat) (deep : (c.skipped.pass n).depth < maxDepth) :
        Yields (denied whole fuel) { c.skipped.pass n with depth := (c.skipped.pass n).depth + 1 }
          fun e c' => Grown 3 c.room (.unary .not e) c' := by
      refine (denied_grows h fuel _).mono ?_
      intro e c' read
      exact read.under (Cursor.room_descend deep) rfl
    have plain : Yields (comparison whole) c.skipped (Grown 3 c.room) := comparison_grows h _
    simp [denied, acceptNot, -List.drop_one]
    exact ⟨fun _ _ deep => operand 1 deep, fun _ => ⟨fun _ deep => operand _ deep, fun _ => plain⟩⟩

theorem moreConjuncts_grows (h : Grows extra (conjunct whole)) (grown : Grown extra r e c) :
    Yields (moreConjuncts whole e) c fun result c' => Grown extra r (result.getD e) c' := by
  have operand (n : Nat) :
      Yields (rightOperand (conjunct whole) (.connect .and e)) (c.skipped.pass n)
        fun result c' => Grown extra r (result.getD e) c' :=
    rightOperand_grows h (fun _ => rfl) (grown.moved rfl)
  have none : Grown extra r e c.skipped := grown.moved rfl
  simp [moreConjuncts, acceptEither, operand, none]

theorem conjunction_grows (h : Fits whole) : Grows 3 (conjunction whole) :=
  extend_grows _ (denied_grows h _) fun _ _ _ grown => moreConjuncts_grows (denied_grows h _) grown

theorem moreDisjuncts_grows (h : Grows extra (conjunction whole)) (grown : Grown extra r e c) :
    Yields (moreDisjuncts whole e) c fun result c' => Grown extra r (result.getD e) c' := by
  have operand (n : Nat) :
      Yields (rightOperand (conjunction whole) (.connect .or e)) (c.skipped.pass n)
        fun result c' => Grown extra r (result.getD e) c' :=
    rightOperand_grows h (fun _ => rfl) (grown.moved rfl)
  have none : Grown extra r e c.skipped := grown.moved rfl
  simp [moreDisjuncts, acceptEither, operand, none]

theorem disjunction_grows (h : Fits whole) : Grows 3 (disjunction whole) :=
  extend_grows _ (conjunction_grows h) fun _ _ _ grown =>
    moreDisjuncts_grows (conjunction_grows h) grown

theorem moreFilters_grows (h : Fits whole) (grown : Grown extra r e c) :
    Yields (moreFilters whole e) c fun result c' => Grown extra r (result.getD e) c' := by
  have none : Grown extra r e c.skipped := grown.moved rfl
  simp only [moreFilters, Yields.bind_iff, Yields.skipSpace_iff, Yields.peek_iff, Yields.ite_iff,
    Yields.unseen_iff, Yields.descend_iff, Yields.identifier_iff, Yields.pure_iff]
  refine ⟨?_, fun _ => none⟩
  intro _ deep _ _
  have room := Cursor.room_descend deep
  refine ⟨?_, ?_⟩
  · intro _
    refine (arguments_fit h).mono ?_
    rintro args c' ⟨same, heights⟩
    rw [Cursor.room_pass, Cursor.room_skipped] at same heights
    refine none.over (by rw [same]; exact room.symm) ?_
    rw [Option.getD_some, Expr.height, heightAll, same]
    omega
  · intro _
    exact none.over room.symm (by simp [Expr.height, heightAll])

theorem filtered_grows (h : Fits whole) : Grows 3 (filtered whole) :=
  extend_grows _ (disjunction_grows h) fun _ _ _ grown => moreFilters_grows h grown

/-- A complete expression is no higher than its room allows. -/
theorem expressionWithin_fits (levels : Nat) : Fits (expressionWithin levels) := by
  induction levels with
  | zero =>
      intro c
      simp [expressionWithin]
  | succ levels ih =>
      intro c
      simp only [expressionWithin, Yields.keepingDepth_iff, Yields.bind_iff, Yields.descend_iff]
      intro deep
      have room := Cursor.room_descend deep
      refine (filtered_grows ih _).mono ?_
      rintro e c' ⟨-, height⟩
      refine ⟨rfl, ?_⟩
      rw [room, tallest]
      omega

end Expressions

/-- No complete expression is higher than the highest within all levels. -/
theorem expression_height_le (c : Cursor) :
    Yields expression c fun e _ => e.height ≤ tallest maxDepth := by
  refine (expressionWithin_fits _ c).mono ?_
  rintro e c' ⟨-, height⟩
  exact height.trans (tallest_mono (Nat.sub_le _ _))

/-- Whatever is read is no higher than the highest expression within all levels. -/
theorem height_le (text : List Char) :
    (∀ e, readExpression text = .ok e → e.height ≤ tallest maxDepth) ∧
      (∀ ss, readStatements text = .ok ss →
        BlockEvery IsName (fun e => e.height ≤ tallest maxDepth) ss) ∧
      ∀ h, readHeader text = .ok h → h.Every IsName fun e => e.height ≤ tallest maxDepth :=
  ⟨fun _ => readExpression_every expression_height_le,
    fun _ => readStatements_every expression_height_le,
    fun _ => readHeader_every expression_height_le⟩

example : tallest maxDepth = 8512 := by decide +kernel

/-- A text with members of members upon it. -/
def members (n : Nat) (text : List Char) : List Char := text ++ (List.replicate n ['.', 'a']).flatten

/-- Members of a list of members of a list of members: each bracket gives back what was used up. -/
def membersInLists : List Char :=
  members 127 ('[' :: members 126 ('[' :: members 125 ['x'] ++ [']']) ++ [']'])

/-- The levels of what is read can be far more than are ever counted at a time. -/
theorem membersInLists_height :
    ∃ e, readExpression membersInLists = .ok e ∧ e.height = 381 ∧ 2 * maxDepth < e.height ∧
      e.height ≤ tallest maxDepth := by
  have read : ((readExpression membersInLists).toOption.map Expr.height) = some 381 := by
    decide +kernel
  obtain ⟨e, found, height⟩ := Option.map_eq_some_iff.1 read
  have ok : readExpression membersInLists = .ok e := by
    cases result : readExpression membersInLists with
    | ok e' =>
        rw [result] at found
        cases found
        rfl
    | error error =>
        rw [result] at found
        cases found
  exact ⟨e, ok, height, by rw [height, maxDepth]; omega, (height_le membersInLists).1 e ok⟩

end Script

end Stencil
