import Stencil.Proofs.Script.Ladder

/-!
# Written expressions are read back

By induction on an expression, the reader of its strength takes its text for the expression: the
operands are read by the readers of the strengths that the text encloses them for. No reader takes
the text for another expression, and if no comparisons are chained it gives up only where the
expression needs more levels than there are.
-/

namespace Stencil

/-- The reader of complete expressions takes the text of an expression for the expression. -/
def Expr.ReadsWhole (e : Expr) : Prop :=
  ∀ levels brackets, Script.Reads levels brackets 0 0 e.chars e e.climb e.chains

namespace Script

section Brackets

variable {levels brackets d : Nat} {text tail : List Char} {e : Expr} {c : Cursor} {a : Climb}
variable {close : String} {x : Char} {chained : Bool} {E : Error → Prop}

/-- A complete expression inside or outside brackets. -/
theorem whole_back {Q : Expr → Cursor → Prop}
    (reads : ∀ levels, Reads levels brackets 0 0 text e a chained) (room : Enough levels d)
    (there : At brackets d (' ' :: text ++ tail) c) (follows : Follows brackets 0 tail)
    (excused : ∀ err, Excuse a.inside chained d err → E err)
    (next : d + a.inside.peak ≤ maxDepth → ∀ c', At brackets d tail c' → Q e c')
    (stuck : chained = true → ∀ e' c', Stuck brackets c' → Q e' c') :
    Ends (expressionWithin levels) c Q E := by
  obtain ⟨levels, rfl⟩ := Nat.exists_eq_add_one_of_ne_zero room.ne_zero
  simp [expressionWithin, there.depth]
  refine ⟨fun full => excused _ (.full full (by simp) rfl), fun more => ?_⟩
  refine reads levels (maxDepth + 1) (room.next more) (enough_start more)
    ⟨there.brackets, rfl, there.rest⟩ follows (Nat.le_refl 0) (fun err h => excused err h.inside)
    ?_ ?_
  · intro f c' fits enough there'
    refine extend_stops (stepAt_stops follows (.inl rfl)) there'
      (fun zero => absurd zero enough.ne_zero) ?_
    intro c'' there''
    exact next (by simp; omega) _ ⟨there''.brackets, rfl, there''.rest⟩
  · rintro - chains e' c' ⟨d', tail', follows', there'⟩
    exact stuck chains e' _ ⟨_, tail', follows', there'.brackets, rfl, there'.rest⟩

theorem At.closer (closes : x = ')' ∨ x = ']') (there : At brackets d (x :: tail) c) :
    At brackets d (x :: tail) c.skipped := by
  have follows : Follows brackets 0 (x :: tail) :=
    .closer tail (by rcases closes with rfl | rfl <;> simp)
  exact (there.skipped follows.solid).1

theorem expect_back {Q : Unit → Cursor → Prop} (closes : x = ')' ∨ x = ']')
    (chars : close.toList = [x]) (there : At brackets d (x :: tail) c)
    (next : ∀ c', At brackets d tail c' → Q () c') : Ends (expect close) c Q E := by
  have rest : c.rest = x :: tail :=
    there.rest_eq (by rcases closes with rfl | rfl <;> decide)
  have one : close.length = 1 := by
    rw [← String.length_toList, chars]
    rfl
  have found : c.startsWith close = true := by simp [Cursor.startsWith, rest, chars]
  simp [found]
  refine next _ ⟨there.brackets, there.depth, .inl ?_⟩
  rw [Cursor.rest_pass, rest, one]
  rfl

theorem Stuck.not_closer (closes : x = ')' ∨ x = ']') (chars : close.toList = [x])
    (h : Stuck brackets c) : c.skipped.startsWith close = false := by
  have only : strengthsOf close = [0] := by
    rw [strengthsOf, chars]
    rcases closes with rfl | rfl <;> decide
  exact h.not_startsWith only (by decide)

/-- An expression in brackets. -/
theorem enclosed_back {Q : Expr → Cursor → Prop} (closes : x = ')' ∨ x = ']')
    (chars : close.toList = [x])
    (reads : ∀ levels brackets, Reads levels brackets 0 0 text e a chained)
    (room : Enough levels d) (there : At brackets d (' ' :: text ++ x :: tail) c)
    (excused : ∀ err, Excuse a.inside chained d err → E err)
    (next : d + a.inside.peak ≤ maxDepth → ∀ c', At brackets d tail c' → Q e c') :
    Ends (enclosed (expressionWithin levels) close) c Q E := by
  simp only [enclosed, Ends.bind_iff, Ends.bracketed_iff, Ends.skipSpace_iff]
  have follows : Follows (brackets + 1) 0 (x :: tail) :=
    .closer tail (by rcases closes with rfl | rfl <;> simp)
  have inside : At (brackets + 1) d (' ' :: text ++ x :: tail)
      { c with brackets := c.brackets + 1 } := ⟨by rw [there.brackets], there.depth, there.rest⟩
  refine whole_back (fun levels => reads levels _) room inside follows excused ?_ ?_
  · intro fits c' there'
    have outside : At brackets d (x :: tail) { c' with brackets := c.brackets } :=
      ⟨there.brackets, there'.depth, there'.rest⟩
    refine expect_back closes chars (outside.closer closes) ?_
    simpa using next fits
  · intro chains e' c' stuck
    have outside : Stuck brackets { c' with brackets := c.brackets } := by
      rw [there.brackets]
      exact stuck.within
    simp [outside.not_closer closes chars, excused _ (.inl chains)]

/-- The text of a list of expressions in front of a closing bracket. -/
def itemsChars (es : List Expr) (tail : List Char) : List Char :=
  Text.joinWith [',', ' '] (Expr.listChars es) ++ tail

theorem itemsChars_nil : itemsChars [] tail = tail := rfl

theorem itemsChars_one : itemsChars [e] tail = e.chars ++ tail := by
  simp [itemsChars, Expr.listChars, Text.joinWith]

theorem itemsChars_more (e' : Expr) (es : List Expr) :
    itemsChars (e :: e' :: es) tail = e.chars ++ ',' :: ' ' :: itemsChars (e' :: es) tail := by
  simp [itemsChars, Expr.listChars, Text.joinWith]

/-- The first of some expressions, and what is done behind it. -/
theorem item_back (closes : x = ')' ∨ x = ']') (chars : close.toList = [x])
    (reads : e.ReadsWhole) (legible : e.IsLegible Literal.IsReadable) (fuel : Nat)
    {Q : List Expr → Cursor → Prop} (room : Enough levels d)
    (there : At brackets d (' ' :: e.chars ++ tail) c) (follows : Follows brackets 0 tail)
    (excused : ∀ err, Excuse e.climb.inside e.chains d err → E err)
    (next : d + e.climb.inside.peak ≤ maxDepth → ∀ c', At brackets d tail c' →
      (c'.skipped.startsWith "," = true →
        Ends (items (expressionWithin levels) close fuel) (c'.skipped.pass ",".length)
          (fun es c'' => Q (e :: es) c'') E) ∧
      (c'.skipped.startsWith "," = false → Q [e] c'.skipped))
    (stuck : e.chains = true → ∀ es c', Stuck brackets c' → Q es c') :
    Ends (items (expressionWithin levels) close (fuel + 1)) c Q E := by
  have opening : Opening brackets e.strength (e.chars ++ tail) := Expr.opening legible follows
  obtain ⟨at', rest⟩ := there.skipped opening.solid
  have opened : c.skipped.startsWith close = false := by
    refine opening.not_startsWith rest ⟨x, [], chars, ?_⟩
    rcases closes with rfl | rfl
    · exact ⟨by decide, by decide, by decide, by decide, fun minus => by cases minus⟩
    · exact ⟨by decide, by decide, by decide, by decide, fun minus => by cases minus⟩
  simp only [items, Ends.bind_iff, Ends.skipSpace_iff, Ends.peek_iff, opened,
    Bool.false_eq_true, if_false]
  refine whole_back (fun levels => reads levels _) room at' follows excused ?_ ?_
  · intro fits c' there'
    simpa using next fits c' there'
  · intro chains e' c' h
    have noComma : c'.skipped.startsWith "," = false :=
      h.not_startsWith (by decide : strengthsOf "," = [0]) (by decide)
    simp [noComma]
    exact stuck chains _ _ h.skipped

/-- Expressions separated by commas. -/
theorem items_back (closes : x = ')' ∨ x = ']') (chars : close.toList = [x]) :
    ∀ {es : List Expr}, (∀ e ∈ es, e.ReadsWhole) →
    (∀ e ∈ es, e.IsLegible Literal.IsReadable) → ∀ (fuel : Nat) {c : Cursor}
    {Q : List Expr → Cursor → Prop}, Enough levels d →
    At brackets d (' ' :: itemsChars es (x :: tail)) c → c.rest.length < fuel →
    (∀ err, Excuse (climbAll es) (chainsAny es) d err → E err) →
    (d + (climbAll es).peak ≤ maxDepth → ∀ c', At brackets d (x :: tail) c' → Q es c') →
    (chainsAny es = true → ∀ es' c', Stuck brackets c' → Q es' c') →
    Ends (items (expressionWithin levels) close fuel) c Q E
  | _, _, _, 0, _, _, _, _, enough, _, _, _ => absurd enough (Nat.not_lt_zero _)
  | [], _, _, fuel + 1, c, Q, room, there, _, _, next, _ => by
    obtain ⟨at', rest⟩ := there.skipped (by
      rcases closes with rfl | rfl <;> exact solid_cons (by decide) (by decide))
    have closed : c.skipped.startsWith close := by
      simp [Cursor.startsWith, rest, chars, unspaced, itemsChars_nil]
    simp [items, closed]
    exact next (by simpa [climbAll] using room.within) _ ⟨at'.brackets, at'.depth, .inl rest⟩
  | [e], reads, legible, fuel + 1, c, Q, room, there, _, excused, next, stuck => by
    rw [itemsChars_one] at there
    have follows : Follows brackets 0 (x :: tail) :=
      .closer tail (by rcases closes with rfl | rfl <;> simp)
    simp only [climbAll, Climb.append_flat, chainsAny, Bool.or_false] at excused next stuck
    refine item_back closes chars (reads e (by simp)) (legible e (by simp)) fuel room there follows
      excused ?_ stuck
    intro fits c' there'
    obtain ⟨again, rest⟩ := there'.skipped follows.solid
    have noComma : c'.skipped.startsWith "," = false := by
      rw [Cursor.startsWith, rest]
      rcases closes with rfl | rfl <;> rfl
    simp [noComma]
    exact next fits _ again
  | e :: e' :: es, reads, legible, fuel + 1, c, Q, room, there, enough, excused, next, stuck => by
    rw [itemsChars_more] at there
    have follows : Follows brackets 0 (',' :: ' ' :: itemsChars (e' :: es) (x :: tail)) :=
      .closer _ (by simp)
    have long := there.length_le
    rw [climbAll, chainsAny] at excused
    rw [climbAll] at next
    rw [chainsAny] at stuck
    refine item_back closes chars (reads e (by simp)) (legible e (by simp)) fuel room there follows
      (fun err h => excused err h.left) ?_ fun chains => stuck (by simp [chains])
    intro fits c' there'
    obtain ⟨again, rest⟩ := there'.skipped follows.solid
    have comma : c'.skipped.startsWith "," := by simp [Cursor.startsWith, rest, unspaced]
    have rest' : (c'.skipped.pass ",".length).rest = ' ' :: itemsChars (e' :: es) (x :: tail) := by
      rw [Cursor.rest_pass, rest]
      rfl
    simp [comma]
    refine items_back closes chars (fun e h => reads e (List.mem_cons_of_mem _ h))
      (fun e h => legible e (List.mem_cons_of_mem _ h)) fuel room
      ⟨again.brackets, again.depth, .inl rest'⟩ ?_ (fun err h => excused err h.right) ?_ ?_
    · rw [rest']
      simp at long ⊢
      omega
    · intro fits'
      exact next (by simp at fits fits' ⊢; omega)
    · intro chains es' c'' h
      exact stuck (by simp [chains]) _ _ h

/-- A row of expressions in brackets, behind the opening one. -/
theorem sequence_back (closes : x = ')' ∨ x = ']') (chars : close.toList = [x]) {es : List Expr}
    (reads : ∀ e ∈ es, e.ReadsWhole) (legible : ∀ e ∈ es, e.IsLegible Literal.IsReadable)
    {Q : List Expr → Cursor → Prop} (room : Enough levels d)
    (there : At brackets d (' ' :: itemsChars es (x :: tail)) c)
    (excused : ∀ err, Excuse (climbAll es) (chainsAny es) d err → E err)
    (next : d + (climbAll es).peak ≤ maxDepth → ∀ c', At brackets d tail c' → Q es c') :
    Ends (sequence (expressionWithin levels) close) c Q E := by
  simp only [sequence, Ends.bind_iff, Ends.bracketed_iff, Ends.look_iff, Ends.skipSpace_iff,
    Ends.pure_iff]
  have inside : At (brackets + 1) d (' ' :: itemsChars es (x :: tail))
      { c with brackets := c.brackets + 1 } := ⟨by rw [there.brackets], there.depth, there.rest⟩
  refine items_back closes chars reads legible _ room inside (Nat.lt_succ_self _) excused ?_ ?_
  · intro fits c' there'
    have outside : At brackets d (x :: tail) { c'.skipped with brackets := c.brackets } :=
      ⟨there.brackets, there'.depth, (there'.closer closes).rest⟩
    exact expect_back closes chars outside (next fits)
  · intro chains es' c' h
    rw [Ends.expect_iff]
    refine ⟨fun found => ?_, fun _ => excused _ (.inl chains)⟩
    exact absurd (found.symm.trans (h.not_closer closes chars)) (by decide)

/-- The arguments of a call. -/
theorem arguments_back {es : List Expr} (reads : ∀ e ∈ es, e.ReadsWhole)
    (legible : ∀ e ∈ es, e.IsLegible Literal.IsReadable) {Q : List Expr → Cursor → Prop}
    (room : Enough levels d) (within : c.brackets = brackets) (atDepth : c.depth = d)
    (rest : c.rest = '(' :: itemsChars es (')' :: tail))
    (excused : ∀ err, Excuse (climbAll es) (chainsAny es) d err → E err)
    (next : d + (climbAll es).peak ≤ maxDepth → ∀ c', At brackets d tail c' → Q es c') :
    Ends (arguments (expressionWithin levels)) c Q E := by
  have opened : c.startsWith "(" = true := by simp [Cursor.startsWith, rest]
  simp only [arguments, Ends.bind_iff, Ends.expect_iff, opened, true_implies, Bool.true_eq_false,
    false_implies, and_true]
  refine sequence_back (.inl rfl) (by decide) reads legible room ⟨within, atDepth, .inr ?_⟩ excused
    next
  rw [Cursor.rest_pass, rest]
  rfl

end Brackets

section Operands

variable {levels brackets : Nat} {text : List Char} {e : Expr} {a : Climb} {chained : Bool}

/-- An expression in parentheses binds tighter than any operator. -/
theorem reads_enclosed (reads : ∀ levels brackets, Reads levels brackets 0 0 text e a chained) :
    Reads levels brackets 8 8 ('(' :: text ++ [')']) e a.inside chained := by
  intro fuel d p c tail Q E room _ there follows _ excused next _
  show Ends (trailed _) c Q E
  obtain ⟨at', rest⟩ := there.skipped (solid_cons (by decide) (by decide))
  have start : c.skipped.rest.head? = some '(' := by
    rw [rest]
    rfl
  rw [trailed, Ends.bind_iff]
  simp [primary, start]
  have behind : At brackets d (' ' :: text ++ ')' :: tail) (c.skipped.pass 1) := by
    refine ⟨at'.brackets, at'.depth, .inr ?_⟩
    rw [Cursor.rest_pass, rest]
    simp [unspaced]
  refine enclosed_back (.inl rfl) (by decide) reads room behind excused ?_
  intro fits c' there'
  exact next _ c' fits (enough_start room.within) there'

end Operands

/-! ### One lemma for each way to build an expression -/

section Constructions

variable {levels brackets n : Nat} {text text' : List Char} {e e' : Expr} {es : List Expr}
variable {name : String} {a b : Climb} {chained chained' : Bool}

theorem reads_literal {l : Literal} (readable : l.IsReadable) :
    Reads levels brackets 8 8 l.chars (.literal l) .flat false := by
  intro fuel d p c tail Q E room _ there follows _ _ next _
  show Ends (trailed _) c Q E
  rw [trailed, Ends.bind_iff]
  exact primary_literal readable follows.ends follows.startsFraction there fun c' =>
    next _ c' room.within (enough_start room.within)

theorem reads_var (isName : IsName name) :
    Reads levels brackets 8 8 name.toList (.var name) .flat false := by
  intro fuel d p c tail Q E room _ there follows _ _ next _
  show Ends (trailed _) c Q E
  rw [trailed, Ends.bind_iff]
  exact primary_var isName follows.ends there fun c' =>
    next _ c' room.within (enough_start room.within)

theorem reads_list (legible : ∀ e ∈ es, e.IsLegible Literal.IsReadable)
    (reads : ∀ e ∈ es, e.ReadsWhole) :
    Reads levels brackets 8 8 ('[' :: itemsChars es [']']) (.list es) (climbAll es)
      (chainsAny es) := by
  intro fuel d p c tail Q E room _ there follows _ excused next _
  show Ends (trailed _) c Q E
  obtain ⟨at', rest⟩ := there.skipped (solid_cons (by decide) (by decide))
  have start : c.skipped.rest.head? = some '[' := by
    rw [rest]
    rfl
  rw [trailed, Ends.bind_iff]
  simp [primary, start]
  have behind : At brackets d (' ' :: itemsChars es (']' :: tail)) (c.skipped.pass 1) := by
    refine ⟨at'.brackets, at'.depth, .inr ?_⟩
    rw [Cursor.rest_pass, rest]
    simp [unspaced, itemsChars]
  refine sequence_back (.inr rfl) (by decide) reads legible room behind excused ?_
  intro fits c' there'
  have level : d = d + (climbAll es).rise := by simp
  exact next _ c' fits (enough_start (by simpa using room.within)) (there'.cast level)

theorem reads_call (isName : IsName name) (legible : ∀ e ∈ es, e.IsLegible Literal.IsReadable)
    (reads : ∀ e ∈ es, e.ReadsWhole) :
    Reads levels brackets 8 8 (name.toList ++ '(' :: itemsChars es [')']) (.call name es)
      (.step ++ climbAll es) (chainsAny es) := by
  intro fuel d p c tail Q E room _ there follows _ excused next _
  show Ends (trailed _) c Q E
  rw [trailed, Ends.bind_iff]
  have text : ' ' :: (name.toList ++ '(' :: itemsChars es [')']) ++ tail =
      ' ' :: name.toList ++ '(' :: itemsChars es (')' :: tail) := by
    simp [itemsChars]
  rw [text] at there
  have ends : ('(' :: itemsChars es (')' :: tail)).head?.any isWordChar = false :=
    (by decide : isWordChar '(' = false)
  refine primary_var isName ends there ?_
  intro c' there'
  have rest := there'.rest_eq (by decide)
  simp [extend, trailer, Cursor.startsWith, rest, there'.depth]
  refine ⟨fun full => excused _ (.full full (by simp) rfl), fun more => ?_⟩
  refine arguments_back reads legible (room.up (Nat.le_succ d) more) there'.brackets rfl rfl
    (fun err h => excused err h.above) ?_
  intro fits c'' there''
  have level : d + 1 = d + (Climb.step ++ climbAll es).rise := by simp
  have enough : Enough maxDepth (d + 1) := ⟨more, by omega⟩
  exact next _ c'' (by simp; omega) (level ▸ enough) (there''.cast level)

theorem reads_index (target : Reads levels brackets 8 8 text e a chained)
    (position : ∀ levels brackets, Reads levels brackets 0 0 text' e' b chained') :
    Reads levels brackets 8 8 (text ++ '[' :: text' ++ [']']) (.index e e')
      (a ++ (.step ++ b.inside)) (chained || chained') := by
  intro fuel d p c tail Q E room enough there follows _ excused next _
  have split : ' ' :: (text ++ '[' :: text' ++ [']']) ++ tail =
      ' ' :: text ++ '[' :: (text' ++ ']' :: tail) := by
    simp
  rw [split] at there
  refine target fuel room enough there (.position _) (Nat.le_refl 8)
    (fun err h => excused err h.left) ?_ (by omega)
  intro f c' fits enough' there'
  have rest := there'.rest_eq (by decide)
  obtain ⟨f, rfl⟩ := Nat.exists_eq_add_one_of_ne_zero enough'.ne_zero
  simp [extend, stepAt, trailer, Cursor.startsWith, rest, List.isPrefixOf, there'.depth]
  refine ⟨fun full => excused _ (Excuse.full full (by simp) rfl).right, fun more => ?_⟩
  have behind : At brackets (d + a.rise + 1) (' ' :: text' ++ ']' :: tail)
      ({ c' with depth := d + a.rise + 1 }.pass 1) := by
    refine ⟨there'.brackets, rfl, .inr ?_⟩
    rw [Cursor.rest_pass, rest]
    rfl
  rw [rest] at behind
  have deeper := enough'.next more
  refine enclosed_back (.inr rfl) (by decide) position (room.up (by omega) more) behind
    (fun err h => excused err h.above.right) ?_
  intro fits' d' there''
  have level : d + a.rise + 1 = d + (a ++ (.step ++ b.inside)).rise := by simp; omega
  exact next _ d' (by simp at fits' ⊢; omega) (level ▸ deeper) (there''.cast level)

theorem reads_member (target : Reads levels brackets 8 8 text e a chained)
    (isName : IsName name) :
    Reads levels brackets 8 8 (text ++ '.' :: name.toList) (.member e name) (a ++ .step)
      chained := by
  intro fuel d p c tail Q E room enough there follows _ excused next _
  have split : ' ' :: (text ++ '.' :: name.toList) ++ tail =
      ' ' :: text ++ ('.' :: name.toList ++ tail) := by
    simp
  rw [split] at there
  refine target fuel room enough there (.member _ isName) (Nat.le_refl 8)
    (fun err h => excused err (h.mono id (by simp))) ?_ (by omega)
  intro f c' fits enough' there'
  have rest : c'.rest = '.' :: (name.toList ++ tail) := there'.rest_eq (by decide)
  obtain ⟨f, rfl⟩ := Nat.exists_eq_add_one_of_ne_zero enough'.ne_zero
  simp [extend, stepAt, trailer, Cursor.startsWith, rest, List.isPrefixOf, there'.depth,
    -Ends.identifier_iff]
  refine ⟨fun full => ?_, fun more => ?_⟩
  · have few : Excuse .step chained (d + a.rise) (c'.error .nestedTooDeeply) :=
      .full full (by simp) rfl
    exact excused _ (few.mono id (by simp))
  generalize behind : Cursor.pass _ ".".length = d'
  have within : d'.brackets = brackets := by
    rw [← behind]
    exact there'.brackets
  have atDepth : d'.depth = d + a.rise + 1 := by
    rw [← behind]
    rfl
  have rest' : d'.rest = name.toList ++ tail := by
    rw [← behind]
    rfl
  have letter : d'.startsWithChar Char.isDigit = false := by
    obtain ⟨x, xs, chars⟩ := List.exists_cons_of_ne_nil isName.nonempty
    simpa [Cursor.startsWithChar, rest', chars] using isName.letter
  have deeper := enough'.next more
  simp [afterPoint, letter, -Ends.identifier_iff]
  refine identifier_back isName follows.ends ⟨within, atDepth, .inr (by rw [rest']; rfl)⟩ ?_
  intro last there''
  simp [follows.not_call there'']
  exact next _ last (by simp; omega) deeper there''

theorem reads_neg (operand : Reads levels brackets 7 7 text e a chained) :
    Reads levels brackets 7 7 ('-' :: text) (.unary .neg e) (.step ++ a) chained := by
  intro fuel d p c tail Q E room enough there follows bound excused next _
  obtain ⟨at', rest⟩ := there.skipped (solid_cons (by decide) (by decide))
  have sign : c.skipped.startsWith "-" := by simp [Cursor.startsWith, rest, unspaced]
  obtain ⟨fuel, rfl⟩ := Nat.exists_eq_add_one_of_ne_zero enough.ne_zero
  show Ends (negated _ (fuel + 1)) c Q E
  simp [negated, sign, there.depth]
  refine ⟨fun full => excused _ (.full full (by simp) rfl), fun more => ?_⟩
  refine operand fuel (room.up (by omega) more) (enough.next more) ⟨at'.brackets, rfl, .inr ?_⟩
    follows bound (fun err h => excused err h.above) ?_ (by omega)
  · show _ = ' ' :: (text ++ tail)
    simp [rest, unspaced]
    rfl
  · intro f c' fits enough' there'
    have level : d + 1 + a.rise = d + (Climb.step ++ a).rise := by simp; omega
    refine extend_idle enough'.ne_zero (Ends.of_extend_idle (E := E) enough'.ne_zero ?_)
    exact next f c' (by simp; omega) (level ▸ enough') (there'.cast level)

theorem reads_not (operand : Reads levels brackets 3 3 text e a chained) :
    Reads levels brackets 3 3 (['n', 'o', 't', ' '] ++ text) (.unary .not e) (.step ++ a)
      chained := by
  intro fuel d p c tail Q E room enough there follows bound excused next stuck
  obtain ⟨at', rest⟩ := there.skipped (solid_word (by decide))
  have word : c.skipped.word = ['n', 'o', 't'] := word_keyword (by decide) (rest.trans (by rfl))
  have sign : c.skipped.startsWith "!" = false := by
    simp [Cursor.startsWith, rest, unspaced, List.isPrefixOf]
  obtain ⟨fuel, rfl⟩ := Nat.exists_eq_add_one_of_ne_zero enough.ne_zero
  show Ends (denied _ (fuel + 1)) c Q E
  simp [denied, acceptNot, sign, word, there.depth]
  refine ⟨fun full => excused _ (.full full (by simp) rfl), fun more => ?_⟩
  refine operand fuel (room.up (by omega) more) (enough.next more) ⟨at'.brackets, rfl, .inl ?_⟩
    follows bound (fun err h => excused err h.above) ?_
    fun _ chains e' c' => stuck (by omega) chains _ c'
  · simp [rest, unspaced]
    rfl
  · intro f c' fits enough' there'
    have level : d + 1 + a.rise = d + (Climb.step ++ a).rise := by simp; omega
    refine extend_idle enough'.ne_zero (Ends.of_extend_idle (E := E) enough'.ne_zero ?_)
    exact next f c' (by simp; omega) (level ▸ enough') (there'.cast level)

/-- Two operands, in front of what follows the second one. -/
theorem operands_append (symbol tail : List Char) :
    ' ' :: (text ++ ' ' :: symbol ++ ' ' :: text') ++ tail =
      ' ' :: text ++ (' ' :: symbol ++ ' ' :: (text' ++ tail)) := by
  simp

theorem reads_connect {op : Connective}
    (left : Reads levels brackets op.strength op.strength text e a chained)
    (right : Reads levels brackets (op.strength + 1) (op.strength + 1) text' e' b chained') :
    Reads levels brackets op.strength op.strength
      (text ++ ' ' :: op.symbol.toList ++ ' ' :: text') (.connect op e e') (a ++ (.step ++ b))
      (chained || chained') := by
  intro fuel d p c tail Q E room enough there follows bound excused next stuck
  rw [operands_append] at there
  refine left fuel room enough there (.connective op _) (Nat.le_refl _)
    (fun err h => excused err h.left) ?_ fun loose chains => stuck loose (by simp [chains])
  intro f c' fits enough' before
  obtain ⟨f, rfl⟩ := Nat.exists_eq_add_one_of_ne_zero enough'.ne_zero
  rw [extend, Ends.bind_iff]
  refine stepAt_connective op before
    (fun full err h => excused err (Excuse.full full (by simp) h).right) ?_
  intro more c'' behind
  have deeper := enough'.next more
  refine right _ (room.up (by omega) more) (enough_start more) behind follows (by omega)
    (fun err h => excused err h.above.right) ?_ ?_
  · intro f' last fits' enough'' there'
    have level : d + a.rise + 1 + b.rise = d + (a ++ (.step ++ b)).rise := by simp; omega
    refine extend_stops (stepAt_stops follows (.inr (by omega))) there'
      (fun zero => absurd zero enough''.ne_zero) ?_
    intro last' there''
    exact next f last' (by simp; omega) (level ▸ deeper.rise fits') (there''.cast level)
  · rintro loose chains e'' last ⟨d', tail', follows', there'⟩
    have chains' : (chained || chained') = true := by simp [chains]
    refine extend_stops (stepAt_stops follows' (.inr (by omega))) there'
      (fun _ err => excused err (.inl chains')) ?_
    intro last' there''
    exact stuck (by omega) chains' _ last' ⟨d', tail', follows', there''⟩

theorem reads_arith {op : Arithmetic}
    (left : Reads levels brackets (BinaryOp.arith op).strength (BinaryOp.arith op).strength text e a
      chained)
    (right : Reads levels brackets ((BinaryOp.arith op).strength + 1)
      ((BinaryOp.arith op).strength + 1) text' e' b chained') :
    Reads levels brackets (BinaryOp.arith op).strength (BinaryOp.arith op).strength
      (text ++ ' ' :: op.symbol.toList ++ ' ' :: text') (.binary (.arith op) e e')
      (a ++ (.step ++ b)) (chained || chained') := by
  intro fuel d p c tail Q E room enough there follows bound excused next stuck
  rw [operands_append] at there
  have tight : 5 ≤ (BinaryOp.arith op).strength := by cases op <;> decide
  refine left fuel room enough there (.operator (.arith op) _) (Nat.le_refl _)
    (fun err h => excused err h.left) ?_ (by omega)
  intro f c' fits enough' before
  obtain ⟨f, rfl⟩ := Nat.exists_eq_add_one_of_ne_zero enough'.ne_zero
  rw [extend, Ends.bind_iff]
  refine stepAt_arith op before
    (fun full err h => excused err (Excuse.full full (by simp) h).right) ?_
  intro more c'' behind
  have deeper := enough'.next more
  refine right _ (room.up (by omega) more) (enough_start more) behind follows (by omega)
    (fun err h => excused err h.above.right) ?_ (by omega)
  intro f' last fits' enough'' there'
  have level : d + a.rise + 1 + b.rise = d + (a ++ (.step ++ b)).rise := by simp; omega
  refine extend_stops (stepAt_stops follows (.inr (by omega))) there'
    (fun zero => absurd zero enough''.ne_zero) ?_
  intro last' there''
  exact next f last' (by simp; omega) (level ▸ deeper.rise fits') (there''.cast level)

/-- A comparison of two sums. -/
theorem reads_compare {op : BinaryOp} (compares : op.strength = 4)
    (left : Reads levels brackets 5 5 text e a chained)
    (right : Reads levels brackets 5 5 text' e' b chained') :
    Reads levels brackets 4 4 (text ++ ' ' :: op.symbol.toList ++ ' ' :: text')
      (.binary op e e') (a ++ b) (chained || chained') := by
  intro fuel d p c tail Q E room enough there follows bound excused next stuck
  rw [operands_append] at there
  have operator : Follows brackets op.strength
      (' ' :: op.symbol.toList ++ ' ' :: (text' ++ tail)) := .operator op _
  show Ends (comparison _) c Q E
  rw [comparison, Ends.bind_iff]
  refine left fuel room enough there operator (by omega) (fun err h => excused err h.left) ?_
    (by omega)
  intro f c' fits enough' before
  refine extend_stops (stepAt_stops operator (.inr (by omega))) before
    (fun zero => absurd zero enough'.ne_zero) ?_
  intro c'' again
  refine compared_operator compares again ?_
  intro last behind
  refine right fuel (room.rise fits) (enough.rise fits) behind follows (by omega)
    (fun err h => excused err h.right) ?_ (by omega)
  intro f' last' fits' enough'' there'
  have level : d + a.rise + b.rise = d + (a ++ b).rise := by simp; omega
  refine extend_stops (stepAt_stops follows (.inr (by omega))) there'
    (fun zero => absurd zero enough''.ne_zero) ?_
  intro last'' there''
  exact Ends.of_extend_idle enough''.ne_zero
    (next f' last'' (by simp; omega) (level ▸ enough'') (there''.cast level))

/-- The reader stops in front of the second of two comparisons. -/
theorem reads_chain {op : BinaryOp} (compares : op.strength = 4)
    (left : Reads levels brackets 4 4 text e a chained) :
    Reads levels brackets 4 4 (text ++ ' ' :: op.symbol.toList ++ ' ' :: text')
      (.binary op e e') b true := by
  intro fuel d p c tail Q E room enough there follows bound excused next stuck
  rw [operands_append] at there
  have operator : Follows brackets op.strength
      (' ' :: op.symbol.toList ++ ' ' :: (text' ++ tail)) := .operator op _
  refine left fuel room enough there operator (by omega) (fun err _ => excused err (.inl rfl)) ?_
    fun loose _ => stuck loose rfl
  intro f c' _ enough' before
  rw [compares] at operator
  exact extend_idle enough'.ne_zero (stuck (by omega) rfl e c' ⟨_, _, operator, before⟩)

end Constructions

end Script

namespace Expr

open Script

theorem strength_le : ∀ e : Expr, e.strength ≤ 8
  | literal _ | list _ | var _ | call _ _ | index _ _ | member _ _ => Nat.le_refl 8
  | unary .neg _ => (by decide : 7 ≤ 8)
  | unary .not _ => (by decide : 3 ≤ 8)
  | connect .or _ _ => (by decide : 1 ≤ 8)
  | connect .and _ _ => (by decide : 2 ≤ 8)
  | binary .eq _ _ | binary .ne _ _ | binary .isIn _ _ | binary (.compare _) _ _ =>
    (by decide : 4 ≤ 8)
  | binary (.arith .add) _ _ | binary (.arith .sub) _ _ => (by decide : 5 ≤ 8)
  | binary (.arith .mul) _ _ | binary (.arith .div) _ _ | binary (.arith .rem) _ _ =>
    (by decide : 6 ≤ 8)

/-- Only comparisons are as strong as a comparison. -/
theorem compares_iff : ∀ e : Expr, e.compares = true ↔ e.strength = 4
  | literal _ | list _ | var _ | call _ _ | index _ _ | member _ _ => by
    simp [compares, strength, postfixStrength]
  | unary .neg _ | unary .not _ => by simp [compares, strength, UnaryOp.strength]
  | connect .or _ _ | connect .and _ _ => by simp [compares, strength, Connective.strength]
  | binary op _ _ => beq_iff_eq

/-- The reader of its strength takes the text of an expression for the expression. -/
def ReadsBack (e : Expr) : Prop :=
  ∀ levels brackets, Reads levels brackets e.strength e.strength e.chars e e.climb e.chains

section ReadsBack

variable {e l r : Expr} {levels brackets least : Nat}

theorem reach_le (k : Nat) : reach k ≤ k := by
  unfold reach
  split <;> omega

/-- Readers of looser operators do so as well. -/
theorem ReadsBack.looser (h : e.ReadsBack) (legible : e.IsLegible Literal.IsReadable)
    (le : least ≤ e.strength) :
    Reads levels brackets least (reach least) e.chars e e.climb e.chains :=
  ((h levels brackets).mono (reach_le _)).descend e.strength_le (opening legible) le

theorem ReadsBack.whole (h : e.ReadsBack) (legible : e.IsLegible Literal.IsReadable) :
    e.ReadsWhole :=
  fun _ _ => h.looser legible (Nat.zero_le _)

/-- How deep the reader of an operand goes. -/
def operandClimb (least : Nat) (e : Expr) : Climb := e.climb.enclose (e.strength < least)

/-- Every reader takes an operand for what it is, since it is in parentheses where it has to be. -/
theorem ReadsBack.operand (h : e.ReadsBack) (legible : e.IsLegible Literal.IsReadable)
    (le : least ≤ 8) :
    Reads levels brackets least (reach least) (e.operandChars least) e (e.operandClimb least)
      e.chains := by
  by_cases loose : e.strength < least
  · have climb : e.operandClimb least = e.climb.inside := by
      simp [operandClimb, Climb.enclose, loose]
    rw [operandChars_loose loose, climb]
    refine (reads_enclosed (h.whole legible)).descend (Nat.le_refl 8) ?_ le
    intro p tail _
    exact .sign _ (by simp)
  · have climb : e.operandClimb least = e.climb := by
      simp [operandClimb, Climb.enclose, loose]
    rw [operandChars_tight (by omega), climb]
    exact h.looser legible (by omega)

theorem ReadsBack.connect {op : Connective} (left : l.ReadsBack) (right : r.ReadsBack)
    (legible : l.IsLegible Literal.IsReadable ∧ r.IsLegible Literal.IsReadable) :
    (connect op l r).ReadsBack := by
  intro levels brackets
  have text : (Expr.connect op l r).chars = l.operandChars op.strength ++
      ' ' :: op.symbol.toList ++ ' ' :: r.operandChars (op.strength + 1) := by
    simp [chars, operandChars]
  rw [text, climb, chains]
  cases op with
  | or =>
      exact reads_connect (left.operand legible.1 (by decide)) (right.operand legible.2 (by decide))
  | and =>
      exact reads_connect (left.operand legible.1 (by decide)) (right.operand legible.2 (by decide))

theorem ReadsBack.binary {op : BinaryOp} (left : l.ReadsBack) (right : r.ReadsBack)
    (legible : l.IsLegible Literal.IsReadable ∧ r.IsLegible Literal.IsReadable) :
    (binary op l r).ReadsBack := by
  intro levels brackets
  have text : (Expr.binary op l r).chars = l.operandChars op.strength ++
      ' ' :: op.symbol.toList ++ ' ' :: r.operandChars (op.strength + 1) := by
    simp [chars, operandChars]
  rw [text, climb, chains]
  -- Comparisons are the only operators of their strength, and the only ones that do not repeat.
  have compared (compares : op.strength = 4) : Reads levels brackets 4 4
      (l.operandChars 4 ++ ' ' :: op.symbol.toList ++ ' ' :: r.operandChars 5)
      (Expr.binary op l r) (l.operandClimb 4 ++ (op.climb ++ r.operandClimb 5))
      ((op.compares && l.compares) || (l.chains || r.chains)) := by
    have isComparison : op.compares = true := beq_iff_eq.2 compares
    have noStep : op.climb = .flat := by simp [BinaryOp.climb, isComparison]
    by_cases chain : l.strength = 4
    · have own := left levels brackets
      rw [chain] at own
      rw [operandChars_tight (by omega), isComparison, (compares_iff l).2 chain]
      exact reads_chain compares own
    · have notChained : l.compares = false := by
        simpa using mt (compares_iff l).1 chain
      have loose : (l.strength < 4) = (l.strength < 5) := by
        rw [eq_iff_iff]
        omega
      have same : l.operandChars 4 = l.operandChars 5 := by simp only [operandChars, loose]
      have same' : l.operandClimb 4 = l.operandClimb 5 := by simp only [operandClimb, loose]
      rw [same, same', noStep, Climb.flat_append, notChained, Bool.and_false, Bool.false_or]
      exact reads_compare compares (left.operand legible.1 (by decide))
        (right.operand legible.2 (by decide))
  cases op with
  | arith op =>
      have noStep : (BinaryOp.arith op).climb = .step := by cases op <;> rfl
      have notCompared : (BinaryOp.arith op).compares = false := by cases op <;> rfl
      rw [noStep, notCompared, Bool.false_and, Bool.false_or]
      cases op <;>
        exact reads_arith (left.operand legible.1 (by decide)) (right.operand legible.2 (by decide))
  | eq => exact compared rfl
  | ne => exact compared rfl
  | isIn => exact compared rfl
  | compare relation => exact compared rfl

end ReadsBack

mutual

/-- Every written expression is read back. -/
theorem readsBack : ∀ {e : Expr}, e.IsLegible Literal.IsReadable → e.ReadsBack
  | literal l, legible, levels, brackets => by
    rw [isLegible_literal] at legible
    rw [chars]
    exact reads_literal legible
  | list items, legible, levels, brackets => by
    rw [isLegible_list] at legible
    have text : (list items).chars = '[' :: itemsChars items [']'] := by simp [chars, itemsChars]
    rw [text]
    exact reads_list legible (allReadWhole items legible)
  | var name, legible, levels, brackets => by
    rw [isLegible_var] at legible
    rw [chars]
    exact reads_var legible
  | unary op e, legible, levels, brackets => by
    rw [isLegible_unary] at legible
    cases op with
    | neg =>
        rw [chars]
        exact reads_neg ((readsBack legible).operand legible (by decide))
    | not =>
        rw [chars]
        exact reads_not ((readsBack legible).operand legible (by decide))
  | connect op l r, legible, levels, brackets => by
    rw [isLegible_connect] at legible
    exact (readsBack legible.1).connect (readsBack legible.2) legible levels brackets
  | binary op l r, legible, levels, brackets => by
    rw [isLegible_binary] at legible
    exact (readsBack legible.1).binary (readsBack legible.2) legible levels brackets
  | call function args, legible, levels, brackets => by
    rw [isLegible_call] at legible
    have text : (call function args).chars = function.toList ++ '(' :: itemsChars args [')'] := by
      simp [chars, itemsChars]
    rw [text]
    exact reads_call legible.1 legible.2 (allReadWhole args legible.2)
  | index target position, legible, levels, brackets => by
    rw [isLegible_index] at legible
    rw [chars]
    exact reads_index ((readsBack legible.1).operand legible.1 (by decide))
      ((readsBack legible.2).whole legible.2)
  | member target name, legible, levels, brackets => by
    rw [isLegible_member] at legible
    rw [chars]
    exact reads_member ((readsBack legible.1).operand legible.1 (by decide)) legible.2

theorem allReadWhole : ∀ es : List Expr, (∀ e ∈ es, e.IsLegible Literal.IsReadable) →
    ∀ e ∈ es, e.ReadsWhole
  | [], _ => by simp
  | e :: es, legible => by
    have ⟨first, others⟩ := List.forall_mem_cons.1 legible
    exact List.forall_mem_cons.2 ⟨(readsBack first).whole first, allReadWhole es others⟩

end

end Expr

end Stencil
