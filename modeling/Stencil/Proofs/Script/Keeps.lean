import Stencil.Proofs.Script.Moves
import Stencil.Script.Stmt

/-!
# What readers keep to

A reader does little with its state: it passes characters, counts levels and brackets, and goes back
to where it has been; and an error is always raised where it is or has been. Relations between
states and cursors that outlast all this (`Lasting`) are therefore kept by every reader: it ends
with the same from either, in related states (`Keeps`). There is one lemma for each reader.

The places in a text are an instance. A cursor is somewhere in the text, at the place that is
counted there (`Cursor.On`), so whatever a text is refused with is at such a place (`Error.At`).
-/

namespace Stencil.Script

variable {σ : Type} [Moves σ] {R : σ → Cursor → Prop} {E : Error → Prop}

/-! ### The primitives -/

namespace Lasting

variable {α β : Type} {s : σ} {c : Cursor} (lasting : Lasting R E)

include lasting

/-- What is looked at is the cursor that a state is related to. -/
theorem looking {f : Cursor → Scan σ β} {g : Cursor → Parse β} (here : R s c)
    (next : Agree R E (f c) (g c) s c) : Agree R E (look >>= f) (look >>= g) s c := by
  have left : (look >>= f).run.run s = (f (Moves.view s)).run.run s := rfl
  rw [lasting.view here] at left
  exact next.of_runs left rfl rfl le_rfl

/-- Where one has looked, an error may be raised later. -/
theorem seeing {f : Cursor → Scan σ β} {g : Cursor → Parse β}
    (next : ∀ start : Cursor, (∀ d, E (start.error d)) → Keeps R E (f start) (g start)) :
    Keeps R E (look >>= f) (look >>= g) :=
  fun s c here => lasting.looking here (next c (lasting.error here) s c here)

/-- What is done about a sign is done where it has been looked for. -/
theorem peeking {piece : String} {f : Bool → Scan σ β} {g : Bool → Parse β}
    (here : R s c) (next : Agree R E (f (c.startsWith piece)) (g (c.startsWith piece)) s c) :
    Agree R E (peek piece >>= f) (peek piece >>= g) s c := by
  have left : (peek piece >>= f).run.run s =
      (f ((Moves.view s).startsWith piece)).run.run s := rfl
  rw [lasting.view here] at left
  exact next.of_runs left rfl rfl le_rfl

/-- The same of a word. -/
theorem peekingWord {f : String → Scan σ β} {g : String → Parse β} (here : R s c)
    (next : Agree R E (f (String.ofList c.word)) (g (String.ofList c.word)) s c) :
    Agree R E (peekWord >>= f) (peekWord >>= g) s c := by
  have left : (peekWord >>= f).run.run s =
      (f (String.ofList (Moves.view s).word)).run.run s := rfl
  rw [lasting.view here] at left
  exact next.of_runs left rfl rfl le_rfl

/-- The next character is passed. -/
theorem passing {x : Char} {f : Unit → Scan σ β} {g : Unit → Parse β} (here : R s c)
    (found : c.rest.head? = some x) (next : Keeps R E (f ()) (g ())) :
    Agree R E (Script.char x >>= f) (Script.char x >>= g) s c :=
  (next _ _ (lasting.char here found)).of_runs rfl rfl rfl le_rfl

/-- What is known to be next is passed. -/
theorem passingUnseen {piece : String} {f : Unit → Scan σ β} {g : Unit → Parse β} (here : R s c)
    (found : c.startsWith piece) (plain : '\n' ∉ piece.toList) (next : Keeps R E (f ()) (g ())) :
    Agree R E (Script.unseen piece >>= f) (Script.unseen piece >>= g) s c :=
  (next _ _ (lasting.unseen here found plain)).of_runs rfl rfl rfl le_rfl

end Lasting

section Readers

variable (lasting : Lasting R E)

include lasting

theorem atEnd_keeps : Keeps R E atEnd atEnd := lasting.seeing fun _ _ => .pure _

theorem peek_keeps (piece : String) : Keeps R E (peek piece) (peek piece) :=
  lasting.seeing fun _ _ => .pure _

theorem peekWord_keeps : Keeps R E peekWord peekWord := lasting.seeing fun _ _ => .pure _

theorem fail_keeps {α : Type} (d : Defect) : Keeps (α := α) R E (fail d) (fail d) :=
  lasting.seeing fun _ fails => .throw (fails d)

theorem failFound_keeps {α : Type} (d : Found → Defect) :
    Keeps (α := α) R E (failFound d) (failFound d) :=
  lasting.seeing fun _ _ => fail_keeps lasting _

theorem restore_keeps {start : σ} {start' : Cursor} (there : R start start') :
    Keeps R E (restore start) (restore start') :=
  fun _ _ here => ⟨rfl, lasting.back there here, nofun, rfl, le_rfl⟩

theorem accept_keeps {piece : String} (plain : '\n' ∉ piece.toList) :
    Keeps R E (accept piece) (accept piece) := by
  intro s c here
  refine lasting.peeking here ?_
  split
  · next found => exact lasting.passingUnseen here found plain (.pure _)
  · exact .pure _ here

theorem expect_keeps {piece : String} (plain : '\n' ∉ piece.toList) :
    Keeps R E (expect piece) (expect piece) :=
  (accept_keeps lasting plain).whether (.pure ()) (failFound_keeps lasting _)

theorem skip_keeps (blank : Char → Bool) : Keeps R E (skip blank) (skip blank) :=
  fun _ _ here => ⟨rfl, lasting.skip here blank, nofun, rfl, le_rfl⟩

theorem skipSpace_keeps : Keeps R E skipSpace skipSpace :=
  lasting.seeing fun _ _ => skip_keeps lasting _

theorem acceptKeyword_keeps (keyword : String) :
    Keeps R E (acceptKeyword keyword) (acceptKeyword keyword) := by
  intro s c here
  refine lasting.peekingWord here ?_
  dsimp only
  split
  · next found =>
    obtain rfl := eq_of_beq found
    exact lasting.passingUnseen here c.startsWith_word c.newline_not_mem_word (.pure _)
  · exact .pure _ here

theorem expectKeyword_keeps (keyword : String) :
    Keeps R E (expectKeyword keyword) (expectKeyword keyword) :=
  (skipSpace_keeps lasting).bind fun _ =>
    (acceptKeyword_keeps lasting keyword).whether (.pure ()) (failFound_keeps lasting _)

theorem identifier_keeps : Keeps R E identifier identifier := by
  unfold identifier
  refine (skipSpace_keeps lasting).bind fun _ s c here => lasting.peekingWord here ?_
  refine .unlessStopped (failFound_keeps lasting _ s c here) (by simp) ?_
  refine .unlessStopped (fail_keeps lasting _ s c here) (by simp) ?_
  exact lasting.passingUnseen here c.startsWith_word c.newline_not_mem_word (.pure _)

theorem descend_keeps : Keeps R E descend descend := by
  intro s c here
  refine lasting.looking here (.unlessStopped (fail_keeps lasting _ s c here) (by simp) ?_)
  exact ⟨rfl, lasting.setDepth here _, nofun, rfl, Nat.le_succ _⟩

/-- What is done one level deeper. -/
theorem descending {β : Type} {s : σ} {c : Cursor} {f : Unit → Scan σ β} {g : Unit → Parse β}
    (here : R s c)
    (next : ∀ s, R s { c with depth := c.depth + 1 } →
      Agree R E (f ()) (g ()) s { c with depth := c.depth + 1 }) :
    Agree R E (descend >>= f) (descend >>= g) s c := by
  refine (descend_keeps lasting s c here).bind ?_
  rintro ⟨⟩ s' c' there ran
  have deeper : Yields descend c fun _ c' => c' = { c with depth := c.depth + 1 } :=
    Yields.descend_iff.2 fun _ => rfl
  obtain rfl := deeper _ _ ran
  exact next s' there

theorem expectEnd_keeps : Keeps R E expectEnd expectEnd :=
  (skip_keeps lasting _).bind fun _ =>
    (atEnd_keeps lasting).whether (.pure ()) (failFound_keeps lasting _)

section Combinators

variable {α : Type} {q : Scan σ α} {p : Parse α}

theorem keepingDepth_keeps (h : Keeps R E q p) :
    Keeps R E (keepingDepth q) (keepingDepth p) := by
  intro s c here
  have inside := h s c here
  have left : (keepingDepth q).run.run s =
      ((q.run.run s).1, Moves.setDepth c.depth (q.run.run s).2) := by
    rw [← lasting.view here]
    rfl
  exact inside.around left rfl (lasting.setDepth inside.there c.depth) inside.brackets le_rfl

theorem bracketed_keeps (h : Keeps R E q p) : Keeps R E (bracketed q) (bracketed p) := by
  intro s c here
  have inside := h _ _ (lasting.setBrackets here (c.brackets + 1))
  have left : (bracketed q).run.run s =
      ((q.run.run (Moves.setBrackets (c.brackets + 1) s)).1,
        Moves.close c.brackets (q.run.run (Moves.setBrackets (c.brackets + 1) s)).2) := by
    rw [← lasting.view here]
    rfl
  have closed := lasting.close inside.there inside.brackets
  exact inside.around left rfl closed rfl inside.depth_le

theorem unbracketed_keeps (h : Keeps R E q p) : Keeps R E (unbracketed q) (unbracketed p) := by
  intro s c here
  have inside := h _ _ (lasting.setBrackets here 0)
  have left : (unbracketed q).run.run s = ((q.run.run (Moves.setBrackets 0 s)).1,
      Moves.setBrackets c.brackets (q.run.run (Moves.setBrackets 0 s)).2) := by
    rw [← lasting.view here]
    rfl
  have outside := lasting.setBrackets inside.there c.brackets
  exact inside.around left rfl outside rfl inside.depth_le

theorem extend_keeps {step : α → Scan σ (Option α)} {step' : α → Parse (Option α)}
    (h : ∀ a, Keeps R E (step a) (step' a)) :
    ∀ (fuel : Nat) (a : α), Keeps R E (extend step fuel a) (extend step' fuel a)
  | 0, _ => fail_keeps lasting _
  | fuel + 1, a => by
    rw [extend, extend]
    refine (h a).bind fun r => ?_
    cases r with
    | some b => exact extend_keeps h fuel b
    | none => exact .pure a

end Combinators

/-! ### Literals -/

theorem passWhile_keeps {kind : Char → Bool} (small : IsSmall kind) :
    Keeps R E (passWhile kind) (passWhile kind) :=
  fun _ _ here => lasting.looking here ⟨rfl, lasting.row here small, nofun, rfl, le_rfl⟩

theorem digitRow_keeps : Keeps R E digitRow digitRow :=
  (passWhile_keeps lasting isSmall_digitOrUnderscore).bind fun _ => .pure _

theorem number_keeps : Keeps R E number number := by
  unfold number
  refine lasting.seeing fun start fails => (digitRow_keeps lasting).bind fun whole s c here => ?_
  refine lasting.looking here ?_
  split
  · next point =>
    exact lasting.passingUnseen here (Cursor.startsWith_point point) (by decide)
      ((digitRow_keeps lasting).bind fun _ => .pure _)
  · exact Keeps.unlessStopped (.throw (fails _)) (fun _ => .pure _) s c here

theorem nextChar?_keeps : Keeps R E nextChar? nextChar? := by
  intro s c here
  refine lasting.looking here ?_
  cases found : c.rest.head? with
  | none => exact .pure none here
  | some x => exact lasting.passing here found (.pure _)

theorem codePoint_keeps : Keeps R E codePoint codePoint := by
  unfold codePoint
  refine lasting.seeing fun start fails => ?_
  have invalid : Keeps (α := Unit) R E (throw (start.error .invalidUnicodeEscape))
      (throw (start.error .invalidUnicodeEscape)) := .throw (fails _)
  refine (accept_keeps lasting (by decide)).orStop invalid fun _ => ?_
  refine (passWhile_keeps lasting isSmall_hexDigit).bind fun digits => ?_
  refine .unlessStopped invalid fun _ => ?_
  exact (accept_keeps lasting (by decide)).orStop invalid fun _ => .pure _

theorem escaped_keeps {atEnd : Error} (h : E atEnd) :
    Keeps R E (escaped atEnd) (escaped atEnd) := by
  unfold escaped
  refine lasting.seeing fun start fails => (nextChar?_keeps lasting).bind fun next => ?_
  split
  · exact .throw h
  · exact .pure _
  · exact .pure _
  · exact .pure _
  · exact .pure _
  · exact codePoint_keeps lasting
  · exact .ite (.pure _) (.throw (fails _))

theorem stringBody_keeps {atEnd : Error} (h : E atEnd) (quote : Char) :
    ∀ fuel : Nat, Keeps R E (stringBody quote atEnd fuel) (stringBody quote atEnd fuel)
  | 0 => .throw h
  | fuel + 1 => by
    rw [stringBody, stringBody]
    refine (nextChar?_keeps lasting).bind fun next => ?_
    cases next with
    | none => exact .throw h
    | some c =>
        have more (c : Char) : Keeps R E (do return c :: (← stringBody quote atEnd fuel))
            (do return c :: (← stringBody quote atEnd fuel)) :=
          (stringBody_keeps h quote fuel).bind fun _ => .pure _
        exact .ite (.pure _) (.ite ((escaped_keeps lasting h).bind more) (more c))

/-- A string is read where its quote is. -/
theorem quoted_agree {quote : Char} {s : σ} {c : Cursor} (here : R s c)
    (found : c.rest.head? = some quote) : Agree R E (quoted quote) (quoted quote) s c :=
  lasting.looking here <| lasting.passing here found <|
    (stringBody_keeps lasting (lasting.error here _) quote _).bind fun _ => .pure _

/-! ### Expressions -/

section Expressions

variable {whole operand : Scan σ Expr} {whole' operand' : Parse Expr} (h : Keeps R E whole whole')

include h

theorem items_keeps (close : String) :
    ∀ fuel : Nat, Keeps R E (items whole close fuel) (items whole' close fuel)
  | 0 => fail_keeps lasting _
  | fuel + 1 => by
    rw [items, items]
    refine (skipSpace_keeps lasting).bind fun _ => (peek_keeps lasting close).whether (.pure []) ?_
    refine h.bind fun e => (skipSpace_keeps lasting).bind fun _ => ?_
    refine (accept_keeps lasting (by decide)).whether ?_ (.pure [e])
    exact (items_keeps close fuel).bind fun _ => .pure _

theorem sequence_keeps {close : String} (plain : '\n' ∉ close.toList) :
    Keeps R E (sequence whole close) (sequence whole' close) := by
  refine (bracketed_keeps lasting ?_).bind fun es =>
    (expect_keeps lasting plain).bind fun _ => .pure es
  exact lasting.seeing fun _ _ => (items_keeps lasting h close _).bind fun es =>
    (skipSpace_keeps lasting).bind fun _ => .pure es

theorem arguments_keeps : Keeps R E (arguments whole) (arguments whole') :=
  (expect_keeps lasting (by decide)).bind fun _ => sequence_keeps lasting h (by decide)

theorem enclosed_keeps {close : String} (plain : '\n' ∉ close.toList) :
    Keeps R E (enclosed whole close) (enclosed whole' close) :=
  (bracketed_keeps lasting h).bind fun e => (skipSpace_keeps lasting).bind fun _ =>
    (expect_keeps lasting plain).bind fun _ => .pure e

theorem primary_keeps : Keeps R E (primary whole) (primary whole') := by
  unfold primary
  refine (skipSpace_keeps lasting).bind fun _ s c here => lasting.looking here ?_
  cases found : c.rest.head? with
  | none => exact fail_keeps lasting _ s c here
  | some x =>
    refine .ite ((number_keeps lasting).bind (fun _ => .pure _) s c here) ?_
    refine .ite ((quoted_agree lasting here found).bind fun _ _ _ there _ => .pure _ there) ?_
    refine .ite (lasting.passing here found ?_) (.ite (lasting.passing here found ?_) ?_)
    · exact (sequence_keeps lasting h (by decide)).bind fun _ => .pure _
    · exact enclosed_keeps lasting h (by decide)
    refine (acceptKeyword_keeps lasting _).whether (.pure _) ?_ s c here
    refine (acceptKeyword_keeps lasting _).whether (.pure _) ?_
    refine (acceptKeyword_keeps lasting _).whether (.pure _) ?_
    refine (peekWord_keeps lasting).bind fun _ => ?_
    refine .unlessStopped (failFound_keeps lasting _) fun _ => ?_
    exact (identifier_keeps lasting).bind fun _ => .pure _

theorem afterPoint_keeps (e : Expr) : Keeps R E (afterPoint whole e) (afterPoint whole' e) := by
  unfold afterPoint
  refine lasting.seeing fun c _ => .ite ((number_keeps lasting).bind fun _ => .pure _) ?_
  refine (identifier_keeps lasting).bind fun name => (peek_keeps lasting _).whether ?_ (.pure _)
  exact (arguments_keeps lasting h).bind fun _ => .pure _

theorem trailer_keeps (e : Expr) : Keeps R E (trailer whole e) (trailer whole' e) := by
  intro s c here
  refine lasting.peeking here ?_
  split
  · refine descending lasting here fun s there => ?_
    cases e with
    | var function => exact (arguments_keeps lasting h).bind (fun _ => .pure _) s _ there
    | _ => exact fail_keeps lasting _ s _ there
  refine lasting.peeking here ?_
  split
  · next bracket =>
    refine descending lasting here fun s there => ?_
    refine lasting.passingUnseen there bracket (by decide) ?_
    exact (enclosed_keeps lasting h (by decide)).bind fun _ => .pure _
  refine lasting.peeking here ?_
  split
  · next point =>
    refine descending lasting here fun s there => ?_
    refine lasting.passingUnseen there point (by decide) ?_
    exact (afterPoint_keeps lasting h e).bind fun _ => .pure _
  · exact .pure none here

theorem trailed_keeps : Keeps R E (trailed whole) (trailed whole') :=
  (primary_keeps lasting h).bind fun e => extend_keeps lasting (trailer_keeps lasting h) _ e

theorem negated_keeps : ∀ fuel : Nat, Keeps R E (negated whole fuel) (negated whole' fuel)
  | 0 => fail_keeps lasting _
  | fuel + 1 => by
    rw [negated, negated]
    refine (skipSpace_keeps lasting).bind fun _ => (accept_keeps lasting (by decide)).whether ?_
      (trailed_keeps lasting h)
    exact (descend_keeps lasting).bind fun _ => (negated_keeps fuel).bind fun _ => .pure _

omit h in
theorem rightOperand_keeps (h : Keeps R E operand operand') (combine : Expr → Expr) :
    Keeps R E (rightOperand operand combine) (rightOperand operand' combine) :=
  (descend_keeps lasting).bind fun _ => h.bind fun _ => .pure _

theorem moreFactors_keeps (left : Expr) :
    Keeps R E (moreFactors whole left) (moreFactors whole' left) := by
  have operand := rightOperand_keeps lasting (negated_keeps lasting h (maxDepth + 1))
  unfold moreFactors
  refine (skipSpace_keeps lasting).bind fun _ => ?_
  refine (accept_keeps lasting (by decide)).whether (operand _) ?_
  refine (accept_keeps lasting (by decide)).whether (operand _) ?_
  exact (accept_keeps lasting (by decide)).whether (operand _) (.pure none)

theorem product_keeps : Keeps R E (product whole) (product whole') :=
  (negated_keeps lasting h _).bind fun e => extend_keeps lasting (moreFactors_keeps lasting h) _ e

theorem moreTerms_keeps (left : Expr) :
    Keeps R E (moreTerms whole left) (moreTerms whole' left) := by
  have operand := rightOperand_keeps lasting (product_keeps lasting h)
  unfold moreTerms
  refine (skipSpace_keeps lasting).bind fun _ => (peek_keeps lasting _).bind fun _ => ?_
  refine (peek_keeps lasting _).bind fun _ => .ite (.pure none) ?_
  refine (accept_keeps lasting (by decide)).whether (operand _) ?_
  exact (accept_keeps lasting (by decide)).whether (operand _) (.pure none)

theorem sum_keeps : Keeps R E (sum whole) (sum whole') :=
  (product_keeps lasting h).bind fun e => extend_keeps lasting (moreTerms_keeps lasting h) _ e

omit h in
theorem relation?_keeps : Keeps R E relation? relation? := by
  unfold relation?
  refine (accept_keeps lasting (by decide)).whether (.pure _) ?_
  refine (accept_keeps lasting (by decide)).whether (.pure _) ?_
  refine (accept_keeps lasting (by decide)).whether (.pure _) ?_
  refine (accept_keeps lasting (by decide)).whether (.pure _) ?_
  refine (accept_keeps lasting (by decide)).whether (.pure _) ?_
  refine (accept_keeps lasting (by decide)).whether (.pure _) ?_
  exact (acceptKeyword_keeps lasting _).whether (.pure _) (.pure none)

omit h in
theorem acceptNotIn_keeps : Keeps R E acceptNotIn acceptNotIn := by
  unfold acceptNotIn
  refine .getting fun start start' there => (acceptKeyword_keeps lasting _).whether ?_ (.pure false)
  refine (skipSpace_keeps lasting).bind fun _ => ?_
  refine (acceptKeyword_keeps lasting _).whether (.pure true) ?_
  exact (restore_keeps lasting there).bind fun _ => .pure false

theorem compared_keeps (left : Expr) : Keeps R E (compared whole left) (compared whole' left) := by
  have right (combine : Expr → Expr) : Keeps R E (do return combine (← sum whole))
      (do return combine (← sum whole')) := (sum_keeps lasting h).bind fun _ => .pure _
  unfold compared
  refine (skipSpace_keeps lasting).bind fun _ => ?_
  refine (acceptNotIn_keeps lasting).whether (right _) ?_
  refine (relation?_keeps lasting).bind fun op => ?_
  cases op with
  | some op => exact right _
  | none => exact .pure left

theorem comparison_keeps : Keeps R E (comparison whole) (comparison whole') :=
  (sum_keeps lasting h).bind fun e => compared_keeps lasting h e

omit h in
theorem acceptNot_keeps : Keeps R E acceptNot acceptNot := by
  intro s c here
  refine lasting.peeking here (lasting.peeking here ?_)
  split
  · next found =>
    rw [Bool.and_eq_true] at found
    exact lasting.passingUnseen here found.1 (by decide) (.pure true)
  · exact acceptKeyword_keeps lasting _ s c here

theorem denied_keeps : ∀ fuel : Nat, Keeps R E (denied whole fuel) (denied whole' fuel)
  | 0 => fail_keeps lasting _
  | fuel + 1 => by
    rw [denied, denied]
    refine (skipSpace_keeps lasting).bind fun _ => (acceptNot_keeps lasting).whether ?_
      (comparison_keeps lasting h)
    exact (descend_keeps lasting).bind fun _ => (denied_keeps fuel).bind fun _ => .pure _

omit h in
theorem acceptEither_keeps {sign : String} (plain : '\n' ∉ sign.toList) (word : String) :
    Keeps R E (acceptEither sign word) (acceptEither sign word) :=
  (accept_keeps lasting plain).whether (.pure true) (acceptKeyword_keeps lasting word)

theorem moreConjuncts_keeps (left : Expr) :
    Keeps R E (moreConjuncts whole left) (moreConjuncts whole' left) :=
  (skipSpace_keeps lasting).bind fun _ => (acceptEither_keeps lasting (by decide) _).whether
    (rightOperand_keeps lasting (denied_keeps lasting h _) _) (.pure none)

theorem conjunction_keeps : Keeps R E (conjunction whole) (conjunction whole') :=
  (denied_keeps lasting h _).bind fun e => extend_keeps lasting (moreConjuncts_keeps lasting h) _ e

theorem moreDisjuncts_keeps (left : Expr) :
    Keeps R E (moreDisjuncts whole left) (moreDisjuncts whole' left) :=
  (skipSpace_keeps lasting).bind fun _ => (acceptEither_keeps lasting (by decide) _).whether
    (rightOperand_keeps lasting (conjunction_keeps lasting h) _) (.pure none)

theorem disjunction_keeps : Keeps R E (disjunction whole) (disjunction whole') :=
  (conjunction_keeps lasting h).bind fun e =>
    extend_keeps lasting (moreDisjuncts_keeps lasting h) _ e

theorem moreFilters_keeps (e : Expr) : Keeps R E (moreFilters whole e) (moreFilters whole' e) := by
  unfold moreFilters
  refine (skipSpace_keeps lasting).bind fun _ s c here =>
    lasting.peeking here (lasting.peeking here ?_)
  split
  · next found =>
    rw [Bool.and_eq_true] at found
    refine lasting.passingUnseen here found.1 (by decide) ?_
    refine (descend_keeps lasting).bind fun _ => (identifier_keeps lasting).bind fun function => ?_
    refine (peek_keeps lasting _).bind fun _ => .ite ?_ (.pure _)
    exact (arguments_keeps lasting h).bind fun _ => .pure _
  · exact .pure none here

theorem filtered_keeps : Keeps R E (filtered whole) (filtered whole') :=
  (disjunction_keeps lasting h).bind fun e => extend_keeps lasting (moreFilters_keeps lasting h) _ e

end Expressions

theorem expressionWithin_keeps :
    ∀ levels : Nat, Keeps R E (expressionWithin levels) (expressionWithin levels)
  | 0 => fail_keeps lasting _
  | levels + 1 => keepingDepth_keeps lasting <| (descend_keeps lasting).bind fun _ =>
      filtered_keeps lasting (expressionWithin_keeps levels)

theorem expression_keeps : Keeps R E expression expression := expressionWithin_keeps lasting _

/-! ### Statements and headers -/

theorem assignOp?_keeps : Keeps R E assignOp? assignOp? := by
  unfold assignOp?
  refine (accept_keeps lasting (by decide)).whether (.pure _) ?_
  refine (accept_keeps lasting (by decide)).whether (.pure _) fun s c here => ?_
  refine lasting.peeking here (lasting.peeking here ?_)
  split
  · next found =>
    rw [Bool.and_eq_true] at found
    exact lasting.passingUnseen here found.1 (by decide) (.pure _)
  · exact .pure none here

theorem assignment?_keeps : Keeps R E assignment? assignment? := by
  unfold assignment?
  refine .getting fun start start' there s c here => lasting.peekingWord here ?_
  refine .ite (.pure none here) ?_
  refine lasting.passingUnseen here c.startsWith_word c.newline_not_mem_word ?_
  refine (skipSpace_keeps lasting).bind fun _ => (assignOp?_keeps lasting).bind fun op => ?_
  cases op with
  | some op => exact .pure _
  | none => exact (restore_keeps lasting there).bind fun _ => .pure none

theorem forHead_keeps : Keeps R E forHead forHead :=
  (identifier_keeps lasting).bind fun _ => (expectKeyword_keeps lasting _).bind fun _ =>
    (expression_keeps lasting).bind fun _ => .pure _

section Bodies

variable {body : Scan σ (List Stmt)} {body' : Parse (List Stmt)} (h : Keeps R E body body')

include h

theorem braced_keeps : Keeps R E (braced body) (braced body') := by
  unfold braced
  refine (skipSpace_keeps lasting).bind fun _ => (expect_keeps lasting (by decide)).bind fun _ => ?_
  refine Keeps.bind ?_ fun ss => (expect_keeps lasting (by decide)).bind fun _ => .pure ss
  exact keepingDepth_keeps lasting <| unbracketed_keeps lasting <|
    (descend_keeps lasting).bind fun _ => h

theorem elseTail_keeps : ∀ fuel : Nat, Keeps R E (elseTail body fuel) (elseTail body' fuel)
  | 0 => fail_keeps lasting _
  | fuel + 1 => by
    have elif : Keeps R E (do return Else.elif (← expression) (← body) (← elseTail body fuel))
        (do return Else.elif (← expression) (← body') (← elseTail body' fuel)) :=
      (expression_keeps lasting).bind fun _ => h.bind fun _ =>
        (elseTail_keeps fuel).bind fun _ => .pure _
    rw [elseTail, elseTail]
    refine .getting fun start start' there => (skip_keeps lasting _).bind fun _ => ?_
    refine (acceptKeyword_keeps lasting _).whether elif ?_
    refine (acceptKeyword_keeps lasting _).whether ?_ ?_
    · refine (skipSpace_keeps lasting).bind fun _ => ?_
      exact (acceptKeyword_keeps lasting _).whether elif (h.bind fun _ => .pure _)
    · exact (restore_keeps lasting there).bind fun _ => .pure _

theorem statement_keeps : Keeps R E (statement body) (statement body') := by
  unfold statement
  refine (skipSpace_keeps lasting).bind fun _ => (acceptKeyword_keeps lasting _).whether ?_ ?_
  · exact (identifier_keeps lasting).bind fun _ => (skipSpace_keeps lasting).bind fun _ =>
      (expect_keeps lasting (by decide)).bind fun _ =>
        (expression_keeps lasting).bind fun _ => .pure _
  refine (acceptKeyword_keeps lasting _).whether ?_ ?_
  · exact (expression_keeps lasting).bind fun _ => h.bind fun _ => lasting.seeing fun c _ =>
      (elseTail_keeps lasting h _).bind fun _ => .pure _
  refine (acceptKeyword_keeps lasting _).whether ?_ ?_
  · exact (forHead_keeps lasting).bind fun _ => h.bind fun _ => .pure _
  refine (acceptKeyword_keeps lasting _).whether ?_ ?_
  · exact (expression_keeps lasting).bind fun _ => h.bind fun _ => .pure _
  refine (acceptKeyword_keeps lasting _).whether (.pure _) ?_
  refine (acceptKeyword_keeps lasting _).whether (.pure _) ?_
  refine (assignment?_keeps lasting).bind fun target => ?_
  cases target with
  | some target => exact (expression_keeps lasting).bind fun _ => .pure _
  | none => exact (expression_keeps lasting).bind fun _ => .pure _

theorem statementList_keeps (inBody : Bool) :
    ∀ fuel : Nat, Keeps R E (statementList body inBody fuel) (statementList body' inBody fuel)
  | 0 => fail_keeps lasting _
  | fuel + 1 => by
    rw [statementList, statementList]
    refine (skip_keeps lasting _).bind fun _ => (atEnd_keeps lasting).whether ?_ ?_
    · exact .unlessStopped (fail_keeps lasting _) fun _ => .pure []
    refine .ite ((peek_keeps lasting _).whether (.pure []) ?next) ?next
    refine (statement_keeps lasting h).bind fun s => (skipSpace_keeps lasting).bind fun _ => ?_
    have ends : Keeps R E (statementEnds inBody) (statementEnds inBody) :=
      lasting.seeing fun _ _ => .pure _
    refine ends.orStop (failFound_keeps lasting _) fun _ => ?_
    exact (statementList_keeps inBody fuel).bind fun _ => .pure _

end Bodies

theorem statementsWithin_keeps (inBody : Bool) :
    ∀ levels : Nat, Keeps R E (statementsWithin inBody levels) (statementsWithin inBody levels)
  | 0 => fail_keeps lasting _
  | levels + 1 => lasting.seeing fun _ _ => statementList_keeps lasting
      (braced_keeps lasting (statementsWithin_keeps true levels)) inBody _

theorem header_keeps : Keeps R E header header := by
  have cond (kind : Expr → Header) : Keeps R E (do return kind (← expression))
      (do return kind (← expression)) := (expression_keeps lasting).bind fun _ => .pure _
  unfold header
  refine (skipSpace_keeps lasting).bind fun _ => (acceptKeyword_keeps lasting _).whether ?_ ?_
  · exact (forHead_keeps lasting).bind fun _ => .pure _
  refine (acceptKeyword_keeps lasting _).whether (cond _) ?_
  refine (acceptKeyword_keeps lasting _).whether (cond _) ?_
  refine (acceptKeyword_keeps lasting _).whether ?_ ?_
  · exact (skipSpace_keeps lasting).bind fun _ =>
      (acceptKeyword_keeps lasting _).whether (cond _) (.pure _)
  refine (acceptKeyword_keeps lasting _).whether (cond _) ?_
  exact (peekWord_keeps lasting).bind fun _ => fail_keeps lasting _

/-! ### Whole texts -/

theorem wholeStatements_keeps : Keeps R E wholeStatements wholeStatements :=
  (statementsWithin_keeps lasting false _).bind fun _ =>
    (expectEnd_keeps lasting).bind fun _ => .pure _

theorem wholeExpression_keeps : Keeps R E wholeExpression wholeExpression :=
  bracketed_keeps lasting <| (skipSpace_keeps lasting).bind fun _ =>
    (expression_keeps lasting).bind fun _ => (expectEnd_keeps lasting).bind fun _ => .pure _

theorem wholeHeader_keeps : Keeps R E wholeHeader wholeHeader :=
  (header_keeps lasting).bind fun _ => (skipSpace_keeps lasting).bind fun _ =>
    (accept_keeps lasting (by decide)).bind fun _ => (expectEnd_keeps lasting).bind fun _ => .pure _

end Readers

/-! ### What is true of a cursor -/

section Itself

variable {I : Cursor → Prop} {c : Cursor} (lasting : Lasting (Itself I) E)

include lasting

/-- What outlasts the passing of the next character outlasts the passing of any number of them. -/
theorem Lasting.pass (here : I c) (n : Nat) : I (c.pass n) := by
  induction n generalizing c with
  | zero => exact here
  | succ n ih =>
      rw [Nat.add_comm, ← Cursor.pass_pass]
      refine ih ?_
      cases rest : c.rest with
      | nil => rwa [Cursor.pass_of_nil rest]
      | cons x cs => exact (lasting.char ⟨rfl, here⟩ (rest ▸ List.head?_cons : _ = some x)).2

theorem char_keeps (x : Char) : Keeps (Itself I) E (char x) (char x) := by
  rintro _ c ⟨rfl, here⟩
  exact ⟨rfl, ⟨rfl, lasting.pass here 1⟩, nofun, rfl, le_rfl⟩

theorem unseen_keeps (piece : String) : Keeps (Itself I) E (unseen piece) (unseen piece) := by
  rintro _ c ⟨rfl, here⟩
  exact ⟨rfl, ⟨rfl, lasting.pass here piece.length⟩, nofun, rfl, le_rfl⟩

theorem quoted_keeps (quote : Char) : Keeps (Itself I) E (quoted quote) (quoted quote) :=
  lasting.seeing fun _ fails => (char_keeps lasting quote).bind fun _ =>
    (stringBody_keeps lasting (fails _) quote _).bind fun _ => .pure _

end Itself

/-! ### Places -/

/-- A cursor somewhere in a text: what it has passed and what it has left are the text, and its
place is the one that is counted in what it has passed. -/
def Cursor.On (text : List Char) (c : Cursor) : Prop :=
  ∃ passed, passed ++ c.rest = text ∧ c.place = Location.start.after passed

/-- An error at the place behind `passed`. -/
structure Error.At (passed : List Char) (e : Error) : Prop where
  line : e.line = (Location.start.after passed).line
  column : e.column = (Location.start.after passed).column

/-- An error somewhere in a text. -/
def Error.On (text : List Char) (e : Error) : Prop := ∃ passed, passed <+: text ∧ e.At passed

theorem lasting_on (text : List Char) : Lasting (Itself (Cursor.On text)) (Error.On text) := by
  refine .of_place ?_ ?_ ?_
  · rintro c c' ⟨passed, whole, counted⟩ rest place
    exact ⟨passed, rest ▸ whole, place.trans counted⟩
  · rintro c ⟨passed, whole, place⟩ n
    refine ⟨passed ++ c.rest.take n, ?_, ?_⟩
    · rw [Cursor.rest_pass, List.append_assoc, List.take_append_drop, whole]
    · rw [Location.after_append, ← place]
      rfl
  · rintro c ⟨passed, whole, place⟩ d
    exact ⟨passed, ⟨c.rest, whole⟩, ⟨by rw [Cursor.error, place], by rw [Cursor.error, place]⟩⟩

theorem on_start (text : List Char) : (Cursor.start text).On text := ⟨[], rfl, rfl⟩

variable {text : List Char} {e : Error}

/-- There is one such place only. -/
theorem Error.At.unique {passed passed' : List Char} (h : e.At passed) (h' : e.At passed')
    (here : passed <+: text) (here' : passed' <+: text) : passed = passed' :=
  Location.eq_of_toPlace_after .start here here' (h.line.symm.trans h'.line)
    (h.column.symm.trans h'.column)

/-- Statements are refused at a place in their text. -/
theorem on_of_readStatements (h : readStatements text = .error e) : e.On text :=
  (wholeStatements_keeps (lasting_on text)).error_of_run (on_start text) h

/-- An expression is refused at a place in its text. -/
theorem on_of_readExpression (h : readExpression text = .error e) : e.On text :=
  (wholeExpression_keeps (lasting_on text)).error_of_run (on_start text) h

/-- A header is refused at a place in its text. -/
theorem on_of_readHeader (h : readHeader text = .error e) : e.On text :=
  (wholeHeader_keeps (lasting_on text)).error_of_run (on_start text) h

end Stencil.Script
