import Stencil.Proofs.Script.Every
import Stencil.Proofs.Source.Fragments

/-!
# What is read is legible

Whatever the readers yield can be written down again, and so can the program of every template.
-/

namespace Stencil

open Literal (IsUnsigned)

namespace Script

variable {c : Cursor}

/-- A reader of legible expressions. -/
abbrev YieldsLegible (p : Parse Expr) : Prop := ∀ c, Yields p c fun e _ => e.IsLegible IsUnsigned

theorem number_isUnsigned : Yields number c fun l _ => l.IsUnsigned := by
  simp only [number, digitRow, Yields.bind_iff, Yields.look_iff, Yields.unseen_iff,
    Yields.passWhile_iff, Yields.pure_iff, Yields.ite_iff, Yields.throw_iff]
  refine ⟨?_, ?_⟩
  · intro _
    exact Decimal.isUnsigned_ofDecimal _ _
  · intro _
    refine ⟨by simp, ?_⟩
    intro fits
    rw [Int.not_lt] at fits
    rw [Literal.IsUnsigned, Int64.toInt_ofNat_of_lt]
    · exact Int.natCast_nonneg _
    · have most : Int64.maxValue.toInt = 2 ^ 63 - 1 := rfl
      omega

section Expressions

variable {whole operand : Parse Expr} {e : Expr}

/-- What a step adds to an expression, if anything, keeps it legible. -/
abbrev AddsLegible (p : Parse (Option Expr)) : Prop :=
  ∀ c, Yields p c fun r _ => ∀ e, r = some e → e.IsLegible IsUnsigned

theorem rightOperand_legible (combine : Expr → Expr) (h : YieldsLegible operand)
    (legible : ∀ r, r.IsLegible IsUnsigned → (combine r).IsLegible IsUnsigned) :
    AddsLegible (rightOperand operand combine) := by
  intro c
  simp only [rightOperand, Yields.bind_iff, Yields.descend_iff, Yields.pure_iff]
  intro _
  refine (h _).mono ?_
  intro r c' hr
  simpa using legible r hr

theorem extend_legible {step : Expr → Parse (Option Expr)} {first : Parse Expr} (fuel : Nat)
    (h : YieldsLegible first) (more : ∀ e, e.IsLegible IsUnsigned → AddsLegible (step e)) :
    YieldsLegible (do extend step fuel (← first)) := by
  intro c
  rw [Yields.bind_iff]
  refine (h c).mono ?_
  intro e c' he
  refine Yields.of_steps (I := fun e _ => e.IsLegible IsUnsigned) ?_ fuel e c' he
  intro e c he
  refine (more e he c).mono ?_
  intro r c' hr
  cases r with
  | some b => exact hr b rfl
  | none => exact he

theorem items_legible {close : String} (h : YieldsLegible whole) :
    ∀ (fuel : Nat) (c : Cursor),
      Yields (items whole close fuel) c fun es _ => ∀ e ∈ es, e.IsLegible IsUnsigned
  | 0, c => by simp [items]
  | fuel + 1, c => by
    simp only [items, Yields.bind_iff, Yields.skipSpace_iff, Yields.peek_iff, Yields.ite_iff,
      Yields.pure_iff, Yields.accept_iff]
    refine ⟨by simp, ?_⟩
    intro _
    refine (h _).mono ?_
    intro e c' he
    refine ⟨?_, by simpa using fun _ => he⟩
    intro _
    refine ⟨?_, by simp⟩
    intro _
    refine (items_legible h fuel _).mono ?_
    intro es c'' hes
    simpa using ⟨he, hes⟩

theorem sequence_legible {close : String} (h : YieldsLegible whole) :
    Yields (sequence whole close) c fun es _ => ∀ e ∈ es, e.IsLegible IsUnsigned := by
  simp only [sequence, Yields.bind_iff, Yields.bracketed_iff, Yields.look_iff]
  refine (items_legible h _ _).mono ?_
  intro es c' hes
  simpa using fun _ => hes

theorem arguments_legible (h : YieldsLegible whole) :
    Yields (arguments whole) c fun es _ => ∀ e ∈ es, e.IsLegible IsUnsigned := by
  simp only [arguments, Yields.bind_iff, Yields.expect_iff]
  intro _
  exact sequence_legible h

theorem enclosed_legible {close : String} (h : YieldsLegible whole) :
    YieldsLegible (enclosed whole close) := by
  intro c
  simp only [enclosed, Yields.bind_iff, Yields.bracketed_iff]
  refine (h _).mono ?_
  intro e c' he
  simpa using fun _ => he

theorem primary_legible (h : YieldsLegible whole) : YieldsLegible (primary whole) := by
  intro c
  simp only [primary, Yields.bind_iff, Yields.skipSpace_iff, Yields.look_iff]
  split
  · simp
  · have number (c : Cursor) : Yields number c fun l _ => l.IsUnsigned := number_isUnsigned
    have string (quote : Char) (c : Cursor) :
        Yields (quoted quote) c fun s _ => (Literal.string s).IsUnsigned := fun _ _ _ => trivial
    have list (c : Cursor) :
        Yields (sequence whole "]") c fun es _ => ∀ e ∈ es, e.IsLegible IsUnsigned :=
      sequence_legible h
    have parentheses (c : Cursor) :
        Yields (enclosed whole ")") c fun e _ => e.IsLegible IsUnsigned :=
      enclosed_legible h c
    have name (c : Cursor) : Yields identifier c fun name _ => IsName name := identifier_isName
    have constant (l : Literal) (h : l = .none ∨ ∃ b, l = .bool b) : l.IsUnsigned := by
      rcases h with rfl | ⟨b, rfl⟩ <;> trivial
    simp [number, string, list, parentheses, name, constant, -Yields.identifier_iff]

theorem afterPoint_legible (h : YieldsLegible whole) (he : e.IsLegible IsUnsigned) :
    YieldsLegible (afterPoint whole e) := by
  intro c
  simp only [afterPoint, Yields.bind_iff, Yields.look_iff, Yields.ite_iff, Yields.pure_iff]
  refine ⟨?_, ?_⟩
  · intro _
    refine number_isUnsigned.mono ?_
    intro l c' hl
    simpa using ⟨he, hl⟩
  · intro _
    refine identifier_isName.mono ?_
    intro name c' hname
    simp only [Yields.peek_iff]
    refine ⟨?_, by simpa using fun _ => ⟨he, hname⟩⟩
    intro _
    refine (arguments_legible h).mono ?_
    intro args c'' hargs
    simpa using ⟨hname, he, hargs⟩

theorem trailer_legible (h : YieldsLegible whole) (he : e.IsLegible IsUnsigned) :
    AddsLegible (trailer whole e) := by
  intro c
  simp only [trailer, Yields.bind_iff, Yields.peek_iff, Yields.ite_iff, Yields.descend_iff,
    Yields.unseen_iff, Yields.pure_iff]
  refine ⟨?_, ?_⟩
  · intro _ _
    cases e with
    | var function =>
        simp only [Yields.bind_iff, Yields.pure_iff]
        refine (arguments_legible h).mono ?_
        intro args c' hargs
        simpa using ⟨by simpa using he, hargs⟩
    | _ => simp
  · intro _
    refine ⟨?_, ?_⟩
    · intro _ _
      refine (enclosed_legible h _).mono ?_
      intro i c' hi
      simpa using ⟨he, hi⟩
    · intro _
      refine ⟨?_, by simp⟩
      intro _ _
      refine (afterPoint_legible h he _).mono ?_
      intro r c' hr
      simpa using hr

theorem trailed_legible (h : YieldsLegible whole) : YieldsLegible (trailed whole) :=
  extend_legible _ (primary_legible h) fun _ he => trailer_legible h he

theorem negated_legible (h : YieldsLegible whole) :
    ∀ (fuel : Nat), YieldsLegible (negated whole fuel)
  | 0, c => by simp [negated]
  | fuel + 1, c => by
    simp only [negated, Yields.bind_iff, Yields.skipSpace_iff, Yields.accept_iff, Yields.ite_iff,
      Yields.descend_iff, Yields.pure_iff]
    refine ⟨?_, ?_⟩
    · intro _
      refine ⟨?_, by simp⟩
      intro _ _
      exact negated_legible h fuel _
    · intro _
      refine ⟨by simp, ?_⟩
      intro _
      exact trailed_legible h _

theorem moreFactors_legible (h : YieldsLegible (factor whole)) (he : e.IsLegible IsUnsigned) :
    AddsLegible (moreFactors whole e) := by
  intro c
  have operand (op : Arithmetic) (c : Cursor) :=
    rightOperand_legible (.binary (.arith op) e) h (by simp [he]) c
  simp [moreFactors, operand]

theorem product_legible (h : YieldsLegible whole) : YieldsLegible (product whole) :=
  extend_legible _ (negated_legible h _) fun _ he => moreFactors_legible (negated_legible h _) he

theorem moreTerms_legible (h : YieldsLegible (product whole)) (he : e.IsLegible IsUnsigned) :
    AddsLegible (moreTerms whole e) := by
  intro c
  have operand (op : Arithmetic) (c : Cursor) :=
    rightOperand_legible (.binary (.arith op) e) h (by simp [he]) c
  simp [moreTerms, operand]

theorem sum_legible (h : YieldsLegible whole) : YieldsLegible (sum whole) :=
  extend_legible _ (product_legible h) fun _ he => moreTerms_legible (product_legible h) he

theorem compared_legible (h : YieldsLegible whole) (he : e.IsLegible IsUnsigned) :
    YieldsLegible (compared whole e) := by
  intro c
  have right (c : Cursor) : Yields (sum whole) c fun r _ => r.IsLegible IsUnsigned :=
    sum_legible h c
  simp [compared, acceptNotIn, relation?, right, he]

theorem comparison_legible (h : YieldsLegible whole) : YieldsLegible (comparison whole) := by
  intro c
  rw [comparison, Yields.bind_iff]
  exact (sum_legible h c).mono fun e c' he => compared_legible h he c'

theorem denied_legible (h : YieldsLegible whole) :
    ∀ (fuel : Nat), YieldsLegible (denied whole fuel)
  | 0, c => by simp [denied]
  | fuel + 1, c => by
    have operand (c : Cursor) : Yields (denied whole fuel) c fun e _ => e.IsLegible IsUnsigned :=
      denied_legible h fuel c
    have plain (c : Cursor) : Yields (comparison whole) c fun e _ => e.IsLegible IsUnsigned :=
      comparison_legible h c
    simp [denied, acceptNot, operand, plain]

theorem moreConjuncts_legible (h : YieldsLegible (conjunct whole)) (he : e.IsLegible IsUnsigned) :
    AddsLegible (moreConjuncts whole e) := by
  intro c
  have operand (c : Cursor) :=
    rightOperand_legible (.connect .and e) h (by simp [he]) c
  simp [moreConjuncts, acceptEither, operand]

theorem conjunction_legible (h : YieldsLegible whole) : YieldsLegible (conjunction whole) :=
  extend_legible _ (denied_legible h _) fun _ he => moreConjuncts_legible (denied_legible h _) he

theorem moreDisjuncts_legible (h : YieldsLegible (conjunction whole))
    (he : e.IsLegible IsUnsigned) : AddsLegible (moreDisjuncts whole e) := by
  intro c
  have operand (c : Cursor) :=
    rightOperand_legible (.connect .or e) h (by simp [he]) c
  simp [moreDisjuncts, acceptEither, operand]

theorem disjunction_legible (h : YieldsLegible whole) : YieldsLegible (disjunction whole) :=
  extend_legible _ (conjunction_legible h) fun _ he =>
    moreDisjuncts_legible (conjunction_legible h) he

theorem moreFilters_legible (h : YieldsLegible whole) (he : e.IsLegible IsUnsigned) :
    AddsLegible (moreFilters whole e) := by
  intro c
  simp [moreFilters, -Yields.identifier_iff]
  intro _ _ _
  refine identifier_isName.mono ?_
  intro function c' hfunction
  refine ⟨?_, fun _ => ⟨hfunction, he⟩⟩
  intro _
  exact (arguments_legible h).mono fun _ _ hargs => ⟨hfunction, he, hargs⟩

theorem filtered_legible (h : YieldsLegible whole) : YieldsLegible (filtered whole) :=
  extend_legible _ (disjunction_legible h) fun _ he => moreFilters_legible h he

/-- The names of an expression that has been read are names, and its numbers have no sign. -/
theorem expressionWithin_legible : ∀ (levels : Nat), YieldsLegible (expressionWithin levels)
  | 0, c => by simp [expressionWithin]
  | levels + 1, c => by
    simp only [expressionWithin, Yields.keepingDepth_iff, Yields.bind_iff, Yields.descend_iff]
    intro _
    exact filtered_legible (expressionWithin_legible levels) _

theorem expression_legible : YieldsLegible expression := expressionWithin_legible _

end Expressions

theorem readStatements_legible {text : List Char} {ss : List Stmt}
    (h : readStatements text = .ok ss) : BlockIsLegible IsUnsigned ss :=
  (blockIsLegible_iff ss).2 (readStatements_every expression_legible h)

end Script

namespace Program

/-- Whether what has been gathered of a conditional can be written down. -/
def ChainIsLegible (chain : Option Chain) : Prop :=
  ∀ c, chain = some c → c.cond.IsLegible IsUnsigned ∧ BlockIsLegible IsUnsigned c.body ∧
    ∀ b ∈ c.more, b.1.IsLegible IsUnsigned ∧ BlockIsLegible IsUnsigned b.2

theorem close_isLegible {c : Chain} {otherwise : Else} (h : ChainIsLegible (some c))
    (last : otherwise.IsLegible IsUnsigned) : (c.close otherwise).IsLegible IsUnsigned := by
  obtain ⟨cond, body, more⟩ := c
  obtain ⟨hcond, hbody, hmore⟩ := h _ rfl
  simp only [Chain.close, Stmt.isLegible_branch]
  refine ⟨hcond, hbody, ?_⟩
  clear h hcond hbody
  induction more generalizing otherwise with
  | nil => exact last
  | cons b more ih =>
      have first := hmore b (by simp)
      refine ih ?_ fun b hb => hmore b (by simp [hb])
      simpa using ⟨first.1, first.2, last⟩

theorem flush_isLegible {chain : Option Chain} (h : ChainIsLegible chain) :
    BlockIsLegible IsUnsigned (Chain.flush chain) := by
  cases chain with
  | none => simp [Chain.flush]
  | some c => simpa [Chain.flush] using close_isLegible h Else.isLegible_nothing

/-- Whether a fragment can be written down. -/
def FragmentIsLegible : Fragment → Prop
  | .statements ss => BlockIsLegible IsUnsigned ss
  | .start cond body => cond.IsLegible IsUnsigned ∧ BlockIsLegible IsUnsigned body
  | .further cond body _ => cond.IsLegible IsUnsigned ∧ BlockIsLegible IsUnsigned body
  | .last body _ => BlockIsLegible IsUnsigned body

theorem ofBlock_isLegible {h : Script.Header} {body : List Stmt} (orphan : Flaw)
    (hh : h.Every Script.IsName (Expr.IsLegible IsUnsigned))
    (hbody : BlockIsLegible IsUnsigned body) : FragmentIsLegible (.ofBlock h body orphan) := by
  cases h with
  | forEach var iterable => simpa [Fragment.ofBlock, FragmentIsLegible] using ⟨hh.1, hh.2, hbody⟩
  | whileTrue cond => simpa [Fragment.ofBlock, FragmentIsLegible] using ⟨hh, hbody⟩
  | ifTrue cond => exact ⟨hh, hbody⟩
  | elseIf cond => exact ⟨hh, hbody⟩
  | otherwise => exact hbody

theorem enter_isLegible {f : Fragment} {chain after : Option Chain} {out : List Stmt}
    (hf : FragmentIsLegible f) (hchain : ChainIsLegible chain)
    (h : f.enter chain = some (out, after)) :
    BlockIsLegible IsUnsigned out ∧ ChainIsLegible after := by
  have ended : ChainIsLegible none := by simp [ChainIsLegible]
  cases f with
  | statements ss =>
      cases h
      exact ⟨(blockIsLegible_append _ _).2 ⟨flush_isLegible hchain, hf⟩, ended⟩
  | start cond body =>
      cases h
      refine ⟨flush_isLegible hchain, ?_⟩
      rintro _ ⟨⟩
      exact ⟨hf.1, hf.2, by simp⟩
  | further cond body orphan =>
      cases chain with
      | none => cases h
      | some c =>
          cases h
          refine ⟨by simp, ?_⟩
          rintro _ ⟨⟩
          obtain ⟨hcond, hbody, hmore⟩ := hchain c rfl
          exact ⟨hcond, hbody, List.forall_mem_cons.2 ⟨hf, hmore⟩⟩
  | last body orphan =>
      cases chain with
      | none => cases h
      | some c =>
          cases h
          have closed := close_isLegible hchain ((Else.isLegible_block body).2 hf)
          exact ⟨by simpa using closed, ended⟩

mutual

theorem fragment_isLegible : ∀ {part : Part} {f : Fragment}, fragment part = .ok f →
    FragmentIsLegible f
  | .text text, f, h => by
    cases fragment_eq_ok.1 h with
    | text => simp [FragmentIsLegible]
  | .statements code place, f, h => by
    cases fragment_eq_ok.1 h with
    | statements read => exact Script.readStatements_legible read
  | .expression code place, f, h => by
    cases fragment_eq_ok.1 h with
    | expression read =>
        have legible := Script.readExpression_every Script.expression_legible read
        simpa [FragmentIsLegible] using legible
  | .block header place body, f, h => by
    cases fragment_eq_ok.1 h with
    | block read inside =>
        have legible := Script.readHeader_every Script.expression_legible read
        exact ofBlock_isLegible _ legible (ofParts_isLegible inside (by simp [ChainIsLegible]))

theorem ofParts_isLegible : ∀ {parts : List Part} {chain : Option Chain} {p : Program},
    ofParts chain parts = .ok p → ChainIsLegible chain → BlockIsLegible IsUnsigned p
  | [], chain, p, h, hchain => by
    rw [ofParts] at h
    cases h
    exact flush_isLegible hchain
  | part :: parts, chain, p, h, hchain => by
    obtain ⟨f, out, after, rest, generated, entered, others, rfl⟩ := ofParts_cons.1 h
    obtain ⟨hout, hafter⟩ := enter_isLegible (fragment_isLegible generated) hchain entered
    exact (blockIsLegible_append _ _).2 ⟨hout, ofParts_isLegible others hafter⟩

end

/-- The program of a template can be written down. -/
theorem ofSource_isLegible {m : Markers} {source : List Char} {p : Program}
    (h : ofSource m source = .ok p) : BlockIsLegible IsUnsigned p := by
  obtain ⟨tokens, parts, -, -, generated⟩ := ofSource_eq_ok.1 h
  exact ofParts_isLegible generated (by simp [ChainIsLegible])

end Program

end Stencil
