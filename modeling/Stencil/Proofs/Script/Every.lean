import Stencil.Proofs.Script.Legible
import Stencil.Proofs.Script.Yields
import Stencil.Script.Stmt

/-!
# What holds of every expression that is read

Statements are made of names and complete expressions, and a reader of statements gets both from
readers that know nothing of statements. Whatever holds of all expressions that are read therefore
holds of each expression in what is read as statements or as a header, at any depth, and each name
that is bound or assigned to there is a name.
-/

namespace Stencil

mutual

/-- Whether `N` holds of every name that a statement binds or assigns to, at any depth, and `P` of
every expression. -/
def Stmt.Every (N : String → Prop) (P : Expr → Prop) : Stmt → Prop
  | .emitText _ => True
  | .emit e => P e
  | .declare name value => N name ∧ P value
  | .assign name _ value => N name ∧ P value
  | .expr e => P e
  | .branch cond body otherwise => P cond ∧ BlockEvery N P body ∧ otherwise.Every N P
  | .forLoop var iterable body => N var ∧ P iterable ∧ BlockEvery N P body
  | .whileLoop cond body => P cond ∧ BlockEvery N P body
  | .breakLoop => True
  | .continueLoop => True

def Else.Every (N : String → Prop) (P : Expr → Prop) : Else → Prop
  | .nothing => True
  | .block body => BlockEvery N P body
  | .elif cond body otherwise => P cond ∧ BlockEvery N P body ∧ otherwise.Every N P

def BlockEvery (N : String → Prop) (P : Expr → Prop) : List Stmt → Prop
  | [] => True
  | s :: ss => s.Every N P ∧ BlockEvery N P ss

end

section Legible

variable {ok : Literal → Prop}

mutual

/-- A statement can be written down if its own names are names and its expressions can. -/
theorem Stmt.isLegible_iff : ∀ s : Stmt,
    s.IsLegible ok ↔ s.Every Script.IsName (Expr.IsLegible ok)
  | .emitText _ => by simp [Stmt.Every]
  | .emit _ => by simp [Stmt.Every]
  | .declare _ _ => by simp [Stmt.Every]
  | .assign _ _ _ => by simp [Stmt.Every]
  | .expr _ => by simp [Stmt.Every]
  | .branch _ body otherwise => by
    simp [Stmt.Every, blockIsLegible_iff body, otherwise.isLegible_iff]
  | .forLoop _ _ body => by simp [Stmt.Every, blockIsLegible_iff body]
  | .whileLoop _ body => by simp [Stmt.Every, blockIsLegible_iff body]
  | .breakLoop => by simp [Stmt.Every]
  | .continueLoop => by simp [Stmt.Every]

theorem Else.isLegible_iff : ∀ e : Else,
    e.IsLegible ok ↔ e.Every Script.IsName (Expr.IsLegible ok)
  | .nothing => by simp [Else.Every]
  | .block body => by simp [Else.Every, blockIsLegible_iff body]
  | .elif _ body otherwise => by
    simp [Else.Every, blockIsLegible_iff body, otherwise.isLegible_iff]

theorem blockIsLegible_iff : ∀ ss : List Stmt,
    BlockIsLegible ok ss ↔ BlockEvery Script.IsName (Expr.IsLegible ok) ss
  | [] => by simp [BlockEvery]
  | s :: ss => by simp [BlockEvery, s.isLegible_iff, blockIsLegible_iff ss]

end

end Legible

namespace Script

variable {c : Cursor}

/-- A word that is no keyword is a name. -/
theorem isName_word (nonempty : c.word ≠ []) (free : String.ofList c.word ∉ keywords) :
    IsName (String.ofList c.word) := by
  refine ⟨by simpa using nonempty, ?_, ?_, free⟩
  · intro x hx
    rw [String.toList_ofList, Cursor.word] at hx
    split at hx
    · cases hx
    · exact List.mem_takeWhile_imp hx
  · rw [String.toList_ofList, Cursor.word]
    split
    · rfl
    · next letter =>
        rw [Cursor.startsWithChar] at letter
        cases h : c.rest with
        | nil => rfl
        | cons x xs =>
            rw [h] at letter
            rw [List.takeWhile_cons]
            split
            · simpa using letter
            · rfl

theorem identifier_isName : Yields identifier c fun name _ => IsName name := by
  rw [Yields.identifier_iff]
  exact isName_word

variable {P : Expr → Prop} {body : Parse (List Stmt)}

/-- A reader of expressions that satisfy `P`. -/
abbrev YieldsExpr (P : Expr → Prop) (p : Parse Expr) : Prop := ∀ c, Yields p c fun e _ => P e

/-- A reader of blocks whose expressions satisfy `P`. -/
abbrev YieldsEvery (P : Expr → Prop) (p : Parse (List Stmt)) : Prop :=
  ∀ c, Yields p c fun ss _ => BlockEvery IsName P ss

theorem braced_every (h : YieldsEvery P body) : YieldsEvery P (braced body) := by
  intro c
  simp [braced]
  intro _ _
  refine (h _).mono ?_
  intro ss c' hss _
  exact hss

theorem assignment?_isName :
    Yields assignment? c fun r _ => ∀ name op, r = some (name, op) → IsName name := by
  simp only [assignment?, Yields.bind_iff, Yields.get_iff, Yields.peekWord_iff, Yields.ite_iff,
    Yields.pure_iff]
  refine ⟨by simp, ?_⟩
  intro isWord
  simp only [Bool.or_eq_true, not_or, String.isEmpty_iff, String.ofList_eq_empty_iff,
    List.contains_iff_mem] at isWord
  have isName := isName_word isWord.1 isWord.2
  simp only [Yields.unseen_iff, Yields.skipSpace_iff]
  refine fun r c' _ => ?_
  cases r with
  | some op =>
      simp only [Yields.pure_iff, Option.some.injEq, Prod.mk.injEq]
      rintro _ _ ⟨rfl, -⟩
      exact isName
  | none => simp

section Statements

variable (expr : YieldsExpr P expression)

include expr

/-- A condition, the body it guards, and what follows. -/
theorem clause_every (c : Cursor) (fuel : Cursor → Nat) (h : YieldsEvery P body)
    (more : ∀ d c, Yields (elseTail body (fuel d)) c fun e _ => e.Every IsName P) :
    Yields expression c fun cond c' =>
      Yields body c' fun ss d =>
        Yields (elseTail body (fuel d)) d fun e _ =>
          P cond ∧ BlockEvery IsName P ss ∧ e.Every IsName P := by
  refine (expr c).mono ?_
  intro cond c' hcond
  refine (h c').mono ?_
  intro ss d hss
  exact (more d d).mono fun _ _ he => ⟨hcond, hss, he⟩

theorem elseTail_every (h : YieldsEvery P body) :
    ∀ (fuel : Nat) (c : Cursor), Yields (elseTail body fuel) c fun e _ => e.Every IsName P
  | 0, c => by simp [elseTail]
  | fuel + 1, c => by
    have clause (c : Cursor) :=
      clause_every expr c (fun _ => fuel) h fun _ => elseTail_every h fuel
    simp [elseTail, Else.Every]
    refine ⟨?_, ?_⟩
    · intro _
      exact clause _
    · intro _ _
      refine ⟨fun _ => clause _, ?_⟩
      intro _
      exact h _

theorem forHead_every : Yields forHead c fun head _ => IsName head.1 ∧ P head.2 := by
  simp only [forHead, Yields.bind_iff]
  refine identifier_isName.mono ?_
  intro var c' hvar
  simp only [Yields.expectKeyword_iff, Yields.pure_iff]
  intro _
  exact (expr _).mono fun _ _ h => ⟨hvar, h⟩

theorem statement_every (h : YieldsEvery P body) :
    Yields (statement body) c fun s _ => s.Every IsName P := by
  simp [statement, Stmt.Every, -Yields.identifier_iff]
  refine ⟨?_, ?_⟩
  · intro _
    refine identifier_isName.mono ?_
    intro name c' hname _
    exact (expr _).mono fun _ _ he => ⟨hname, he⟩
  · intro _
    refine ⟨?_, ?_⟩
    · intro _
      exact clause_every expr _ (fun d => d.rest.length + 1) h fun _ => elseTail_every expr h _
    · intro _
      refine ⟨?_, ?_⟩
      · intro _
        refine (forHead_every expr).mono ?_
        intro head c' hhead
        exact (h c').mono fun _ _ hss => ⟨hhead.1, hhead.2, hss⟩
      · intro _
        refine ⟨?_, ?_⟩
        · intro _
          refine (expr _).mono ?_
          intro cond c' hcond
          exact (h c').mono fun _ _ hss => ⟨hcond, hss⟩
        · intro _ _ _
          refine assignment?_isName.mono ?_
          intro r c' hr
          cases r with
          | some target =>
              simp only [Yields.map_iff, Stmt.Every]
              exact (expr c').mono fun _ _ he => ⟨hr _ _ rfl, he⟩
          | none =>
              simp only [Yields.map_iff, Stmt.Every]
              exact expr c'

theorem statementList_every {inBody : Bool} (h : YieldsEvery P body) :
    ∀ (fuel : Nat), YieldsEvery P (statementList body inBody fuel)
  | 0, c => by simp [statementList]
  | fuel + 1, c => by
    have next (c : Cursor) :
        Yields (statement body) c fun s c' =>
          Yields (statementEnds inBody) c'.skipped fun ends d =>
            ends = true → Yields (statementList body inBody fuel) d fun ss _ =>
              s.Every IsName P ∧ BlockEvery IsName P ss := by
      refine (statement_every expr h).mono ?_
      intro s c' hs ends d _ _
      exact (statementList_every h fuel d).mono fun _ _ hss => ⟨hs, hss⟩
    simp [statementList, BlockEvery, next]

theorem statementsWithin_every {inBody : Bool} :
    ∀ (levels : Nat), YieldsEvery P (statementsWithin inBody levels)
  | 0, c => by simp [statementsWithin]
  | levels + 1, c => by
    simp only [statementsWithin, Yields.bind_iff, Yields.look_iff]
    exact statementList_every expr (braced_every (statementsWithin_every levels)) _ _

theorem readStatements_every {text : List Char} {ss : List Stmt}
    (h : readStatements text = .ok ss) : BlockEvery IsName P ss := by
  refine Yields.of_run ?_ h
  simp only [wholeStatements, Yields.bind_iff, Yields.expectEnd_iff, Yields.pure_iff]
  exact (statementsWithin_every expr _ _).mono fun _ _ hss _ => hss

theorem readExpression_every {text : List Char} {e : Expr} (h : readExpression text = .ok e) :
    P e := by
  refine Yields.of_run ?_ h
  simp only [wholeExpression, Yields.bracketed_iff, Yields.bind_iff, Yields.skipSpace_iff,
    Yields.expectEnd_iff, Yields.pure_iff]
  exact (expr _).mono fun _ _ he _ => he

end Statements

/-- Whether `N` holds of the name that a header binds and `P` of its expression. -/
def Header.Every (N : String → Prop) (P : Expr → Prop) : Header → Prop
  | .forEach var iterable => N var ∧ P iterable
  | .ifTrue cond => P cond
  | .elseIf cond => P cond
  | .otherwise => True
  | .whileTrue cond => P cond

theorem header_every (expr : YieldsExpr P expression) :
    Yields header c fun h _ => h.Every IsName P := by
  have condition (c : Cursor) : Yields expression c fun e _ => P e := expr c
  have head (c : Cursor) : Yields forHead c fun head _ => IsName head.1 ∧ P head.2 :=
    forHead_every expr
  simp [header, Header.Every, condition, head]

theorem readHeader_every (expr : YieldsExpr P expression) {text : List Char} {h : Header}
    (read : readHeader text = .ok h) : h.Every IsName P := by
  refine Yields.of_run ?_ read
  simp only [wholeHeader, Yields.bind_iff, Yields.skipSpace_iff, Yields.accept_iff,
    Yields.expectEnd_iff, Yields.pure_iff]
  exact (header_every expr).mono fun _ _ h => ⟨fun _ _ => h, fun _ _ => h⟩

end Script

end Stencil
