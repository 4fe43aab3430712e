import Stencil.Proofs.Decimal.Bits
import Stencil.Script.Cursor
import Stencil.Stmt

/-!
# Legible programs

A program can be written down if its names are names and none of its numbers has a sign, since a
minus sign in front of a number is an operator.
-/

namespace Stencil

namespace Script

/-- A word that is no keyword and is not taken for a number. -/
structure IsName (name : String) : Prop where
  nonempty : name.toList ≠ []
  word : ∀ c ∈ name.toList, isWordChar c
  letter : name.toList.head?.any Char.isDigit = false
  free : name ∉ keywords

end Script

/-- Whether a literal has no minus sign. -/
def Literal.IsUnsigned : Literal → Prop
  | .int i => 0 ≤ i.toInt
  | .float x => Decimal.IsUnsigned x
  | _ => True

mutual

/-- All names in an expression: of variables, functions and members. -/
def Expr.names : Expr → List String
  | .literal _ => []
  | .list items => namesAll items
  | .var name => [name]
  | .unary _ e => e.names
  | .connect _ l r => l.names ++ r.names
  | .binary _ l r => l.names ++ r.names
  | .call function args => function :: namesAll args
  | .index target position => target.names ++ position.names
  | .member target name => target.names ++ [name]

def namesAll : List Expr → List String
  | [] => []
  | e :: es => e.names ++ namesAll es

end

mutual

/-- All literals in an expression. -/
def Expr.literals : Expr → List Literal
  | .literal l => [l]
  | .list items => literalsAll items
  | .var _ => []
  | .unary _ e => e.literals
  | .connect _ l r => l.literals ++ r.literals
  | .binary _ l r => l.literals ++ r.literals
  | .call _ args => literalsAll args
  | .index target position => target.literals ++ position.literals
  | .member target _ => target.literals

def literalsAll : List Expr → List Literal
  | [] => []
  | e :: es => e.literals ++ literalsAll es

end

/-- Whether names are names and literals are `ok`. -/
structure Legible (ok : Literal → Prop) (names : List String) (literals : List Literal) :
    Prop where
  names : ∀ n ∈ names, Script.IsName n
  literals : ∀ l ∈ literals, ok l

section Legible

variable {ok : Literal → Prop}

theorem legible_nil : Legible ok [] [] := ⟨by simp, by simp⟩

@[simp] theorem legible_append {names names' : List String} {literals literals' : List Literal} :
    Legible ok (names ++ names') (literals ++ literals') ↔
      Legible ok names literals ∧ Legible ok names' literals' := by
  constructor
  · intro h
    have byName := List.forall_mem_append.1 h.names
    have byLiteral := List.forall_mem_append.1 h.literals
    exact ⟨⟨byName.1, byLiteral.1⟩, ⟨byName.2, byLiteral.2⟩⟩
  · rintro ⟨h, h'⟩
    exact ⟨List.forall_mem_append.2 ⟨h.names, h'.names⟩,
      List.forall_mem_append.2 ⟨h.literals, h'.literals⟩⟩

theorem legible_cons {name : String} {names : List String} {literals : List Literal} :
    Legible ok (name :: names) literals ↔ Script.IsName name ∧ Legible ok names literals := by
  constructor
  · intro h
    have byName := List.forall_mem_cons.1 h.names
    exact ⟨byName.1, byName.2, h.literals⟩
  · rintro ⟨first, h⟩
    exact ⟨List.forall_mem_cons.2 ⟨first, h.names⟩, h.literals⟩

namespace Expr

/-- Whether an expression can be written down so that the reader finds its names and numbers. -/
def IsLegible (ok : Literal → Prop) (e : Expr) : Prop := Legible ok e.names e.literals

@[simp] theorem isLegible_literal (l : Literal) : (literal l).IsLegible ok ↔ ok l := by
  constructor
  · intro h
    exact h.literals l (by simp [literals])
  · intro h
    exact ⟨by simp [names], by simpa [literals] using h⟩

@[simp] theorem isLegible_var (name : String) : (var name).IsLegible ok ↔ Script.IsName name := by
  simp [IsLegible, names, literals, legible_cons, legible_nil]

@[simp] theorem isLegible_unary (op : UnaryOp) (e : Expr) :
    (unary op e).IsLegible ok ↔ e.IsLegible ok := Iff.rfl

@[simp] theorem isLegible_connect (op : Connective) (l r : Expr) :
    (connect op l r).IsLegible ok ↔ l.IsLegible ok ∧ r.IsLegible ok := legible_append

@[simp] theorem isLegible_binary (op : BinaryOp) (l r : Expr) :
    (binary op l r).IsLegible ok ↔ l.IsLegible ok ∧ r.IsLegible ok := legible_append

@[simp] theorem isLegible_index (target position : Expr) :
    (index target position).IsLegible ok ↔ target.IsLegible ok ∧ position.IsLegible ok :=
  legible_append

@[simp] theorem isLegible_member (target : Expr) (name : String) :
    (member target name).IsLegible ok ↔ target.IsLegible ok ∧ Script.IsName name := by
  have split : Legible ok (target.names ++ [name]) (target.literals ++ []) ↔
      Legible ok target.names target.literals ∧ Legible ok [name] [] := legible_append
  simpa [IsLegible, names, literals, legible_cons, legible_nil] using split

theorem legible_all (es : List Expr) :
    Legible ok (namesAll es) (literalsAll es) ↔ ∀ e ∈ es, e.IsLegible ok := by
  induction es with
  | nil => simp [namesAll, literalsAll, legible_nil]
  | cons e es ih => simp [namesAll, literalsAll, ih, IsLegible]

@[simp] theorem isLegible_list (items : List Expr) :
    (list items).IsLegible ok ↔ ∀ e ∈ items, e.IsLegible ok := legible_all items

@[simp] theorem isLegible_call (function : String) (args : List Expr) :
    (call function args).IsLegible ok ↔ Script.IsName function ∧ ∀ e ∈ args, e.IsLegible ok := by
  rw [← legible_all]
  exact legible_cons

end Expr

mutual

def Stmt.names : Stmt → List String
  | .emitText _ => []
  | .emit e => e.names
  | .declare name value => name :: value.names
  | .assign name _ value => name :: value.names
  | .expr e => e.names
  | .branch cond body otherwise => cond.names ++ (blockNames body ++ otherwise.names)
  | .forLoop var iterable body => var :: (iterable.names ++ blockNames body)
  | .whileLoop cond body => cond.names ++ blockNames body
  | .breakLoop => []
  | .continueLoop => []

def Else.names : Else → List String
  | .nothing => []
  | .block body => blockNames body
  | .elif cond body otherwise => cond.names ++ (blockNames body ++ otherwise.names)

def blockNames : List Stmt → List String
  | [] => []
  | s :: ss => s.names ++ blockNames ss

end

mutual

def Stmt.literals : Stmt → List Literal
  | .emitText _ => []
  | .emit e => e.literals
  | .declare _ value => value.literals
  | .assign _ _ value => value.literals
  | .expr e => e.literals
  | .branch cond body otherwise => cond.literals ++ (blockLiterals body ++ otherwise.literals)
  | .forLoop _ iterable body => iterable.literals ++ blockLiterals body
  | .whileLoop cond body => cond.literals ++ blockLiterals body
  | .breakLoop => []
  | .continueLoop => []

def Else.literals : Else → List Literal
  | .nothing => []
  | .block body => blockLiterals body
  | .elif cond body otherwise => cond.literals ++ (blockLiterals body ++ otherwise.literals)

def blockLiterals : List Stmt → List Literal
  | [] => []
  | s :: ss => s.literals ++ blockLiterals ss

end

def Program.literals (p : Program) : List Literal := blockLiterals p

def Stmt.IsLegible (ok : Literal → Prop) (s : Stmt) : Prop := Legible ok s.names s.literals

def Else.IsLegible (ok : Literal → Prop) (e : Else) : Prop := Legible ok e.names e.literals

def BlockIsLegible (ok : Literal → Prop) (ss : List Stmt) : Prop :=
  Legible ok (blockNames ss) (blockLiterals ss)

@[simp] theorem blockIsLegible_nil : BlockIsLegible ok [] := legible_nil

@[simp] theorem blockIsLegible_cons (s : Stmt) (ss : List Stmt) :
    BlockIsLegible ok (s :: ss) ↔ s.IsLegible ok ∧ BlockIsLegible ok ss := legible_append

theorem blockIsLegible_append (ss ts : List Stmt) :
    BlockIsLegible ok (ss ++ ts) ↔ BlockIsLegible ok ss ∧ BlockIsLegible ok ts := by
  induction ss with
  | nil => simp
  | cons s ss ih => simp [ih, and_assoc]

namespace Stmt

@[simp] theorem isLegible_emitText (text : String) : (emitText text).IsLegible ok := legible_nil

@[simp] theorem isLegible_emit (e : Expr) : (emit e).IsLegible ok ↔ e.IsLegible ok := Iff.rfl

@[simp] theorem isLegible_declare (name : String) (value : Expr) :
    (declare name value).IsLegible ok ↔ Script.IsName name ∧ value.IsLegible ok := legible_cons

@[simp] theorem isLegible_assign (name : String) (op : AssignOp) (value : Expr) :
    (assign name op value).IsLegible ok ↔ Script.IsName name ∧ value.IsLegible ok := legible_cons

@[simp] theorem isLegible_expr (e : Expr) : (expr e).IsLegible ok ↔ e.IsLegible ok := Iff.rfl

@[simp] theorem isLegible_branch (cond : Expr) (body : List Stmt) (otherwise : Else) :
    (branch cond body otherwise).IsLegible ok ↔
      cond.IsLegible ok ∧ BlockIsLegible ok body ∧ otherwise.IsLegible ok :=
  legible_append.trans (and_congr_right fun _ => legible_append)

@[simp] theorem isLegible_forLoop (var : String) (iterable : Expr) (body : List Stmt) :
    (forLoop var iterable body).IsLegible ok ↔
      Script.IsName var ∧ iterable.IsLegible ok ∧ BlockIsLegible ok body :=
  legible_cons.trans (and_congr_right fun _ => legible_append)

@[simp] theorem isLegible_whileLoop (cond : Expr) (body : List Stmt) :
    (whileLoop cond body).IsLegible ok ↔ cond.IsLegible ok ∧ BlockIsLegible ok body :=
  legible_append

@[simp] theorem isLegible_breakLoop : breakLoop.IsLegible ok := legible_nil

@[simp] theorem isLegible_continueLoop : continueLoop.IsLegible ok := legible_nil

end Stmt

namespace Else

@[simp] theorem isLegible_nothing : nothing.IsLegible ok := legible_nil

@[simp] theorem isLegible_block (body : List Stmt) :
    (block body).IsLegible ok ↔ BlockIsLegible ok body := Iff.rfl

@[simp] theorem isLegible_elif (cond : Expr) (body : List Stmt) (otherwise : Else) :
    (elif cond body otherwise).IsLegible ok ↔
      cond.IsLegible ok ∧ BlockIsLegible ok body ∧ otherwise.IsLegible ok :=
  legible_append.trans (and_congr_right fun _ => legible_append)

end Else

end Legible

end Stencil
