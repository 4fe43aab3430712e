import Stencil.Proofs.Script.Climb
import Stencil.Proofs.Script.Lines

/-!
# Infinite floats as names

A float literal that is too large is infinite, and its text is a name. That is how the reader
understands it. The text of a program shows no difference, and is as deep; but with the name in
place of the number everything in it is read back.
-/

namespace Stencil

/-- The literal, or the variable that its text is the name of. -/
def Literal.asName (l : Literal) : Expr :=
  match l with
  | .float x =>
    match Decimal.decode x with
    | .finite .. => .literal l
    | _ => .var (String.ofList l.chars)
  | _ => .literal l

mutual

/-- The expression with names for the floats that are no numbers. -/
def Expr.asNames : Expr → Expr
  | .literal l => l.asName
  | .list items => .list (allAsNames items)
  | .var name => .var name
  | .unary op e => .unary op e.asNames
  | .connect op l r => .connect op l.asNames r.asNames
  | .binary op l r => .binary op l.asNames r.asNames
  | .call function args => .call function (allAsNames args)
  | .index target position => .index target.asNames position.asNames
  | .member target name => .member target.asNames name

def allAsNames : List Expr → List Expr
  | [] => []
  | e :: es => e.asNames :: allAsNames es

end

mutual

def Stmt.asNames : Stmt → Stmt
  | .emitText text => .emitText text
  | .emit e => .emit e.asNames
  | .declare name value => .declare name value.asNames
  | .assign name op value => .assign name op value.asNames
  | .expr e => .expr e.asNames
  | .branch cond body otherwise => .branch cond.asNames (blockAsNames body) otherwise.asNames
  | .forLoop var iterable body => .forLoop var iterable.asNames (blockAsNames body)
  | .whileLoop cond body => .whileLoop cond.asNames (blockAsNames body)
  | .breakLoop => .breakLoop
  | .continueLoop => .continueLoop

def Else.asNames : Else → Else
  | .nothing => .nothing
  | .block body => .block (blockAsNames body)
  | .elif cond body otherwise => .elif cond.asNames (blockAsNames body) otherwise.asNames

def blockAsNames : List Stmt → List Stmt
  | [] => []
  | s :: ss => s.asNames :: blockAsNames ss

end

namespace Literal

/-- A float that is no number is written as a name. -/
theorem isName_chars {x : Float} (unsigned : Decimal.IsUnsigned x) (other : ¬Decimal.IsFinite x) :
    Script.IsName (String.ofList (Literal.float x).chars) := by
  have nan : Script.IsName "NaN" :=
    ⟨by decide, List.all_eq_true.1 (by decide), by decide, by decide⟩
  have inf : Script.IsName "inf" :=
    ⟨by decide, List.all_eq_true.1 (by decide), by decide, by decide⟩
  have notWhole : Decimal.isWhole x = false := by
    rw [Decimal.isWhole]
    split
    · next decoded => exact absurd ⟨_, _, decoded⟩ other
    · rfl
  rw [chars, notWhole, if_neg (by decide), Decimal.floatText]
  cases decoded : Decimal.decode x with
  | nan => exact nan
  | infinite negative =>
      obtain rfl : negative = false := Decimal.decode_infinite_unsigned unsigned decoded
      exact inf
  | finite negative d => exact absurd ⟨_, _, decoded⟩ other

/-- Only floats that are no numbers are written as names. -/
theorem asName_eq (l : Literal) :
    l.asName = .literal l ∧ (∀ x, l = .float x → Decimal.IsFinite x) ∨
      l.asName = .var (String.ofList l.chars) ∧ ∃ x, l = .float x ∧ ¬Decimal.IsFinite x := by
  cases l with
  | float x =>
      rw [asName]
      split
      · next decoded => exact .inl ⟨rfl, by rintro _ ⟨⟩; exact ⟨_, _, decoded⟩⟩
      · next other => exact .inr ⟨rfl, x, rfl, fun ⟨_, _, decoded⟩ => other _ _ decoded⟩
  | none => exact .inl ⟨rfl, by simp⟩
  | bool b => exact .inl ⟨rfl, by simp⟩
  | int i => exact .inl ⟨rfl, by simp⟩
  | string s => exact .inl ⟨rfl, by simp⟩

section

variable (l : Literal)

@[simp] theorem strength_asName : l.asName.strength = Expr.postfixStrength := by
  rcases l.asName_eq with ⟨same, -⟩ | ⟨same, -⟩ <;> rw [same] <;> rfl

@[simp] theorem chars_asName : l.asName.chars = l.chars := by
  rcases l.asName_eq with ⟨same, -⟩ | ⟨same, -⟩ <;> rw [same]
  · rw [Expr.chars]
  · rw [Expr.chars, String.toList_ofList]

@[simp] theorem climb_asName : l.asName.climb = .flat := by
  rcases l.asName_eq with ⟨same, -⟩ | ⟨same, -⟩ <;> rw [same, Expr.climb]

@[simp] theorem compares_asName : l.asName.compares = false := by
  rcases l.asName_eq with ⟨same, -⟩ | ⟨same, -⟩ <;> rw [same] <;> rfl

@[simp] theorem chains_asName : l.asName.chains = false := by
  rcases l.asName_eq with ⟨same, -⟩ | ⟨same, -⟩ <;> rw [same, Expr.chains]

end

theorem isLegible_asName {l : Literal} (unsigned : l.IsUnsigned) :
    l.asName.IsLegible IsReadable := by
  rcases l.asName_eq with ⟨same, finite⟩ | ⟨same, x, rfl, other⟩
  · rw [same, Expr.isLegible_literal]
    cases l with
    | float x => exact isReadable_float unsigned (finite x rfl)
    | int i => exact unsigned
    | none => trivial
    | bool b => trivial
    | string s => trivial
  · rw [same, Expr.isLegible_var]
    exact isName_chars unsigned other

end Literal

namespace Expr

@[simp] theorem strength_asNames (e : Expr) : e.asNames.strength = e.strength := by
  cases e with
  | literal l => exact l.strength_asName
  | _ => rfl

@[simp] theorem compares_asNames (e : Expr) : e.asNames.compares = e.compares := by
  cases e with
  | literal l => exact l.compares_asName
  | _ => rfl

mutual

@[simp] theorem chars_asNames : ∀ e : Expr, e.asNames.chars = e.chars
  | literal l => by simp [asNames, chars]
  | list items => by simp [asNames, chars, listChars_asNames items]
  | var name => by simp [asNames]
  | unary .neg e => by simp [asNames, chars, chars_asNames e]
  | unary .not e => by simp [asNames, chars, chars_asNames e]
  | connect op l r => by simp [asNames, chars, chars_asNames l, chars_asNames r]
  | binary op l r => by simp [asNames, chars, chars_asNames l, chars_asNames r]
  | call function args => by simp [asNames, chars, listChars_asNames args]
  | index target position => by
    simp [asNames, chars, chars_asNames target, chars_asNames position]
  | member target name => by simp [asNames, chars, chars_asNames target]

theorem listChars_asNames : ∀ es : List Expr, listChars (allAsNames es) = listChars es
  | [] => by simp [allAsNames]
  | e :: es => by simp [allAsNames, listChars, chars_asNames e, listChars_asNames es]

end

mutual

@[simp] theorem climb_asNames : ∀ e : Expr, e.asNames.climb = e.climb
  | literal l => by simp [asNames, climb]
  | list items => by simp [asNames, climb, climbAll_asNames items]
  | var name => by simp [asNames]
  | unary op e => by simp [asNames, climb, climb_asNames e]
  | connect op l r => by simp [asNames, climb, climb_asNames l, climb_asNames r]
  | binary op l r => by simp [asNames, climb, climb_asNames l, climb_asNames r]
  | call function args => by simp [asNames, climb, climbAll_asNames args]
  | index target position => by
    simp [asNames, climb, climb_asNames target, climb_asNames position]
  | member target name => by simp [asNames, climb, climb_asNames target]

theorem climbAll_asNames : ∀ es : List Expr, climbAll (allAsNames es) = climbAll es
  | [] => by simp [allAsNames]
  | e :: es => by simp [allAsNames, climbAll, climb_asNames e, climbAll_asNames es]

end

mutual

@[simp] theorem chains_asNames : ∀ e : Expr, e.asNames.chains = e.chains
  | literal l => by simp [asNames, chains]
  | list items => by simp [asNames, chains, chainsAny_asNames items]
  | var name => by simp [asNames]
  | unary op e => by simp [asNames, chains, chains_asNames e]
  | connect op l r => by simp [asNames, chains, chains_asNames l, chains_asNames r]
  | binary op l r => by simp [asNames, chains, chains_asNames l, chains_asNames r]
  | call function args => by simp [asNames, chains, chainsAny_asNames args]
  | index target position => by
    simp [asNames, chains, chains_asNames target, chains_asNames position]
  | member target name => by simp [asNames, chains, chains_asNames target]

theorem chainsAny_asNames : ∀ es : List Expr, chainsAny (allAsNames es) = chainsAny es
  | [] => by simp [allAsNames]
  | e :: es => by simp [allAsNames, chainsAny, chains_asNames e, chainsAny_asNames es]

end

mutual

theorem isLegible_asNames : ∀ {e : Expr}, e.IsLegible Literal.IsUnsigned →
    e.asNames.IsLegible Literal.IsReadable
  | literal l, h => Literal.isLegible_asName ((isLegible_literal l).1 h)
  | list items, h => by
    rw [isLegible_list] at h
    simpa [asNames] using allAreLegible_asNames h
  | var name, h => by simpa [asNames] using h
  | unary op e, h => by
    rw [isLegible_unary] at h
    simpa [asNames] using isLegible_asNames h
  | connect op l r, h => by
    rw [isLegible_connect] at h
    simpa [asNames] using ⟨isLegible_asNames h.1, isLegible_asNames h.2⟩
  | binary op l r, h => by
    rw [isLegible_binary] at h
    simpa [asNames] using ⟨isLegible_asNames h.1, isLegible_asNames h.2⟩
  | call function args, h => by
    rw [isLegible_call] at h
    simpa [asNames] using ⟨h.1, allAreLegible_asNames h.2⟩
  | index target position, h => by
    rw [isLegible_index] at h
    simpa [asNames] using ⟨isLegible_asNames h.1, isLegible_asNames h.2⟩
  | member target name, h => by
    rw [isLegible_member] at h
    simpa [asNames] using ⟨isLegible_asNames h.1, h.2⟩

theorem allAreLegible_asNames : ∀ {es : List Expr}, (∀ e ∈ es, e.IsLegible Literal.IsUnsigned) →
    ∀ e ∈ allAsNames es, e.IsLegible Literal.IsReadable
  | [], _ => by simp [allAsNames]
  | e :: es, h => by
    rw [List.forall_mem_cons] at h
    simpa [allAsNames] using ⟨isLegible_asNames h.1, allAreLegible_asNames h.2⟩

end

end Expr

section Statements

mutual

theorem Stmt.chars_asNames (depth : Nat) (tail : List Char) :
    ∀ s : Stmt, s.asNames.chars depth ++ tail = s.chars depth ++ tail
  | .emitText text => by rw [Stmt.asNames]
  | .emit e => by
    simp [Stmt.asNames, Stmt.chars_emit, Expr.chars, Expr.listChars]
  | .declare name value => by simp [Stmt.asNames, Stmt.chars_declare]
  | .assign name op value => by simp [Stmt.asNames, Stmt.chars_assign]
  | .expr e => congrArg (· ++ tail) (Expr.chars_asNames e)
  | .branch cond body otherwise => by
    simp [Stmt.asNames, Stmt.chars_branch, Stmt.braced_append,
      blockChars_asNames (depth + 1) _ body, Else.chars_asNames depth tail otherwise]
  | .forLoop var iterable body => by
    simp [Stmt.asNames, Stmt.chars_forLoop, Stmt.braced_append,
      blockChars_asNames (depth + 1) _ body]
  | .whileLoop cond body => by
    simp [Stmt.asNames, Stmt.chars_whileLoop, Stmt.braced_append,
      blockChars_asNames (depth + 1) _ body]
  | .breakLoop => by rw [Stmt.asNames]
  | .continueLoop => by rw [Stmt.asNames]

theorem Else.chars_asNames (depth : Nat) (tail : List Char) :
    ∀ o : Else, Stmt.elseChars depth o.asNames ++ tail = Stmt.elseChars depth o ++ tail
  | .nothing => by rw [Else.asNames]
  | .block body => by
    simp [Else.asNames, Stmt.elseChars_block, Stmt.braced_append,
      blockChars_asNames (depth + 1) _ body]
  | .elif cond body otherwise => by
    simp [Else.asNames, Stmt.elseChars_elif, Stmt.braced_append,
      blockChars_asNames (depth + 1) _ body, Else.chars_asNames depth tail otherwise]

theorem blockChars_asNames (depth : Nat) (tail : List Char) :
    ∀ ss : List Stmt,
      Stmt.blockChars depth (blockAsNames ss) ++ tail = Stmt.blockChars depth ss ++ tail
  | [] => by rw [blockAsNames]
  | s :: ss => by
    rw [blockAsNames, Stmt.blockChars_cons, Stmt.blockChars_cons,
      Stmt.chars_asNames depth _ s, blockChars_asNames depth tail ss]

end

mutual

@[simp] theorem Stmt.climb_asNames : ∀ s : Stmt, s.asNames.climb = s.climb
  | .emitText text => by simp [Stmt.asNames]
  | .emit e => by simp [Stmt.asNames, Stmt.climb, Expr.climb, climbAll]
  | .declare name value => by simp [Stmt.asNames, Stmt.climb]
  | .assign name op value => by simp [Stmt.asNames, Stmt.climb]
  | .expr e => by simp [Stmt.asNames, Stmt.climb]
  | .branch cond body otherwise => by
    simp [Stmt.asNames, Stmt.climb, blockClimb_asNames body, Else.climb_asNames otherwise]
  | .forLoop var iterable body => by simp [Stmt.asNames, Stmt.climb, blockClimb_asNames body]
  | .whileLoop cond body => by simp [Stmt.asNames, Stmt.climb, blockClimb_asNames body]
  | .breakLoop => by simp [Stmt.asNames]
  | .continueLoop => by simp [Stmt.asNames]

theorem Else.climb_asNames : ∀ o : Else, o.asNames.climb = o.climb
  | .nothing => by simp [Else.asNames]
  | .block body => by simp [Else.asNames, Else.climb, blockClimb_asNames body]
  | .elif cond body otherwise => by
    simp [Else.asNames, Else.climb, blockClimb_asNames body, Else.climb_asNames otherwise]

theorem blockClimb_asNames : ∀ ss : List Stmt, blockClimb (blockAsNames ss) = blockClimb ss
  | [] => by simp [blockAsNames]
  | s :: ss => by simp [blockAsNames, blockClimb, Stmt.climb_asNames s, blockClimb_asNames ss]

end

mutual

@[simp] theorem Stmt.chains_asNames : ∀ s : Stmt, s.asNames.chains = s.chains
  | .emitText text => by simp [Stmt.asNames]
  | .emit e => by simp [Stmt.asNames, Stmt.chains]
  | .declare name value => by simp [Stmt.asNames, Stmt.chains]
  | .assign name op value => by simp [Stmt.asNames, Stmt.chains]
  | .expr e => by simp [Stmt.asNames, Stmt.chains]
  | .branch cond body otherwise => by
    simp [Stmt.asNames, Stmt.chains, blockChains_asNames body, Else.chains_asNames otherwise]
  | .forLoop var iterable body => by simp [Stmt.asNames, Stmt.chains, blockChains_asNames body]
  | .whileLoop cond body => by simp [Stmt.asNames, Stmt.chains, blockChains_asNames body]
  | .breakLoop => by simp [Stmt.asNames]
  | .continueLoop => by simp [Stmt.asNames]

theorem Else.chains_asNames : ∀ o : Else, o.asNames.chains = o.chains
  | .nothing => by simp [Else.asNames]
  | .block body => by simp [Else.asNames, Else.chains, blockChains_asNames body]
  | .elif cond body otherwise => by
    simp [Else.asNames, Else.chains, blockChains_asNames body, Else.chains_asNames otherwise]

theorem blockChains_asNames : ∀ ss : List Stmt, blockChains (blockAsNames ss) = blockChains ss
  | [] => by simp [blockAsNames]
  | s :: ss => by simp [blockAsNames, blockChains, Stmt.chains_asNames s, blockChains_asNames ss]

end

mutual

theorem Stmt.isLegible_asNames : ∀ {s : Stmt}, s.IsLegible Literal.IsUnsigned →
    s.asNames.IsLegible Literal.IsReadable
  | .emitText text, _ => Stmt.isLegible_emitText text
  | .emit e, h => Expr.isLegible_asNames h
  | .declare name value, h => by
    rw [Stmt.isLegible_declare] at h
    simpa [Stmt.asNames] using ⟨h.1, Expr.isLegible_asNames h.2⟩
  | .assign name op value, h => by
    rw [Stmt.isLegible_assign] at h
    simpa [Stmt.asNames] using ⟨h.1, Expr.isLegible_asNames h.2⟩
  | .expr e, h => Expr.isLegible_asNames h
  | .branch cond body otherwise, h => by
    rw [Stmt.isLegible_branch] at h
    simpa [Stmt.asNames] using
      ⟨Expr.isLegible_asNames h.1, blockIsLegible_asNames h.2.1, Else.isLegible_asNames h.2.2⟩
  | .forLoop var iterable body, h => by
    rw [Stmt.isLegible_forLoop] at h
    simpa [Stmt.asNames] using ⟨h.1, Expr.isLegible_asNames h.2.1, blockIsLegible_asNames h.2.2⟩
  | .whileLoop cond body, h => by
    rw [Stmt.isLegible_whileLoop] at h
    simpa [Stmt.asNames] using ⟨Expr.isLegible_asNames h.1, blockIsLegible_asNames h.2⟩
  | .breakLoop, _ => Stmt.isLegible_breakLoop
  | .continueLoop, _ => Stmt.isLegible_continueLoop

theorem Else.isLegible_asNames : ∀ {o : Else}, o.IsLegible Literal.IsUnsigned →
    o.asNames.IsLegible Literal.IsReadable
  | .nothing, _ => Else.isLegible_nothing
  | .block body, h => blockIsLegible_asNames h
  | .elif cond body otherwise, h => by
    rw [Else.isLegible_elif] at h
    simpa [Else.asNames] using
      ⟨Expr.isLegible_asNames h.1, blockIsLegible_asNames h.2.1, Else.isLegible_asNames h.2.2⟩

theorem blockIsLegible_asNames : ∀ {ss : List Stmt}, BlockIsLegible Literal.IsUnsigned ss →
    BlockIsLegible Literal.IsReadable (blockAsNames ss)
  | [], _ => blockIsLegible_nil
  | s :: ss, h => by
    rw [blockIsLegible_cons] at h
    simpa [blockAsNames] using ⟨Stmt.isLegible_asNames h.1, blockIsLegible_asNames h.2⟩

end

end Statements

end Stencil
