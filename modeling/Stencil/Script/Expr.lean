import Stencil.Script.Literal

/-!
# Expressions in embedded code

One reader for each strength of operator, from the loosest to the tightest: filters, `or`, `and`,
`not`, comparisons, sums, products, the minus sign, and what follows a term directly. All of them
are written over a reader `whole` for complete expressions, which is needed inside brackets;
`expression` ties the knot. A complete expression is one level deeper than what it stands in, and
so is every operator, so no more than `maxDepth` levels are ever used.
-/

namespace Stencil.Script

variable {σ : Type} [Moves σ]

/-- Reads expressions separated by commas, up to a closing bracket that is left in place. A comma
may follow the last one. -/
def items (whole : Scan σ Expr) (close : String) : Nat → Scan σ (List Expr)
  | 0 => fail .nestedTooDeeply
  | fuel + 1 => do
    skipSpace
    if ← peek close then return []
    let e ← whole
    skipSpace
    if ← accept "," then return e :: (← items whole close fuel)
    return [e]

/-- Reads expressions separated by commas and the bracket that closes them. -/
def sequence (whole : Scan σ Expr) (close : String) : Scan σ (List Expr) := do
  let es ← bracketed do
    let es ← items whole close ((← look).rest.length + 1)
    skipSpace
    return es
  expect close
  return es

def arguments (whole : Scan σ Expr) : Scan σ (List Expr) := do
  expect "("
  sequence whole ")"

/-- Reads an expression and the bracket that closes it. -/
def enclosed (whole : Scan σ Expr) (close : String) : Scan σ Expr := do
  let e ← bracketed whole
  skipSpace
  expect close
  return e

/-- Reads a literal, a list, a name or an expression in parentheses. -/
def primary (whole : Scan σ Expr) : Scan σ Expr := do
  skipSpace
  match (← look).rest.head? with
  | none => fail (.expectedExpression .endOfInput)
  | some c =>
    if c.isDigit then return .literal (← number)
    if c == '"' || c == '\'' then return .literal (.string (← quoted c))
    if c == '[' then
      char c
      return .list (← sequence whole "]")
    if c == '(' then
      char c
      return ← enclosed whole ")"
    if ← acceptKeyword "true" then return .literal (.bool true)
    if ← acceptKeyword "false" then return .literal (.bool false)
    if ← acceptKeyword "none" then return .literal .none
    if (← peekWord).isEmpty then failFound .expectedExpression
    return .var (← identifier)

/-- Reads what follows a point: a position, a method with its arguments, or an attribute. -/
def afterPoint (whole : Scan σ Expr) (e : Expr) : Scan σ Expr := do
  if (← look).startsWithChar Char.isDigit then return .index e (.literal (← number))
  let name ← identifier
  if ← peek "(" then return .call name (e :: (← arguments whole))
  return .member e name

/-- Reads one call, index or point after a term. Blanks are not passed first. -/
def trailer (whole : Scan σ Expr) (e : Expr) : Scan σ (Option Expr) := do
  if ← peek "(" then
    descend
    match e with
    | .var function => return some (.call function (← arguments whole))
    | _ => fail .notCallable
  else if ← peek "[" then
    descend
    unseen "["
    return some (.index e (← enclosed whole "]"))
  else if ← peek "." then
    descend
    unseen "."
    return some (← afterPoint whole e)
  else return none

/-- Reads a term and all that follows it directly. -/
def trailed (whole : Scan σ Expr) : Scan σ Expr := do
  extend (trailer whole) (maxDepth + 1) (← primary whole)

/-- Reads minus signs and the term that they negate. -/
def negated (whole : Scan σ Expr) : Nat → Scan σ Expr
  | 0 => fail .nestedTooDeeply
  | fuel + 1 => do
    skipSpace
    if ← accept "-" then
      descend
      return .unary .neg (← negated whole fuel)
    trailed whole

/-- Reads the right operand of an operator that has been passed, and combines the two. -/
def rightOperand (operand : Scan σ Expr) (combine : Expr → Expr) : Scan σ (Option Expr) := do
  descend
  return some (combine (← operand))

def factor (whole : Scan σ Expr) : Scan σ Expr := negated whole (maxDepth + 1)

/-- Reads one more factor of a product, if there is one. -/
def moreFactors (whole : Scan σ Expr) (left : Expr) : Scan σ (Option Expr) := do
  skipSpace
  let operand := rightOperand (factor whole)
  if ← accept "*" then operand (.binary (.arith .mul) left)
  else if ← accept "/" then operand (.binary (.arith .div) left)
  else if ← accept "%" then operand (.binary (.arith .rem) left)
  else return none

def product (whole : Scan σ Expr) : Scan σ Expr := do
  extend (moreFactors whole) (maxDepth + 1) (← factor whole)

/-- Reads one more term of a sum, if there is one. The operators of assignments do not start one. -/
def moreTerms (whole : Scan σ Expr) (left : Expr) : Scan σ (Option Expr) := do
  skipSpace
  let operand := rightOperand (product whole)
  if (← peek "+=") || (← peek "-=") then return none
  if ← accept "+" then operand (.binary (.arith .add) left)
  else if ← accept "-" then operand (.binary (.arith .sub) left)
  else return none

def sum (whole : Scan σ Expr) : Scan σ Expr := do
  extend (moreTerms whole) (maxDepth + 1) (← product whole)

/-- Passes an operator that compares, if there is one. -/
def relation? : Scan σ (Option BinaryOp) := do
  if ← accept "==" then return some .eq
  if ← accept "!=" then return some .ne
  if ← accept "<=" then return some (.compare .le)
  if ← accept ">=" then return some (.compare .ge)
  if ← accept "<" then return some (.compare .lt)
  if ← accept ">" then return some (.compare .gt)
  if ← acceptKeyword "in" then return some .isIn
  return none

/-- Passes the two words of a negated membership test, or nothing. -/
def acceptNotIn : Scan σ Bool := do
  let start ← get
  if ← acceptKeyword "not" then
    skipSpace
    if ← acceptKeyword "in" then return true
    restore start
  return false

/-- Reads what a sum is compared with, if it is. -/
def compared (whole : Scan σ Expr) (left : Expr) : Scan σ Expr := do
  skipSpace
  if ← acceptNotIn then return .unary .not (.binary .isIn left (← sum whole))
  match ← relation? with
  | some op => return .binary op left (← sum whole)
  | none => return left

/-- Reads a comparison of two sums, or a sum. Comparisons do not chain. -/
def comparison (whole : Scan σ Expr) : Scan σ Expr := do compared whole (← sum whole)

/-- Passes the sign or the word of a negation, and tells whether there is one. -/
def acceptNot : Scan σ Bool := do
  if (← peek "!") && !(← peek "!=") then
    unseen "!"
    return true
  acceptKeyword "not"

/-- Reads negations and the comparison that they negate. -/
def denied (whole : Scan σ Expr) : Nat → Scan σ Expr
  | 0 => fail .nestedTooDeeply
  | fuel + 1 => do
    skipSpace
    if ← acceptNot then
      descend
      return .unary .not (← denied whole fuel)
    comparison whole

def conjunct (whole : Scan σ Expr) : Scan σ Expr := denied whole (maxDepth + 1)

/-- Passes one of two spellings of an operator, a sign or a word, and tells whether it is there. -/
def acceptEither (sign word : String) : Scan σ Bool := do
  if ← accept sign then return true
  acceptKeyword word

/-- Reads one more member of a conjunction, if there is one. -/
def moreConjuncts (whole : Scan σ Expr) (left : Expr) : Scan σ (Option Expr) := do
  skipSpace
  if ← acceptEither "&&" "and" then
    rightOperand (conjunct whole) (.connect .and left)
  else return none

def conjunction (whole : Scan σ Expr) : Scan σ Expr := do
  extend (moreConjuncts whole) (maxDepth + 1) (← conjunct whole)

/-- Reads one more member of a disjunction, if there is one. -/
def moreDisjuncts (whole : Scan σ Expr) (left : Expr) : Scan σ (Option Expr) := do
  skipSpace
  if ← acceptEither "||" "or" then
    rightOperand (conjunction whole) (.connect .or left)
  else return none

def disjunction (whole : Scan σ Expr) : Scan σ Expr := do
  extend (moreDisjuncts whole) (maxDepth + 1) (← conjunction whole)

/-- Reads one more filter, if there is one. A double bar is no filter. -/
def moreFilters (whole : Scan σ Expr) (e : Expr) : Scan σ (Option Expr) := do
  skipSpace
  if (← peek "|") && !(← peek "||") then
    unseen "|"
    descend
    let function ← identifier
    let args ← if ← peek "(" then arguments whole else pure []
    return some (.call function (e :: args))
  else return none

/-- Reads a disjunction and the filters applied to it. -/
def filtered (whole : Scan σ Expr) : Scan σ Expr := do
  extend (moreFilters whole) (maxDepth + 1) (← disjunction whole)

/-- Reads a complete expression, with as many levels of brackets as `levels` allows. -/
def expressionWithin : (levels : Nat) → Scan σ Expr
  | 0 => fail .nestedTooDeeply
  | levels + 1 => keepingDepth do
    descend
    filtered (expressionWithin levels)

def expression : Scan σ Expr := expressionWithin (maxDepth + 1)

/-- Reads an expression that is the whole text; line breaks are blanks all through. -/
def wholeExpression : Scan σ Expr := bracketed do
  skipSpace
  let e ← expression
  expectEnd
  return e

def readExpression (text : List Char) : Except Error Expr := run wholeExpression text

end Stencil.Script
