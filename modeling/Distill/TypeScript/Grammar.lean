import Distill.TypeScript.Parse

/-!
The productions that others nest. The grammar is one record of them, so a production reaches any other, and only the
record itself takes the number of levels that may be nested.
-/
namespace Distill.TypeScript

/-- What an expression is read for. -/
structure Aim where
  /-- It may turn out to be a pattern, so errors about that wait. -/
  maybePattern : Bool := false
  /-- It starts the head of a `for`. -/
  inHead : Bool := false
  /-- It starts the head of a `for await`. -/
  inAwaitHead : Bool := false
  isDecorator : Bool := false
deriving DecidableEq, Repr

/-- What may be declared where a statement stands. -/
inductive DeclarationUse where
  | forbidden
  | allowed
  /-- Only functions, as a branch of an `if`. -/
  | inBranch
  /-- Only functions, after a label. -/
  | afterLabel
deriving DecidableEq, Repr

/-- Where a statement stands. -/
structure StatementPlace where
  declarations : DeclarationUse := .forbidden
  /-- It is an item of the text itself. -/
  inModule : Bool := false
  inNamespace : Bool := false
  isExported : Bool := false
  /-- It is a default export, whose name may be missing. -/
  isDefault : Bool := false
  decorators : List Expr := []
  /-- Calls of the function that it declares have no effect. -/
  isPure : Bool := false

/-- What is special about the place of a type. -/
structure TypePlace where
  /-- It is what a function returns, so it may be a predicate. -/
  isResult : Bool := false
  /-- It stands in the brackets of an index signature. -/
  inBrackets : Bool := false
  /-- It is an element of a tuple, which may have a label. -/
  inTuple : Bool := false
  /-- It stands after `extends`, so it is no condition of its own. -/
  noCondition : Bool := false
deriving DecidableEq, Repr

structure Grammar where
  /-- The start of an expression, up to where operators and members follow. -/
  first : Level → Aim → Parse Expr
  /-- An expression that takes what binds more tightly than the level. -/
  expression : Level → Aim → Parse Expr
  /-- What follows the start of an expression. -/
  suffixes : Level → Aim → Expr → Parse Expr
  statement : StatementPlace → Parse Stmt
  /-- Types leave nothing behind. -/
  type : TypePlace → Level → Parse Unit

namespace Grammar

open Parse

/-- An expression that can only be one. -/
def value (g : Grammar) (level : Level) : Parse Expr := g.expression level {}

/-- An expression inside brackets of some kind, where `in` is an operator. -/
def inner (g : Grammar) (level : Level) : Parse Expr := allowingIn true (g.value level)

end Grammar

end Distill.TypeScript
