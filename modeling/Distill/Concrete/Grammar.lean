import Distill.Concrete.Lists
import Distill.Concrete.Wrapping

/-!
The readers of the kinds of parts that contain each other, so that each can be written on its own.
-/
namespace Distill.Concrete

/-- What a type is, as far as it tells whether a colon before it comes after parameters. -/
inductive TypeForm where
  | complete
  /-- Its end is missing. -/
  | broken
  /-- It is spelled like a function that is an expression. -/
  | functionWord
deriving DecidableEq, Repr

/-- A type that was read and left out. -/
structure TypeShape where
  extent : Extent
  form : TypeForm := .complete
deriving DecidableEq, Repr

/-- The readers of the kinds of parts that contain each other. -/
structure Grammar where
  type : Read TypeShape
  /-- An expression, possibly a sequence. -/
  expression : Read Tree
  /-- An expression that is an entry of a list. It can be a concise function that says what it gives back if `mayReturn`
  holds. -/
  assignment : (mayReturn : Bool) → Read Tree
  /-- An expression with operators for one operand. -/
  unary : Read Tree
  /-- An expression that can be called. -/
  operand : Read Tree
  /-- A name or pattern that is bound. -/
  binding : Read Tree
  /-- A parameter; nothing if there cannot be one and `isSure` does not hold. -/
  parameter : (isSure : Bool) → (outerAwait : Bool) → Read (Option Tree)
  /-- The name of a member of an object or class. -/
  memberName : Read Tree
  /-- A body of a function in braces, which may follow from what is read before. -/
  functionBody : (isGenerator isAsync : Bool) → Read Tree
  statement : Read Tree
  /-- A function that is an expression. -/
  functionExpression : Read Tree
  /-- A class that is an expression. -/
  classExpression : Read Tree
  /-- The member of an object. -/
  objectMember : Read Tree

/-- Reads nothing: every part is missing. -/
def Grammar.empty : Grammar where
  type := do
    let at_ ← position
    return ⟨⟨at_, at_, false⟩, .broken⟩
  expression := missingName
  assignment _ := missingName
  unary := missingName
  operand := missingName
  binding := missingName
  parameter _ _ := return none
  memberName := missingName
  functionBody _ _ := missingName
  statement := missingName
  functionExpression := missingName
  classExpression := missingName
  objectMember := missingName

/-- A type where one has to stand. It is left out. -/
def Grammar.erasedType (g : Grammar) : Read TypeShape := do
  erase
  g.type

/-- The type after a colon, if there is one. -/
def Grammar.annotation (g : Grammar) : Read (Option TypeShape) := do
  if ← optional ":" then return some (← g.erasedType) else return none

/-- The value after the mark of equality, if there is one. -/
def Grammar.initializer (g : Grammar) : Read (Option Tree) := do
  if ← optional "=" then return some (← g.assignment true) else return none

end Distill.Concrete
