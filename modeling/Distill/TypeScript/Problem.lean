import Distill.Script.Stream

/-!
What is wrong with a source text. Of several problems the one that comes first in the text counts.
-/
namespace Distill.TypeScript

open Script (Position SyntaxError)

/-- Where and why a text is no source module; columns count bytes. -/
structure Problem where
  position : Position
  message : String
deriving DecidableEq, Repr

/-- The position of an error, with columns in bytes. -/
def bytePosition (text : List Char) (remaining : Nat) : Position :=
  let before := text.take (text.length - remaining)
  let line := (Script.positionOf text remaining).line
  let last := (before.reverse.takeWhile fun c => !Text.isLineEnd c).reverse
  ⟨line, last.foldl (fun bytes c => bytes + c.utf8Size) 1⟩

/-- Whether one problem comes before another: by place, then by text. -/
def Problem.precedes (a b : Problem) : Bool :=
  if a.position.line ≠ b.position.line then a.position.line < b.position.line
  else if a.position.column ≠ b.position.column then a.position.column < b.position.column
  else a.message ≤ b.message

/-- The first of some problems. -/
def Problem.first? : List Problem → Option Problem
  | [] => none
  | p :: rest =>
    match first? rest with
    | none => some p
    | some q => some (if p.precedes q then p else q)

/-- The first of the errors in a text. -/
def firstProblem? (text : List Char) (errors : List SyntaxError) : Option Problem :=
  Problem.first? (errors.map fun e => ⟨bytePosition text e.remaining, e.message⟩)

end Distill.TypeScript
