/-!
Scopes of names. A declaration is refused when it would give a name a second meaning in the same scope.
-/
namespace Distill.Script

/-- How a name came into a scope. -/
inductive NameKind where
  | var
  | function
  | argument
  | lexical
  | caught
  /-- A function expression's own name, which anything may replace. -/
  | own
deriving DecidableEq, Repr

/-- Whether a name of this kind cannot be declared twice. -/
def NameKind.isExclusive : NameKind → Bool
  | lexical | caught | own => true
  | _ => false

structure Scope where
  isFunction : Bool
  names : List (String × NameKind) := []
  /-- Names from the head of a `for`, which its body may declare again. -/
  headNames : List (String × NameKind) := []
deriving DecidableEq, Repr

def Scope.find? (s : Scope) (name : String) : Option NameKind :=
  (s.names.find? (·.1 = name)).map (·.2)

/-- A name of the scope, also from the head of a `for`. -/
def Scope.findAny? (s : Scope) (name : String) : Option NameKind :=
  ((s.names ++ s.headNames).find? (·.1 = name)).map (·.2)

/-- The scope with one more name, unless that clashes. No two parameters have one name. -/
def Scope.insert? (s : Scope) (kind : NameKind) (name : String) : Option Scope :=
  match s.find? name with
  | none => some { s with names := (name, kind) :: s.names }
  | some old =>
    if (old.isExclusive || kind.isExclusive || (old = .argument && kind = .argument)) && old ≠ .own then none
    else some { s with names := (name, if old = .own then kind else old) :: s.names.filter (·.1 ≠ name) }

/-- Declares a name in the innermost scope or, for a variable or function, in the scope of the enclosing function. -/
def declare? (kind : NameKind) (name : String) : List Scope → Option (List Scope)
  | [] => some []
  | s :: outer =>
    if (kind = .var ∨ kind = .function) ∧ !s.isFunction ∧ outer ≠ [] then
      match s.findAny? name with
      | some old => if old = kind ∨ old = .caught then (declare? kind name outer).map (s :: ·) else none
      | none => (declare? kind name outer).map (s :: ·)
    else (s.insert? kind name).map (· :: outer)

end Distill.Script
