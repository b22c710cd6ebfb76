import Distill.Script.Binding

/-!
The grammar of functions, methods and classes.
-/
namespace Distill.Script

namespace Grammar

open Parse

/-- The current token as the name of a class or a function expression, which `yield` and `await` can be. -/
def ownName? : Parse (Option String) := do
  let t := (← stream).token
  let isName := t.kind = .word ∧ (t.text ∉ reservedWords ∨ t.text = "yield" ∨ t.text = "await")
  return if isName then some t.text else none

/-- A function after the word `function`. A declaration declares its name outside. -/
def functionRest (g : Grammar) (isAsync isExpression : Bool) : Parse Function := do
  let isGenerator ← eat "*"
  let context := "function declaration"
  let own ← if isExpression then ownName? else name?
  match own with
  | some n =>
    if !isExpression then declare .function n
    advance
  | none =>
    if !isExpression && !(← get).allowNameless then fail context ["Identifier"]
    if !(← sees "(") then fail context ["Identifier", "("]
  inFunction isAsync isGenerator do
    if isExpression then
      if let some n := own then declare .own n
    let ps ← g.params context
    return .mk isAsync isGenerator own ps (← g.body context)

/-- Parameters and body of a method. -/
def methodRest (g : Grammar) (context : String) (m : Modifiers) : Parse Function := do
  inFunction m.isAsync m.isGenerator do
    let ps ← g.params "method definition"
    return .mk m.isAsync m.isGenerator none ps (← g.body context)

/-- Whether one of some punctuators follows. -/
def seesOneOf (marks : List String) : Parse Bool := do
  let t := (← stream).token
  return t.kind = .punctuator && t.text ∈ marks

/-- The words before the key of a class member after `static`, and the last word that could be the key itself. -/
def memberWords (isStatic : Bool) : Parse (Modifiers × Option String) := do
  let static : Option String := if isStatic then some "static" else none
  if ← eat "*" then return ({ isStatic, isGenerator := true }, static)
  if ← eatWord "async" then
    if ← newlineBefore then return ({ isStatic }, some "async")
    if ← eat "*" then return ({ isStatic, isAsync := true, isGenerator := true }, none)
    return ({ isStatic, isAsync := true }, some "async")
  if ← eatWord "get" then return ({ isStatic, isGetter := true }, some "get")
  if ← eatWord "set" then return ({ isStatic, isSetter := true }, some "set")
  return ({ isStatic }, static)

/-- The key of a class member that is not one of the words before it. -/
def memberKey (g : Grammar) : Parse Expr := do
  if (← stream).token.kind = .privateName then return .name (← take)
  g.key "method or field definition"

/-- A field of a class after its key. -/
def fieldRest (g : Grammar) (isStatic : Bool) (key : Expr) : Parse Member := do
  if ← eat "=" then return .field isStatic key (some (← g.expression Level.assign))
  return .field isStatic key none

/-- A member of a class. A word that modifies members is a key itself if nothing follows that it could modify. -/
def classMember (g : Grammar) : Parse Member := do
  let isStatic ← eatWord "static"
  if isStatic then
    if ← sees "\x7b" then
      return .staticBlock (← asBody true false false (enclosed false (g.body "class static block")))
  let (m, word?) ← memberWords isStatic
  let isModified := m.isAsync || m.isGetter || m.isSetter
  let context := "method function"
  if let some word := word? then
    if ← sees "(" then
      let m := { m with isStatic := m.isStatic && isModified, isAsync := false, isGetter := false, isSetter := false }
      return .method m (.name word) (← g.methodRest context m)
    if ← seesOneOf ["=", ";", "\x7d"] then return ← g.fieldRest (m.isStatic && isModified) (.name word)
  let k ← g.memberKey
  if (word?.isNone || m.isStatic) && !(← sees "(") then return ← g.fieldRest m.isStatic k
  return .method m k (← g.methodRest context m)

/-- A class after the word `class`. -/
def classRest (g : Grammar) (isExpression : Bool) : Parse Class := do
  let context := "class declaration"
  let own ← ownName?
  match own with
  | some n =>
    if !isExpression then declare .lexical n
    advance
  | none => if !isExpression && !(← get).allowNameless then fail context ["Identifier"]
  let base ← if ← eatWord "extends" then pure (some (← g.expression Level.leftSide)) else pure none
  expect context "\x7b"
  let members ← many do
    if ← eat "\x7d" then return none
    if ← isOver then fail context []
    if ← eat ";" then return some none
    return some (some (← g.classMember))
  return .mk [] own base (members.filterMap id)

end Grammar

end Distill.Script
