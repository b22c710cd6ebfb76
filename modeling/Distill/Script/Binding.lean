import Distill.Script.Grammar

/-!
The grammar of what declares names: names and patterns, parameters, and the declarations of `var`, `let` and `const`.
-/
namespace Distill.Script

namespace Grammar

open Parse

/-- The elements of an array pattern after the opening bracket. Missing ones at the end are dropped. -/
def patternElements (element binding : Parse Expr) : (fuel : Nat) → Parse (List Expr)
  | 0 => return []
  | fuel + 1 => do
    if ← eat "]" then return []
    if ← eat "," then
      let rest ← patternElements element binding fuel
      return if rest.isEmpty then [] else .hole :: rest
    if ← eat "..." then
      let e ← binding
      expect "array binding pattern" "]"
      return [.spread e]
    let e ← element
    if !(← sees "]") then
      if !(← eat ",") then fail "array binding pattern" [",", "]"]
    return e :: (← patternElements element binding fuel)

/-- The members of an object pattern after the opening brace. -/
def patternMembers (g : Grammar) (kind : NameKind) (element : Parse Expr) : (fuel : Nat) → Parse (List Member)
  | 0 => return []
  | fuel + 1 => do
    let context := "object binding pattern"
    if ← eat "\x7d" then return []
    if ← eat "..." then
      match ← name? with
      | some n =>
        declare kind n
        advance
        expect context "\x7d"
        return [.spread (.name n)]
      | none => fail context ["Identifier"]
    let m ← member context
    if !(← sees "\x7d") then
      if !(← eat ",") then fail context [",", "\x7d"]
    return m :: (← patternMembers g kind element fuel)
where
  member (context : String) : Parse Member := do
    match ← name? with
    | some n =>
      advance
      if ← eat ":" then return .entry (.name n) (← element)
      declare kind n
      if ← eat "=" then return .shorthand n (some (← g.expression Level.assign))
      return .shorthand n none
    | none =>
      let k ← g.key context
      expect context ":"
      return .entry k (← element)

/-- A name or pattern whose names are declared as they are read. -/
def pattern (g : Grammar) (kind : NameKind) : (fuel : Nat) → Parse Expr
  | 0 => fail "binding" []
  | fuel + 1 => do
    if let some n ← name? then
      declare kind n
      advance
      return .name n
    let element : Parse Expr := do
      let p ← pattern g kind fuel
      if ← eat "=" then return .binary "=" p (← g.expression Level.assign)
      return p
    if ← eat "[" then return .array (← patternElements element (pattern g kind fuel) ((← stream).remaining + 1))
    if ← eat "\x7b" then return .object (← g.patternMembers kind element ((← stream).remaining + 1))
    fail "binding" []

/-- A pattern with its names declared. -/
def binding (g : Grammar) (kind : NameKind) : Parse Expr := do
  g.pattern kind ((← stream).remaining + 1)

/-- Parameters in parentheses. -/
def params (g : Grammar) (context : String) : Parse (List Expr) := do
  expect context "("
  go context ((← stream).remaining + 1)
where
  go (context : String) : (fuel : Nat) → Parse (List Expr)
    | 0 => return []
    | fuel + 1 => do
      if ← eat ")" then return []
      if ← isOver then fail context []
      if ← eat "..." then
        let p ← g.binding .argument
        expect context ")"
        return [.spread p]
      let p ← g.binding .argument
      let p ← if ← eat "=" then pure (.binary "=" p (← g.expression Level.assign)) else pure p
      if !(← sees ")") then
        if !(← eat ",") then fail context []
      return p :: (← go context fuel)

/-- A name or pattern of a declaration with its value. Only in the head of a `for` the first one can do without. -/
def declarator (g : Grammar) (binder : Binder) (inHead isFirst : Bool) : Parse Expr := do
  let p ← g.binding (match binder with
    | .var => .var
    | _ => .lexical)
  if ← eat "=" then return .binary "=" p (← g.expression Level.assign)
  let isName := match p with
    | .name _ => true
    | _ => false
  if !isName && !(inHead && isFirst) then fail "var statement" ["="]
  if binder = .constant && !(inHead && ((← seesWord "in") || (← seesWord "of"))) then fail "const statement" ["="]
  return p

/-- The names of a declaration after its keyword. -/
def declarators (g : Grammar) (binder : Binder) (inHead : Bool) : Parse (List Expr) := do
  let e ← g.declarator binder inHead true
  let rest ← many do if ← eat "," then return some (← g.declarator binder inHead false) else return none
  return e :: rest

end Grammar

end Distill.Script
