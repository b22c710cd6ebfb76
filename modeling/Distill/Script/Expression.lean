import Distill.Script.Function

/-!
The grammar of JavaScript expressions. What stands in parentheses may be parameters of an arrow function or not, which
shows only behind them: it is read once, as expressions that look like patterns, with the names that could be parameters
declared in a scope of their own.
-/
namespace Distill.Script

namespace Grammar

open Parse

/-- The body of an arrow function from the arrow on. -/
def arrowBody (g : Grammar) (isAsync : Bool) (params : List Expr) : Parse Expr := do
  if !(← sees "=>") then fail "arrow function" ["=>"]
  if ← newlineBefore then fail "expression" []
  advance
  asBody isAsync false true do
    if ← sees "\x7b" then return .arrow (.mk isAsync false none params (← allowingIn true (g.body "arrow function")))
    return .arrowExpr isAsync params (← g.expression Level.assign)

/-- An arrow function whose only parameter is a plain name, from the arrow on. -/
def arrowOfName (g : Grammar) (isAsync : Bool) (n : String) : Parse Expr :=
  enclosed true do
    declare .argument n
    g.arrowBody isAsync [.name n]

/-- An arrow function after an expression, which has to be a plain name. -/
def arrowAfter (g : Grammar) (left : Expr) (leftLevel : Level) : Parse (Expr × Level) := do
  if leftLevel < Level.primary || (← newlineBefore) then fail "expression" []
  match left with
  | .name n => return (← g.arrowOfName false n, Level.assign)
  | _ => fail "expression" []

/-- The level of a member of an expression. -/
def memberLevel (leftLevel : Level) : Level := if leftLevel < Level.member then Level.call else Level.member

/-- The current token as the name of a member, which is taken. -/
def memberName (context : String) (expected : List String) : Parse String := do
  let kind := (← stream).token.kind
  if kind ≠ .word && kind ≠ .privateName then fail context expected
  take

/-- What follows `?.`. -/
def chainAfter (g : Grammar) (left : Expr) : Parse Expr := do
  let context := "optional chaining expression"
  if ← eat "(" then return .call left true (← g.arguments)
  if ← eat "[" then
    let k ← g.expression Level.list
    expect context "]"
    return .index left true k
  let kind := (← stream).token.kind
  if kind = .template || kind = .templateHead then return ← g.template (some left) true
  return .dot left true (← memberName context ["Identifier", "(", "[", "Template"])

/-- A member or call after an expression, if one follows that binds tightly enough. -/
def memberAfter (g : Grammar) (level : Level) (left : Expr) (leftLevel : Level) : Parse (Option (Expr × Level)) := do
  let t := (← stream).token
  let tight : Parse Unit := do
    if leftLevel < Level.call then fail "expression" []
  if t.kind = .template || t.kind = .templateHead then
    tight
    return some (← allowingIn true (g.template (some left) false), memberLevel leftLevel)
  if t.kind ≠ .punctuator then return none
  match t.text with
  | "." =>
    tight
    advance
    return some (.dot left false (← memberName "dot expression" ["Identifier"]), memberLevel leftLevel)
  | "[" =>
    tight
    advance
    let k ← g.inner Level.list
    expect "index expression" "]"
    return some (.index left false k, memberLevel leftLevel)
  | "(" =>
    if Level.call < level then return none
    tight
    advance
    return some (.call left false (← allowingIn true g.arguments), Level.call)
  | "?." =>
    if Level.call < level then return none
    tight
    advance
    return some (← g.chainAfter left, Level.call)
  | _ => return none

/-- A comma with the expression after it, joined to those before. -/
def listAfter (g : Grammar) (left : Expr) : Parse Expr := do
  advance
  let right ← g.expression Level.assign
  return match left with
    | .sequence items => .sequence (items ++ [right])
    | _ => .sequence [left, right]

/-- An operator with its right side after an expression, if one follows that binds tightly enough. -/
def operatorAfter (g : Grammar) (level : Level) (left : Expr) (leftLevel : Level) : Parse (Option (Expr × Level)) := do
  let s ← stream
  let t := s.token
  if t.kind ≠ .punctuator && t.kind ≠ .word then return none
  match t.text with
  | "++" | "--" =>
    if s.newline || Level.update < level then return none
    if leftLevel < Level.leftSide then fail "expression" []
    advance
    return some (.suffix t.text left, Level.update)
  | "?" =>
    if Level.assign < level then return none
    if leftLevel < Level.coalesce then fail "expression" []
    advance
    let yes ← g.inner Level.assign
    expect "conditional expression" ":"
    return some (.conditional left yes (← g.expression Level.assign), Level.assign)
  | "??" =>
    if Level.coalesce < level then return none
    if leftLevel < Level.bitOr && leftLevel ≠ Level.coalesce then fail "expression" []
    advance
    return some (.binary "??" left (← g.expression Level.bitOr), Level.coalesce)
  | "," => if Level.list < level then return none else return some (← g.listAfter left, Level.list)
  | "=>" => if Level.assign < level then return none else return some (← g.arrowAfter left leftLevel)
  | text =>
    if text = "in" && !(← get).allowIn then return none
    match operator? text with
    | none => return none
    | some op =>
      if op.level < level then return none
      if leftLevel < op.left then fail "expression" []
      advance
      return some (.binary text left (← g.expression op.right), op.level)

/-- Whether an expression is a list with a comma, to which more can be added at no further depth. -/
def isList : Expr → Bool
  | .sequence _ => true
  | _ => false

/-- All that follows the start of an expression. Every step but a further comma counts as a level of nesting. -/
def suffixesFrom (g : Grammar) (level : Level) : (fuel steps : Nat) → Expr → Level → Parse Expr
  | 0, _, left, _ => return left
  | fuel + 1, steps, left, leftLevel => do
    if depthLimit < (← get).expressionDepth + steps then refuse "too many nested expressions"
    match ← g.memberAfter level left leftLevel with
    | some (e, l) => g.suffixesFrom level fuel (steps + 1) e l
    | none =>
      match ← g.operatorAfter level left leftLevel with
      | some (e, l) => g.suffixesFrom level fuel (if isList left && isList e then steps else steps + 1) e l
      | none => return left

def suffixes (g : Grammar) (level : Level) (left : Expr) (leftLevel : Level) : Parse Expr := do
  g.suffixesFrom level ((← stream).remaining + 1) 0 left leftLevel

/-- An assignment expression that may be a parameter: a name that ends or has a default here is declared as one, and all
else but a pattern rules parameters out. -/
def parameterOr (g : Grammar) : Parse Expr := do
  if (← get).mayBeParams then
    if let some n ← name? then
      advance
      if ← seesOneOf ["=", ",", ")", "\x7d", "]"] then
        if ← declareParam? n then
          notParams
          let e ← g.suffixes Level.assign (.name n) Level.primary
          modify fun s => { s with mayBeParams := true }
          return e
      notParams
      if n = "async" then return ← g.afterAsync Level.assign
      return ← g.suffixes Level.assign (.name n) Level.primary
  if !(← seesOneOf ["[", "\x7b"]) then notParams
  g.expression Level.assign

/-- The elements of an array after the opening bracket. Commas between them may be missing. -/
def elements (g : Grammar) : Parse (List Expr) := do
  allowingIn true (go ((← stream).remaining + 1) true)
where
  go : (fuel : Nat) → (afterComma : Bool) → Parse (List Expr)
    | 0, _ => return []
    | fuel + 1, afterComma => do
      if ← isOver then fail "expression" []
      if ← eat "]" then return []
      if ← eat "," then
        let rest ← go fuel true
        return if afterComma then .hole :: rest else rest
      if ← eat "..." then
        let e ← g.parameterOr
        if !(← sees "]") then notParams
        return .spread e :: (← go fuel false)
      let e ← g.parameterOr
      return e :: (← go fuel false)

/-- The words before the key of a member of an object, and the last word that could be the key itself or, if the flag is
set, is it. -/
def entryWords : Parse (Modifiers × Option String × Bool) := do
  if ← eat "*" then return ({ isGenerator := true }, none, false)
  if ← eatWord "async" then
    if ← newlineBefore then return ({}, some "async", true)
    if ← eat "*" then return ({ isAsync := true, isGenerator := true }, none, false)
    return ({ isAsync := true }, some "async", false)
  if ← eatWord "get" then return ({ isGetter := true }, some "get", false)
  if ← eatWord "set" then return ({ isSetter := true }, some "set", false)
  return ({}, none, false)

/-- The key of a member of an object with the words before it. -/
def entryKey (g : Grammar) : Parse (Modifiers × Expr) := do
  let (m, word?, isKey) ← entryWords
  if let some word := word? then
    if isKey then return (m, .name word)
    if ← seesOneOf ["=", ",", "\x7d", ":", "("] then return ({}, .name word)
  return (m, ← g.key "object literal")

/-- A member of an object. -/
def objectMember (g : Grammar) : Parse Member := do
  if ← eat "..." then
    let e ← g.parameterOr
    match e with
    | .name _ => if !(← sees "\x7d") then notParams
    | _ => notParams
    return .spread e
  let (m, k) ← g.entryKey
  if ← sees "(" then
    let f ← g.methodRest "method definition" m
    notParams
    return .method m k f
  if ← eat ":" then return .entry k (← g.parameterOr)
  match k with
  | .name n =>
    if (← get).mayBeParams then
      if !(← declareParam? n) then notParams
    if ← eat "=" then return .shorthand n (some (← assuming false (g.expression Level.assign)))
    return .shorthand n none
  | _ => fail "object literal" [":", "("]

/-- The members of an object literal after the opening brace. -/
def objectMembers (g : Grammar) : Parse (List Member) :=
  allowingIn true do
    many do
      if ← eat "\x7d" then return none
      if ← isOver then fail "object literal" ["\x7d"]
      let m ← g.objectMember
      if !(← sees "\x7d") then
        if !(← eat ",") then fail "object literal" []
      return some m

/-- What stands in parentheses, after the opening one: expressions that may be parameters, the last one perhaps with
`...` before it. -/
def parenthesizedItems (g : Grammar) (isAsync : Bool) : (fuel : Nat) → Parse (List Expr)
  | 0 => return []
  | fuel + 1 => do
    if (← sees ")") || (← isOver) then return []
    let isSpread ← eat "..."
    let e ← g.parameterOr
    let e := if isSpread then .spread e else e
    if !(← eat ",") then return [e]
    if isSpread && !((← sees ")") || (← isOver)) then
      notParams
      if !isAsync then fail "arrow function" [")"]
    return e :: (← g.parenthesizedItems isAsync fuel)

mutual

/-- Whether an expression looks like a pattern. -/
def isPattern : Expr → Bool
  | .name _ | .hole => true
  | .array items => areParams items
  | .object members => areEntries members
  | _ => false

/-- Whether an expression looks like a parameter: a pattern, perhaps with a default. -/
def isParam : Expr → Bool
  | .binary op left _ => op = "=" && isPattern left
  | .spread e => isPattern e
  | e => isPattern e

/-- Whether all of some expressions look like parameters. -/
def areParams : List Expr → Bool
  | [] => true
  | e :: rest => isParam e && areParams rest

/-- Whether the values of all members look like parameters. -/
def areEntries : List Member → Bool
  | [] => true
  | .entry _ e :: rest => isParam e && areEntries rest
  | _ :: rest => areEntries rest

end

/-- An arrow function with parameters in parentheses, an expression in parentheses or, after the word `async`, a call of
what has that name. -/
def parenthesized (g : Grammar) (level : Level) (isAsync : Bool) : Parse Expr := do
  let before ← get
  advance
  modify fun s => { s with scopes := { isFunction := true } :: s.scopes, mayBeParams := true, allowIn := true }
  let items ← g.parenthesizedItems isAsync ((← stream).remaining + 1)
  if !(← eat ")") then fail "expression" []
  let mayBeParams := (← get).mayBeParams
  modify fun s => { s with mayBeParams := before.mayBeParams, allowIn := before.allowIn }
  if (← sees "=>") && !(← newlineBefore) && mayBeParams then
    if !areParams items then refuse "invalid parameters in arrow function"
    let f ← g.arrowBody isAsync items
    modify fun s => { s with scopes := before.scopes }
    return ← g.suffixes level f Level.assign
  modify fun s => { s with scopes := before.scopes }
  if isAsync then return ← g.suffixes level (.call (.name "async") false items) Level.call
  match items, items.getLast? with
  | [], _ => fail "arrow function" ["=>"]
  | _, some (.spread _) => if mayBeParams then fail "arrow function" ["=>"] else fail "expression" []
  | [e], _ => g.suffixes level (.group e) Level.primary
  | _, _ => g.suffixes level (.group (.sequence items)) Level.primary

/-- The rest of an expression after the word `async`. -/
def asyncRest (g : Grammar) (level : Level) : Parse Expr := do
  let s ← stream
  let isWord := s.token.kind = .word
  if s.newline || !(isWord || s.isPunctuator "(") then return ← g.suffixes level (.name "async") Level.primary
  if ← eatWord "function" then return ← g.suffixes level (.function (← g.functionRest true true)) Level.primary
  if level ≤ Level.assign then
    if s.isPunctuator "(" then return ← g.parenthesized level true
    if s.isWord "await" || (s.isWord "yield" && (← get).inGenerator) then fail "arrow function" []
    if let some n ← name? then
      let f ← enclosed true do
        declare .argument n
        advance
        g.arrowBody true [.name n]
      return ← g.suffixes level f Level.assign
  g.suffixes level (.name "async") Level.primary

/-- The operand of a unary operator. -/
def unary (g : Grammar) (level : Level) (op : String) : Parse (Expr × Level) := do
  if Level.unary < level then fail "expression" []
  advance
  return (.unary op (← g.expression Level.unary), Level.unary)

/-- What follows the word `super` has to be a member or, if it binds tightly enough, a call. -/
def superRest (level : Level) : Parse (Expr × Level) := do
  let isMember := (← sees ".") || (← sees "[")
  if Level.call < level then
    if !isMember then fail "super expression" ["[", "."]
    return (.word "super", Level.member)
  if !isMember && !(← sees "(") then fail "super expression" ["[", "(", "."]
  return (.word "super", Level.call)

/-- What follows the word `import` in an expression. -/
def importRest (level : Level) : Parse (Expr × Level) := do
  if ← eat "." then
    expectWord "import.meta expression" "meta"
    return (.word "import.meta", Level.member)
  if !(← sees "(") then fail "import expression" ["("]
  if Level.call < level then fail "expression" []
  return (.word "import", Level.call)

/-- What follows the word `new`. -/
def newRest (g : Grammar) : Parse (Expr × Level) := do
  if ← eat "." then
    expectWord "new.target expression" "target"
    return (.word "new.target", Level.member)
  let callee ← g.expression Level.construct
  if ← eat "(" then return (.construct callee (← g.arguments), Level.member)
  return (.construct callee [], Level.construct)

/-- What follows the word `yield`. -/
def yieldRest (g : Grammar) : Parse Expr := do
  if ← newlineBefore then return .yielding false none
  if ← eat "*" then return .yielding true (some (← g.expression Level.assign))
  if ← seesOneOf ["\x7d", "]", ")", ":", ",", ";"] then return .yielding false none
  return .yielding false (some (← g.expression Level.assign))

/-- An expression that starts with a reserved word. -/
def wordFirst (g : Grammar) (level : Level) (word : String) : Parse (Expr × Level) := do
  if word ∈ ["this", "null", "true", "false"] then
    advance
    return (.word word, Level.primary)
  if word ∈ ["typeof", "void", "delete", "await"] then return ← g.unary level word
  match word with
  | "function" =>
    advance
    return (.function (← g.functionRest false true), Level.primary)
  | "class" =>
    advance
    return (.classExpr (← allowingIn true (g.classRest true)), Level.primary)
  | "super" =>
    advance
    superRest level
  | "import" =>
    advance
    importRest level
  | "new" =>
    advance
    g.newRest
  | "yield" =>
    if Level.assign < level then fail "expression" []
    advance
    return (← g.yieldRest, Level.assign)
  | _ => fail "expression" []

/-- An expression that starts with a punctuator other than an opening parenthesis. -/
def markFirst (g : Grammar) (level : Level) (mark : String) : Parse (Expr × Level) := do
  match mark with
  | "[" =>
    advance
    return (.array (← g.elements), Level.primary)
  | "\x7b" =>
    advance
    return (.object (← g.objectMembers), Level.primary)
  | "!" | "~" | "+" | "-" => g.unary level mark
  | "++" | "--" =>
    if Level.update < level then fail "expression" []
    advance
    return (.unary mark (← g.expression Level.unary), Level.unary)
  | "/" | "/=" =>
    modify fun s => { s with stream := s.stream.asRegex }
    if (← stream).token.kind ≠ .regex then fail "regular expression" []
    return (.regex (← take), Level.primary)
  | _ => fail "expression" []

/-- The start of an expression up to where operators and members follow, with its level. -/
def first (g : Grammar) (level : Level) : Parse (Expr × Level) := do
  let t := (← stream).token
  match t.kind with
  | .word =>
    match ← name? with
    | some n =>
      advance
      return (.name n, Level.primary)
    | none => g.wordFirst level t.text
  | .number => return (.number (← take), Level.primary)
  | .string => return (.string (← take), Level.primary)
  | .template | .templateHead => return (← allowingIn true (g.template none false), Level.primary)
  | .privateName =>
    if Level.compare < level || !(← get).allowIn then fail "expression" []
    let n ← take
    if !(← seesWord "in") then fail "relational expression" ["in"]
    return (.name n, Level.compare)
  | .punctuator =>
    if t.text = "(" then
      advance
      let e ← g.inner Level.list
      expect "expression" ")"
      return (.group e, Level.primary)
    g.markFirst level t.text
  | _ => fail "expression" []

/-- An expression that binds at least as tightly as `level`. -/
def expressionOf (g : Grammar) (level : Level) : Parse Expr :=
  deeperExpression do
    if ← eatWord "async" then return ← allowingIn true (g.asyncRest level)
    if (← sees "(") && level ≤ Level.assign then return ← g.parenthesized level false
    let (e, l) ← g.first level
    g.suffixes level e l

end Grammar

end Distill.Script
