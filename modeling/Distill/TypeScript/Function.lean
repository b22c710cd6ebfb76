import Distill.TypeScript.Binding
import Distill.TypeScript.Type

/-!
Functions: their parameters, their bodies and what the words `await`, `yield` and `super` mean inside of them.
-/
namespace Distill.TypeScript.Grammar

open Parse

/-- The comments before the current token that are kept as statements. -/
def noticesHere : Parse (List Stmt) := do
  ((← token).comments.filter fun c => isKeptComment c.text).mapM fun c => do
    return .mk c.place (.notice (← commentText c))

/-- The content of a string literal. -/
def contentOf (literal : String) : List Nat :=
  let cs := literal.toList
  decodeLiteral ((cs.drop 1).take (cs.length - 2))

/-- A statement at the beginning of a body as a directive, if it is one. The flag tells whether more can follow. -/
def asDirective (s : Stmt) : Parse (Stmt × Bool) := do
  match s.node with
  | .expression e =>
    match e.core.node with
    | .string text =>
      let content := contentOf text
      if content = "use strict".toList.map Char.toNat then makeStrict
      if content = "use asm".toList.map Char.toNat then return (.mk s.place .empty, true)
      return (.mk s.place (.directive text), true)
    | _ => return (s, false)
  | _ => return (s, false)

/-- Statements up to an end, which is not taken, with the comments that are kept among them. -/
def statementsTo (g : Grammar) (p : StatementPlace) (isEnd : Parse Bool) :
    (fuel : Nat) → (startsBody : Bool) → Parse (List Stmt)
  | 0, _ => return []
  | fuel + 1, startsBody => do
    let notices ← noticesHere
    if ← isEnd then return notices
    let s ← g.statement p
    match s.node with
    | .typeOnly => return notices ++ s :: (← statementsTo g p isEnd fuel startsBody)
    | _ =>
      let (s, isDirective) ← if startsBody then asDirective s else pure (s, false)
      return notices ++ s :: (← statementsTo g p isEnd fuel isDirective)

/-- Statements up to a closing brace, which is taken. -/
def statements (g : Grammar) (startsBody : Bool) : Parse (List Stmt) := do
  let body ← g.statementsTo { declarations := .allowed } (sees "\x7d") ((← place) + 1) startsBody
  expect "\x7d"
  return body

/-- The body of a function with its scope. -/
def functionBody (g : Grammar) (setting : Setting) : Parse (ScopeId × List Stmt) :=
  allowingIn true <| inSetting (fun _ => setting) <| inScope .functionBody fun id => do
    expect "\x7b"
    return (id, ← g.statements true)

/-- Words before a parameter of a constructor that make it a field. -/
def fieldWords : List String := ["public", "private", "protected", "readonly", "override"]

/-- The name after words that make a parameter a field. -/
def fieldAfter (g : Grammar) (binding : Expr) : (fuel : Nat) → Parse (Expr × Bool)
  | 0 => return (binding, false)
  | fuel + 1 => do
    match binding.node with
    | .name text =>
      if fieldWords.contains text && ((← seesName) || (← seesAny ["\x7b", "["])) then
        if !(← seesName) then refuse "identifier"
        let (e, _) ← fieldAfter g (← g.binding) fuel
        return (e, true)
      return (binding, false)
    | _ => return (binding, false)

/-- Decorators in front of a parameter, which are refused. -/
def parameterDecorators (g : Grammar) : Parse Unit := do
  let _ ← many do
    let at_ ← place
    if !(← eat "@") then return none
    note at_ "Parameter decorators only work when experimental decorators are enabled"
    let _ ← g.expression Level.construct { isDecorator := true }
    return some ()

/-- Parameters up to the closing parenthesis, each with the field that it is. -/
def parameters (g : Grammar) (isMethod isConstructor : Bool) : (fuel : Nat) → Parse (List (Expr × Option String))
  | 0 => return []
  | fuel + 1 => do
    if ← sees ")" then return []
    if ← eatKeyword "this" then
      g.annotation
      if ← eat "," then return ← parameters g isMethod isConstructor fuel
      return []
    if isMethod then g.parameterDecorators
    let start ← place
    let isRest ← eat "..."
    let isName ← seesName
    let first ← g.binding
    let (target, isField) ← if isName && isConstructor then g.fieldAfter first fuel else pure (first, false)
    let _ ← eat "?"
    g.annotation
    declareAll .hoisted target
    let param ← if isRest then pure (.plain start (.spread target)) else g.withDefault target
    let field := match target.node with
      | .name text => if isField then some text else none
      | _ => none
    if !(← sees ",") then return [(param, field)]
    if isRest then
      if (← get).inDeclare then advance else refuseMark ")"
      return [(param, field)]
    advance
    return (param, field) :: (← parameters g isMethod isConstructor fuel)

/-- Gives a function the name of its arguments, unless a parameter has that name. -/
def declareArguments (place : Place) : Parse Unit := do
  let s ← get
  if !s.inDeclare && ((s.table.scope? s.scope).bind (·.find? "arguments")).isNone then
    let id ← declare .arguments "arguments" place
    modify fun s => { s with table := s.table.modifySymbol id fun a => { a with isFixed := true } }

/-- What a function is besides its head. -/
structure FunctionParts where
  params : List Expr
  fields : List String
  inner : ScopeId
  body : List Stmt

/-- Parameters, result and body of a function whose scope is open; nothing if there is no body and none is needed. The
setting is that of the body. -/
def functionParts (g : Grammar) (setting : Setting) (isMethod : Bool) : Parse (Option FunctionParts) := do
  let opening ← place
  expect "("
  let inParams (u : WordUse) : WordUse := if u = .operator then .forbidden else .name
  let params ← inSetting (fun s => { s with
      await := inParams setting.await, yield := inParams setting.yield, allowsSuperCall := setting.allowsSuperCall
      allowsSuperMember := setting.allowsSuperMember }) do
    let params ← g.parameters isMethod setting.isConstructor ((← place) + 1)
    declareArguments opening
    expect ")"
    return params
  g.resultAnnotation
  if setting.mayLackBody && !(← sees "\x7b") then
    endStatement
    return none
  let (inner, body) ← g.functionBody setting
  return some ⟨params.map (·.1), params.filterMap (·.2), inner, body⟩

/-- What a function allows by its kind. -/
def settingOf (isAsync isGenerator : Bool) : Setting :=
  { await := if isAsync then .operator else .name, yield := if isGenerator then .operator else .name }

/-- A function expression after the word `function`. -/
def functionExpression (g : Grammar) (start : Place) (comments : List String) (isAsync : Bool) : Parse Expr := do
  let isGenerator ← eat "*"
  inScope .params fun outer => do
    let name ← if ← seesName then
        let t ← token
        let symbol ← if t.text = "arguments" then newSymbol .function t.text else declare .function t.text t.place
        advance
        pure (some { name := t.text, place := t.place, symbol : Declared })
      else pure none
    g.skipTypeParameters {}
    match ← g.functionParts (settingOf isAsync isGenerator) false with
    | none => unexpected
    | some parts =>
      if let some n := name then
        if isAsync && n.name = "await" then note n.place "An async function cannot be named \"await\""
        else if isGenerator && n.name = "yield" then
          note n.place "A generator function expression cannot be named \"yield\""
      let head : FunctionHead := { place := start, name, isAsync, isGenerator, outer, inner := parts.inner }
      return .mk start comments (.function (.mk head parts.params parts.body))

/-- The body of an arrow function from the arrow on. The scope of its parameters is open. -/
def arrowBody (g : Grammar) (start : Place) (comments : List String) (isAsync : Bool) (params : List Expr) :
    Parse Expr := do
  let arrow ← token
  let outer := (← get).scope
  if arrow.newline then failAt arrow.place "Unexpected newline before \"=>\""
  expect "=>"
  params.forM (declareAll .hoisted)
  let around := (← get).setting
  let setting : Setting := { settingOf isAsync false with
    allowsSuperCall := around.allowsSuperCall, allowsSuperMember := around.allowsSuperMember }
  let isConcise := !(← sees "\x7b")
  let (inner, body) ← if isConcise then
      inScope .functionBody fun id => inSetting (fun _ => setting) do
        let e ← g.value Level.comma
        return (id, [.mk e.place (.giveBack (some e))])
    else do
      let result ← g.functionBody setting
      let stop ← place
      modify fun s => { s with afterArrow := some stop }
      pure result
  let head : FunctionHead := { place := start, isAsync, outer, inner }
  return .mk start comments (.arrow isConcise (.mk head params body))

/-- An arrow function whose only parameter is a name that was read before. -/
def arrowOfName (g : Grammar) (start : Place) (comments : List String) (isAsync : Bool) (name : String)
    (namePlace : Place) : Parse Expr :=
  inScope .params fun _ => g.arrowBody start comments isAsync [.plain namePlace (.name name)]

/-- Marks a symbol whose calls have no effect. -/
def markPure (id : SymbolId) : Parse Unit :=
  modify fun s => { s with table := s.table.modifySymbol id fun symbol => { symbol with isPure := true } }

/-- A function statement after the word `function`. -/
def functionStatement (g : Grammar) (start : Place) (p : StatementPlace) (isAsync : Bool) : Parse Stmt := do
  let isGenerator ← eat "*"
  let inDeclare := (← get).inDeclare
  let isRefused := match p.declarations with
    | .forbidden => true
    | .allowed => false
    | .inBranch | .afterLabel => inDeclare || isGenerator || isAsync
  if isRefused then note start "Cannot use a declaration in a single-statement context"
  let name ← if !p.isDefault || (← seesName) then
      let t ← token
      if !isAsync && (← get).setting.await ≠ .name && t.text = "await" && t.kind = .name then
        note t.place "Cannot use \"await\" as an identifier here:"
      let text ← expectName
      pure (some (text, t.place))
    else pure none
  g.skipTypeParameters {}
  let count ← scopeCount
  let around := (← get).scope
  let branch ← if p.declarations = .inBranch then pure (some (← openScope .block)) else pure none
  let outer ← openScope .params
  match ← g.functionParts { settingOf isAsync isGenerator with mayLackBody := true } false with
  | none =>
    dropScopesFrom count
    modify fun s => { s with scope := around }
    return .mk start .typeOnly
  | some parts =>
    closeScope
    let name ← name.mapM fun (text, place) => do
      let symbol ← declare (if isAsync || isGenerator then .specialFunction else .function) text place
      if isAsync && text = "await" then note place "An async function cannot be named \"await\""
      if p.isPure && !inDeclare then markPure symbol
      return ({ name := text, place, symbol } : Declared)
    if branch.isSome then closeScope
    if inDeclare then return .mk start .typeOnly
    let head : FunctionHead :=
      { place := start, name, isAsync, isGenerator, outer, inner := parts.inner, branch, isPure := p.isPure }
    return .mk start (.function p.isExported (.mk head parts.params parts.body))

end Distill.TypeScript.Grammar
