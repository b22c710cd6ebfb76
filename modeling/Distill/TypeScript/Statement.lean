import Distill.TypeScript.Expression
import Distill.TypeScript.Item

/-!
The grammar of statements. Some of them start with a word that is also a name, so the name is read as an expression
first and what follows decides.
-/
namespace Distill.TypeScript.Grammar

open Parse

/-- The kind of the symbols that a declaration binds. -/
def symbolKind : Binder → SymbolKind
  | .var => .hoisted
  | .lexical => .lexical
  | .constant | .using | .awaitUsing => .constant

/-- The names and patterns of a declaration after its keyword, each perhaps with a value. -/
def declarators (g : Grammar) (binder : Binder) : Parse (List Expr) := do
  let one : Parse Expr := do
    if (binder = .lexical || binder = .constant) && (← seesWord "let") then
      note (← place) "Cannot use \"let\" as an identifier here:"
    if (binder = .using || binder = .awaitUsing) && !(← seesName) then refuse "identifier"
    let target ← g.binding
    declareAll (symbolKind binder) target
    if (← sees "!") && !(← newlineBefore) then
      advance
      expect ":"
      g.plainType
    else g.annotation
    g.withDefault target
  let first ← one
  let rest ← many do if ← eat "," then return some (← one) else return none
  return first :: rest

/-- A declared name or pattern with its value. -/
def bindingParts (e : Expr) : Expr × Option Expr :=
  match e.node with
  | .binary _ target value => (target, some value)
  | _ => (e, none)

/-- Notes which constants have no value. -/
def requireValues (what : String) (bindings : List Expr) : Parse Unit :=
  bindings.forM fun e => match bindingParts e with
    | (target, none) =>
      match target.node with
      | .name name => note e.place ("The " ++ what ++ " " ++ Text.quoted name ++ " must be initialized")
      | _ => note e.place ("This " ++ what ++ " must be initialized")
    | _ => return

/-- Notes what the head of a loop over a collection may not declare. -/
def forbidValues (loop : String) (isVar : Bool) : List Expr → Parse Unit
  | [] => return
  | [e] =>
    match bindingParts e with
    | (target, some value) =>
      if isVar && target.node matches .name _ then return
      else note value.place ("for-" ++ loop ++ " loop variables cannot have an initializer")
    | _ => return
  | e :: _ => note e.place ("for-" ++ loop ++ " loops must have a single declaration")

/-- Marks the constants whose values are functions that are called without effect; `isPure` says so of the first. -/
def markPureConstants (isPure : Bool) : List Expr → Parse (List Expr)
  | [] => return []
  | e :: rest => do
    let e := match isPure, e with
      | true, .mk place comments (.binary op target value) => .mk place comments (.binary op target (asPureFunction value))
      | _, e => e
    if let (.mk _ _ (.name name), some value) := bindingParts e then
      let isFunction := match value.core.node with
        | .function f | .arrow _ f => f.head.isPure
        | _ => false
      if isFunction then
        let s ← get
        ((s.table.scope? s.scope).bind (·.find? name)).forM fun m => markPure m.symbol
    return e :: (← markPureConstants false rest)

/-- An expression or a declaration. -/
inductive ExprOrDeclaration where
  | expression (e : Expr)
  | declaration (binder : Binder) (bindings : List Expr)

/-- Notes a declaration that stands where only a statement can. -/
def forbidDeclaration (p : StatementPlace) (start : Place) : Parse Unit := do
  if p.declarations ≠ .allowed then note start "Cannot use a declaration in a single-statement context"

/-- What follows the word `let` if it declares something. -/
def letDeclares (p : StatementPlace) : Parse Bool := do
  if p.isExported then return true
  let breaks ← newlineBefore
  if ← sees "[" then return true
  return ((← seesName) || (← sees "\x7b")) && (p.declarations = .allowed || !breaks)

/-- Takes the words `await` and `using` if they start a declaration. -/
def eatAwaitUsing : Parse Bool := do
  let before ← get
  if before.token.kind ≠ .name || before.token.raw ≠ "await" || before.setting.await ≠ .operator then return false
  advance
  if ← eatWord "using" then
    if (← seesName) && !(← newlineBefore) then
      modify fun s => { s with hasExport := s.hasExport || s.setting.isTopLevel }
      return true
  set before
  return false

/-- An expression, or a declaration with `let` or `using`. -/
def exprOrDeclaration (g : Grammar) (p : StatementPlace) (aim : Aim) : Parse ExprOrDeclaration := do
  let t ← token
  if t.kind = .name && t.raw = "let" then
    advance
    if ← letDeclares p then
      forbidDeclaration p t.place
      return .declaration .lexical (← g.declarators .lexical)
    return .expression (← g.suffixes Level.lowest {} (.plain t.place (.name "let")))
  if t.kind = .name && t.raw = "using" then
    advance
    if (← seesName) && !(← newlineBefore) && !(aim.inHead && (← seesWord "of")) then
      forbidDeclaration p t.place
      let bindings ← g.declarators .using
      if !aim.inHead then requireValues "declaration" bindings
      return .declaration .using bindings
    return .expression (← g.suffixes Level.lowest {} (.plain t.place (.name "using")))
  if ← eatAwaitUsing then
    forbidDeclaration p t.place
    let bindings ← g.declarators .awaitUsing
    if !aim.inHead then requireValues "declaration" bindings
    return .declaration .awaitUsing bindings
  return .expression (← g.expression Level.lowest aim)

/-- An expression in parentheses. -/
def condition (g : Grammar) : Parse Expr := do
  expect "("
  let e ← g.value Level.lowest
  expect ")"
  return e

/-- A block from its opening brace on, with its scope. -/
def blockOf (g : Grammar) : Parse (ScopeId × List Stmt) :=
  inScope .block fun id => do
    expect "\x7b"
    return (id, ← g.statements false)

/-- The head of a `for` after its parenthesis, up to what decides its kind. -/
def forHead (g : Grammar) (isAwait : Bool) : Parse (Option Stmt) := do
  let t ← token
  let declaration (binder : Binder) : Parse (Option Stmt) := do
    advance
    return some (.mk t.place (.declaration { binder } (← g.declarators binder)))
  if ← seesKeyword "var" then return ← declaration .var
  if ← seesKeyword "const" then return ← declaration .constant
  if ← sees ";" then return none
  match ← g.exprOrDeclaration { declarations := .allowed } { inHead := true, inAwaitHead := isAwait } with
  | .expression e => return some (.mk t.place (.expression e))
  | .declaration binder bindings => return some (.mk t.place (.declaration { binder } bindings))

/-- What the head of a loop declares. -/
def declaredIn : Option Stmt → Option (Binder × List Expr)
  | some s =>
    match s.node with
    | .declaration head bindings => some (head.binder, bindings)
    | _ => none
  | none => none

/-- A `for` after its first word. -/
def forStatement (g : Grammar) (start : Place) : Parse Stmt := inScope .block fun scope => do
  let t ← token
  let hasAwait ← eatWord "await"
  let isAwait := hasAwait && (← get).setting.await = .operator
  if hasAwait then
    if isAwait then modify fun s => { s with hasExport := s.hasExport || s.setting.isTopLevel }
    else note t.place "Cannot use \"await\" outside an async function"
  expect "("
  let first ← token
  let head ← allowingIn false (g.forHead isAwait)
  let declared := declaredIn head
  let bindings := (declared.map (·.2)).getD []
  allowingIn true do
    if (← seesWord "of") || isAwait then
      if first.raw = "let" && first.kind = .name && declared.isNone then
        note first.place "\"let\" must be wrapped in parentheses to be used as an expression here:"
      match head with
      | none => unexpected
      | some h =>
        if !(← seesWord "of") then refuseMark "of"
        forbidValues "of" false bindings
        advance
        let object ← g.value Level.comma
        expect ")"
        return .mk start (.eachItem scope isAwait h object (← g.statement {}))
    if ← seesKeyword "in" then
      match head with
      | none => unexpected
      | some h =>
        forbidValues "in" (declared.any (·.1 = .var)) bindings
        advance
        let object ← g.value Level.lowest
        expect ")"
        return .mk start (.eachKey scope h object (← g.statement {}))
    expect ";"
    match declared with
    | some (.constant, bindings) => requireValues "constant" bindings
    | some (.using, bindings) | some (.awaitUsing, bindings) => requireValues "declaration" bindings
    | _ => pure ()
    let test ← if ← sees ";" then pure none else pure (some (← g.value Level.lowest))
    expect ";"
    let post ← if ← sees ")" then pure none else pure (some (← g.value Level.lowest))
    expect ")"
    return .mk start (.count scope head test post (← g.statement {}))

/-- The clauses of a `switch` up to the closing brace. -/
def clauses (g : Grammar) : (fuel : Nat) → (hasDefault : Bool) → Parse (List Stmt)
  | 0, _ => return []
  | fuel + 1, hasDefault => do
    if ← sees "\x7d" then return []
    let t ← token
    let isDefault ← seesKeyword "default"
    if isDefault && hasDefault then failAt t.place "Multiple default clauses are not allowed"
    let test ← if isDefault then
        advance
        pure none
      else
        expectKeyword "case"
        pure (some (← g.value Level.lowest))
    expect ":"
    let body ← many do
      if (← sees "\x7d") || (← seesKeyword "case") || (← seesKeyword "default") then return none
      return some (← g.statement { declarations := .allowed })
    return .mk t.place (.clause test body) :: (← clauses g fuel (hasDefault || isDefault))

def switchStatement (g : Grammar) (start : Place) : Parse Stmt := do
  let subject ← g.condition
  inScope .block fun scope => do
    expect "\x7b"
    let cs ← g.clauses ((← place) + 1) false
    expect "\x7d"
    return .mk start (.switch scope subject cs)

/-- What a `try` does with an error, after the word `catch`. -/
def handlerOf (g : Grammar) (start : Place) : Parse Stmt := inScope .handler fun outer => do
  let binding ← if ← eat "(" then
      let target ← g.binding
      g.annotation
      expect ")"
      declareAll (if target.node matches .name _ then .caught else .lexical) target
      pure (some target)
    else
      if !(← sees "\x7b") then refuseMark "("
      pure none
  let (inner, body) ← g.blockOf
  return .mk start (.handler outer inner binding body)

def tryStatement (g : Grammar) (start : Place) : Parse Stmt := do
  let (scope, body) ← g.blockOf
  let t ← token
  let handler ← if ← eatKeyword "catch" then pure (some (← g.handlerOf t.place)) else pure none
  let t ← token
  let last ← if handler.isNone || (← seesKeyword "finally") then
      expectKeyword "finally"
      let (id, body) ← g.blockOf
      pure (some (.mk t.place (.block id body)))
    else pure none
  return .mk start (.attempt scope body handler last)

/-- An enumeration from its first word on. It can be declared, not defined. -/
def enumeration (g : Grammar) (start : Place) : Parse Stmt := do
  if !(← get).inDeclare then unexpected
  advance
  let _ ← expectName
  expect "\x7b"
  let _ ← many do
    if ← sees "\x7d" then return none
    if !((← seesMemberName) || (← seesKind .string)) then refuse "identifier"
    advance
    if ← eat "=" then
      let _ ← g.value Level.comma
    if ← seesAny [",", ";"] then advance
    else if !(← sees "\x7d") then refuseMark "\x7d"
    return some ()
  expect "\x7d"
  return .mk start .typeOnly

/-- Statements in braces that are part of a namespace, after the opening brace. -/
def namespaceBody (g : Grammar) (p : StatementPlace) : Parse (List Stmt) := do
  let body ← g.statementsTo p (sees "\x7d") ((← place) + 1) false
  expect "\x7d"
  return body

/-- Whether a statement leaves a value behind. -/
def leavesValue (s : Stmt) : Bool :=
  match s.node with
  | .typeOnly | .notice _ => false
  | _ => true

/-- A namespace from its name on. It must not hold values unless it is only declared. -/
def namespaceStatement (g : Grammar) (start : Place) (p : StatementPlace) (word : String) : Parse Stmt := do
  let before ← get
  let name ← if ← seesKind .string then
      advance
      if !(← sees "\x7b") then
        endStatement
        return .mk start .typeOnly
      pure none
    else
      let name ← expectName
      let _ ← many do if ← eat "." then return some (← expectName) else return none
      pure (some name)
  expect "\x7b"
  let body ← g.namespaceBody { declarations := .allowed, inNamespace := true }
  if body.any leavesValue && !before.inDeclare then failAt start ("Unexpected " ++ Text.quoted word)
  modify fun s => { s with table := before.table, scope := before.scope }
  if p.inModule then modify fun s => { s with types := name.toList ++ s.types }
  return .mk start .typeOnly

/-- What follows the word `declare` on its line, which was read as the name `word`. -/
def declareStatement (g : Grammar) (start : Place) (p : StatementPlace) (word : Expr) : Parse Stmt := do
  let place := { p with declarations := .allowed }
  let at_ ← token
  declaring do
    if ← eatWord "global" then
      expect "\x7b"
      let _ ← g.namespaceBody place
      return .mk start .typeOnly
    let found := "Unexpected " ++ (← found)
    let s ← g.statement place
    match s.node with
    | .empty => return .mk start (.expression word)
    | .typeOnly | .declaration .. => return .mk start .typeOnly
    | _ => failAt at_.place found

/-- A statement that starts with a word about types and was read as that name; nothing if what follows does not make it
one. -/
def typeStatement? (g : Grammar) (t : Token) (p : StatementPlace) (word : Expr) : Parse (Option Stmt) := do
  let onLine := !(← newlineBefore)
  let only : Stmt := .mk t.place .typeOnly
  let refuseExported : Parse (Option Stmt) := do
    if p.isExported then failAt t.place ("Unexpected " ++ Text.quoted t.raw)
    return none
  match t.text with
  | "type" =>
    if !((← seesName) && onLine) then return none
    g.typeAlias p
    return some only
  | "namespace" | "module" =>
    if !((← seesName) || (← seesKind .string) && (← get).inDeclare) || !onLine then return none
    return some (← g.namespaceStatement t.place p t.text)
  | "interface" =>
    if !onLine then return ← refuseExported
    if p.isExported || (← seesName) then
      g.interface p
      return some only
    return none
  | "abstract" =>
    if onLine && (← seesKeyword "class") then return some (← g.classStatement t.place p)
    refuseExported
  | "global" =>
    if !(p.inNamespace && (← get).inDeclare && (← sees "\x7b")) then return none
    advance
    let _ ← g.namespaceBody { p with declarations := .allowed }
    return some only
  | "declare" =>
    if onLine then return some (← g.declareStatement t.place p word)
    refuseExported
  | _ => return none

/-- A statement that is an expression or starts with a name. -/
def expressionStatement (g : Grammar) (p : StatementPlace) : Parse Stmt := do
  let t ← token
  if t.kind = .name && t.raw = "async" then
    let before ← get
    advance
    if (← seesKeyword "function") && !(← newlineBefore) then
      advance
      return ← g.functionStatement t.place p true
    set before
  match ← g.exprOrDeclaration p {} with
  | .declaration binder bindings =>
    endStatement
    return .mk t.place (.declaration { binder, isExported := p.isExported } bindings)
  | .expression e =>
    if t.kind = .name && e.node matches .name _ then
      if (← sees ":") && p.decorators.isEmpty then
        return ← inScope .label fun scope => do
          advance
          let declarations := if p.declarations = .allowed || p.declarations = .afterLabel then
              .afterLabel else .forbidden
          return .mk t.place (.labeled scope t.text (← g.statement { declarations }))
      if let some s ← g.typeStatement? t p e then return s
    endStatement
    return .mk t.place (.expression e)

/-- A label after a jump, if there is one on its line. -/
def jumpLabel? : Parse (Option (String × Place)) := do
  let t ← token
  if t.kind ≠ .name || t.newline then return none
  advance
  return some (t.text, t.place)

/-- An import as a statement, or an expression that starts with the word. -/
def importOrExpression (g : Grammar) (start : Place) (p : StatementPlace) : Parse Stmt := do
  advance
  if p.isExported || !(← seesAny ["(", "."]) then return ← importStatement start p
  let e ← g.suffixes Level.lowest {} (← g.importTail start [] Level.lowest)
  endStatement
  return .mk start (.expression e)

/-- A statement with decorators in front of it. -/
def decoratedStatement (g : Grammar) (start : Place) (p : StatementPlace) : Parse Stmt := do
  let decorators ← g.decorators
  if !p.decorators.isEmpty then
    note start "Decorators are not valid here"
    return ← g.statement p
  let s ← g.statement { p with decorators }
  let isClass (s : Stmt) : Bool := s.node matches .classDecl .. | .typeOnly
  let isRight := match s.node with
    | .exportDefault _ value => isClass value
    | _ => isClass s
  if isRight then return s
  note start "Decorators are not valid here"
  return .mk start .typeOnly

/-- A statement that starts with a keyword. -/
def keywordStatement (g : Grammar) (t : Token) (p : StatementPlace) : Parse Stmt := do
  match t.text with
  | "export" => g.exportStatement t.place p
  | "import" => g.importOrExpression t.place p
  | "function" =>
    advance
    g.functionStatement t.place p false
  | "enum" => g.enumeration t.place
  | "class" =>
    forbidDeclaration p t.place
    g.classStatement t.place p
  | "var" =>
    advance
    let bindings ← g.declarators .var
    endStatement
    return .mk t.place (.declaration { binder := .var, isExported := p.isExported } bindings)
  | "const" =>
    forbidDeclaration p t.place
    advance
    if ← seesKeyword "enum" then return ← g.enumeration t.place
    let bindings ← g.declarators .constant
    endStatement
    if (← get).inDeclare then
      return .mk t.place (.declaration { binder := .constant, isExported := p.isExported } bindings)
    requireValues "constant" bindings
    let bindings ← markPureConstants p.isPure bindings
    return .mk t.place (.declaration { binder := .constant, isExported := p.isExported } bindings)
  | "if" =>
    advance
    let test ← g.condition
    let yes ← g.statement { declarations := .inBranch }
    let no ← if ← eatKeyword "else" then pure (some (← g.statement { declarations := .inBranch })) else pure none
    return .mk t.place (.branch test yes no)
  | "do" =>
    advance
    let body ← g.statement {}
    expectKeyword "while"
    let test ← g.condition
    let _ ← eat ";"
    return .mk t.place (.loopOnce body test)
  | "while" =>
    advance
    let test ← g.condition
    return .mk t.place (.loop test (← g.statement {}))
  | "with" =>
    advance
    let object ← g.condition
    let (scope, body) ← inScope .withBlock fun scope => do return (scope, ← g.statement {})
    return .mk t.place (.withScope scope object body)
  | "switch" =>
    advance
    g.switchStatement t.place
  | "try" =>
    advance
    g.tryStatement t.place
  | "for" =>
    advance
    g.forStatement t.place
  | "break" | "continue" =>
    advance
    let label ← jumpLabel?
    endStatement
    return .mk t.place (.jump t.text label)
  | "return" =>
    if (← get).setting.forbidsReturn then note t.place "A return statement cannot be used here:"
    advance
    let ends := (← sees ";") || (← newlineBefore) || (← sees "\x7d") || (← isOver)
    let value ← if ends then pure none else pure (some (← g.value Level.lowest))
    endStatement
    return .mk t.place (.giveBack value)
  | "throw" =>
    advance
    if ← newlineBefore then failAt (t.place - 5) "Unexpected newline after \"throw\""
    let e ← g.value Level.lowest
    endStatement
    return .mk t.place (.throw e)
  | "debugger" =>
    advance
    endStatement
    return .mk t.place .debugger
  | _ => g.expressionStatement p

/-- A statement with its semicolon, without the comments in front of it. -/
def bareStatement (g : Grammar) (p : StatementPlace) : Parse Stmt := do
  let t ← token
  match t.kind, t.text with
  | .mark, ";" =>
    advance
    return .mk t.place .empty
  | .mark, "\x7b" =>
    let (id, body) ← g.blockOf
    return .mk t.place (.block id body)
  | .mark, "@" => g.decoratedStatement t.place p
  | .keyword, _ => g.keywordStatement t p
  | _, _ => g.expressionStatement p

/-- A statement with its semicolon. -/
def statementOf (g : Grammar) (p : StatementPlace) : Parse Stmt := do
  dropComments
  let isPure := p.isPure || (← token).promise.ofFunction
  g.bareStatement { p with isPure }

end Distill.TypeScript.Grammar
