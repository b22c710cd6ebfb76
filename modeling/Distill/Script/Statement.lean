import Distill.Script.Expression

/-!
The grammar of JavaScript statements, and the grammar of the whole language by recursion on the level of nesting.
-/
namespace Distill.Script

namespace Grammar

open Parse

/-- Whether a statement can end here: at a line end, a semicolon, a brace or the end of the text. -/
def canEnd : Parse Bool := do
  return (← newlineBefore) || (← sees ";") || (← sees "\x7d") || (← isOver)

def endStatement (context : String) : Parse Unit := do
  if !(← canEnd) then fail context []

/-- An expression as a statement. -/
def expressionStatement (p : Parse Expr) : Parse Stmt := do
  let e ← p
  endStatement "expression"
  return .expression e

/-- An expression in parentheses. -/
def condition (g : Grammar) (context : String) : Parse Expr := do
  expect context "("
  let e ← g.inner Level.list
  expect context ")"
  return e

/-- A declaration after its keyword. -/
def declarationRest (g : Grammar) (binder : Binder) : Parse Stmt := do
  let ds ← g.declarators binder false
  endStatement (match binder with
    | .var => "var statement"
    | .lexical => "let declaration"
    | .constant => "const declaration")
  return .declaration binder ds

/-- A statement after the word `let`, which declares names or is a name itself. -/
def letRest (g : Grammar) (allowDeclaration : Bool) : Parse Stmt := do
  if allowDeclaration && ((← ownName?).isSome || (← seesOneOf ["[", "\x7b"])) then return ← g.declarationRest .lexical
  if ← sees "[" then refuse "unexpected let [ in single-statement context"
  expressionStatement (g.suffixes Level.list (.name "let") Level.primary)

/-- The body of a `for`, in whose scope the names of its head may be declared again. -/
def forBody (g : Grammar) : Parse Stmt := do
  modify fun s =>
    { s with
      scopes := match s.scopes with
        | top :: outer => { top with names := [], headNames := top.names ++ top.headNames } :: outer
        | [] => [] }
  if ← sees "\x7b" then return .block (← g.body "")
  if ← eat ";" then return .empty
  g.statement false

/-- The binder at the current word in the head of a `for`. -/
def binder? : Parse (Option Binder) := do
  if ← seesWord "var" then return some .var
  if ← seesWord "let" then return some .lexical
  if ← seesWord "const" then return some .constant
  return none

/-- Whether names are declared without a value, one pattern or name alone. -/
def isBare : List Expr → Bool
  | [.binary ..] => false
  | [_] => true
  | _ => false

/-- Names declared in the head of a `for`. What counts needs values for its patterns, what goes over a collection has one
name or pattern alone. -/
def forDeclaration (g : Grammar) (binder : Binder) : Parse Stmt := do
  let ds ← g.declarators binder true
  if ← sees ";" then
    match ds with
    | .array _ :: _ | .object _ :: _ => fail "for statement" []
    | _ => pure ()
  else if !isBare ds then fail "for statement" []
  return .declaration binder ds

/-- Whether the head of a `for` can be what a collection's items are given to. -/
def isTarget : Option Stmt → Bool
  | some (.expression e) =>
    match e with
    | .sequence _ | .conditional .. | .yielding .. | .arrow _ | .arrowExpr .. | .binary .. | .unary .. | .suffix .. => false
    | _ => true
  | _ => true

/-- The first part of the head of a `for`. -/
def forHead (g : Grammar) (isAwait : Bool) : Parse (Option Stmt) :=
  allowingIn false do
    match ← binder? with
    | some b =>
      advance
      return some (← g.forDeclaration b)
    | none =>
      if isAwait then return some (.expression (← g.expression Level.leftSide))
      if ← sees ";" then return none
      return some (.expression (← g.expression Level.list))

def forStatement (g : Grammar) : Parse Stmt := do
  let context := "for statement"
  let isAwait ← if (← get).inAsync then eatWord "await" else pure false
  expect context "("
  enclosed false do
    let head ← g.forHead isAwait
    let refuseAwait : Parse Unit := do
      if isAwait then fail context ["of"]
    if isTarget head then
      if ← seesWord "in" then
        refuseAwait
        advance
        let object ← g.inner Level.list
        expect context ")"
        return .eachKey (head.getD .empty) object (← g.forBody)
      if ← eatWord "of" then
        let object ← g.inner Level.assign
        expect context ")"
        return .eachItem isAwait (head.getD .empty) object (← g.forBody)
    if !(← sees ";") then fail context (if isTarget head then ["in", "of", ";"] else [";"])
    refuseAwait
    advance
    let test ← if ← sees ";" then pure none else pure (some (← g.inner Level.list))
    expect context ";"
    let post ← if ← sees ")" then pure none else pure (some (← g.inner Level.list))
    expect context ")"
    return .count head test post (← g.forBody)

/-- The statements of a clause of a `switch`. -/
def clauseBody (g : Grammar) : Parse (List Stmt) :=
  many do
    if (← seesWord "case") || (← seesWord "default") || (← sees "\x7d") || (← isOver) then return none
    return some (← g.statement true)

def switchStatement (g : Grammar) : Parse Stmt := do
  let context := "switch statement"
  let subject ← g.condition context
  expect context "\x7b"
  enclosed false do
    let clauses ← many do
      if ← isOver then fail context []
      if ← eat "\x7d" then return none
      let test ← if ← eatWord "case" then pure (some (← g.inner Level.list))
        else if ← eatWord "default" then pure none
        else fail context ["case", "default"]
      expect context ":"
      return some (Stmt.clause test (← g.clauseBody))
    return .switch subject clauses

/-- What a `try` does with an error, after the word `catch`. -/
def handlerRest (g : Grammar) : Parse Stmt :=
  enclosed false do
    let b ← if ← eat "(" then
        let p ← g.binding .caught
        expect "try-catch statement" ")"
        pure (some p)
      else pure none
    return .handler b (← g.body "try-catch statement")

def tryStatement (g : Grammar) : Parse Stmt := do
  let body ← g.block "try statement"
  let handler ← if ← eatWord "catch" then pure (some (← g.handlerRest)) else pure none
  let last ← if ← eatWord "finally" then pure (some (Stmt.block (← g.block "try-finally statement"))) else pure none
  if handler.isNone && last.isNone then fail "try statement" ["catch", "finally"]
  return .attempt body handler last

/-- A statement after its label. A function with a label needs a name wherever it stands. -/
def labeledRest (g : Grammar) : Parse Stmt := do
  let before := (← get).allowNameless
  if ← seesWord "function" then modify fun s => { s with allowNameless := false }
  let s ← g.statement true
  modify fun s => { s with allowNameless := before }
  return s

/-- A statement that starts with a reserved word or with one that can start a declaration; the word is taken already. -/
def wordStatement (g : Grammar) (allowDeclaration : Bool) (word : String) : Parse Stmt := do
  match word with
  | "var" => g.declarationRest .var
  | "const" => g.declarationRest .constant
  | "let" => g.letRest allowDeclaration
  | "if" =>
    let test ← g.condition "if statement"
    let yes ← g.statement false
    if ← eatWord "else" then return .branch test yes (some (← g.statement false))
    return .branch test yes none
  | "while" =>
    let test ← g.condition "while statement"
    return .loop test (← g.statement false)
  | "do" =>
    let body ← g.statement false
    expectWord "do-while statement" "while"
    return .loopOnce body (← g.condition "do-while statement")
  | "for" => g.forStatement
  | "switch" => g.switchStatement
  | "try" => g.tryStatement
  | "with" =>
    let object ← g.condition "with statement"
    return .withScope object (← g.statement false)
  | "break" | "continue" =>
    if !(← newlineBefore) then
      if let some label ← name? then
        advance
        return .jump word (some label)
    return .jump word none
  | "throw" =>
    if ← newlineBefore then refuse "unexpected newline in throw statement"
    return .throw (← g.expression Level.list)
  | "debugger" => return .debugger
  | "function" => return .function (← g.functionRest false false)
  | "class" => return .classDecl (← g.classRest false)
  | "return" => if ← canEnd then return .giveBack none else return .giveBack (some (← g.expression Level.list))
  | "async" =>
    if (← seesWord "function") && !(← newlineBefore) then
      if !allowDeclaration then fail "statement" []
      advance
      return .function (← g.functionRest true false)
    expressionStatement (g.afterAsync Level.list)
  | _ => fail "statement" []

/-- Words that start a statement of their own. -/
def leadingWords : List String :=
  ["var", "const", "let", "if", "while", "do", "for", "switch", "try", "with", "break", "continue", "throw", "debugger",
    "function", "class", "async"]

/-- Words that start a declaration and cannot stand where a single statement is asked for. -/
def declaringWords : List String := ["const", "function", "class"]

/-- A statement up to its semicolon. -/
def bareStatement (g : Grammar) (allowDeclaration : Bool) : Parse Stmt := do
  if ← sees "\x7b" then return .block (← g.block "block statement")
  if ← eat ";" then return .empty
  let t := (← stream).token
  if t.kind ≠ .word then return ← expressionStatement (g.expression Level.list)
  if t.text ∈ leadingWords || (t.text = "return" && (← get).inFunction) then
    if t.text ∈ declaringWords && !allowDeclaration then fail "statement" []
    advance
    return ← g.wordStatement allowDeclaration t.text
  match ← name? with
  | some n =>
    advance
    if ← eat ":" then return .labeled n (← g.labeledRest)
    expressionStatement (g.suffixes Level.list (.name n) Level.primary)
  | none => expressionStatement (g.expression Level.list)

/-- A statement with its semicolon. Where nothing follows, it is empty. -/
def statementOf (g : Grammar) (allowDeclaration : Bool) : Parse Stmt :=
  deeperStatement do
    if ← isOver then return .empty
    let s ← g.bareStatement allowDeclaration
    if !(← newlineBefore) then
      let _ ← eat ";"
    return s

end Grammar

/-- The grammar with so many levels of nesting. -/
def grammar : (depth : Nat) → Grammar
  | 0 => ⟨fun _ => Parse.fail "expression" [], fun _ => Parse.fail "expression" [], fun _ => Parse.fail "statement" []⟩
  | depth + 1 =>
    ⟨fun level => (grammar depth).expressionOf level, fun level => (grammar depth).asyncRest level,
      fun allow => (grammar depth).statementOf allow⟩

end Distill.Script
