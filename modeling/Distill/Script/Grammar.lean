import Distill.Script.Parse

/-!
The grammar of JavaScript as productions that refer to each other through a `Grammar`, which holds the same productions
with one level of nesting less. Here are the levels of expressions and what all other productions are made of: lists of
arguments, keys, templates and statements in braces.
-/
namespace Distill.Script

/-- How tightly an expression binds, from a list with commas to a single word. -/
abbrev Level := Nat

namespace Level

def list : Level := 1
def assign : Level := 2
def coalesce : Level := 3
def disjunction : Level := 4
def conjunction : Level := 5
def bitOr : Level := 6
def bitXor : Level := 7
def bitAnd : Level := 8
def equality : Level := 9
def compare : Level := 10
def shift : Level := 11
def add : Level := 12
def multiply : Level := 13
def power : Level := 14
def unary : Level := 15
def update : Level := 16
def leftSide : Level := 17
def call : Level := 18
def construct : Level := 19
def member : Level := 20
def primary : Level := 21

end Level

/-- A binary operator: its own level, the least level of its left operand and the level at which its right operand is
read. -/
structure Operator where
  level : Level
  left : Level
  right : Level
deriving DecidableEq, Repr

def assignmentOperators : List String :=
  ["=", "+=", "-=", "*=", "/=", "%=", "**=", "<<=", ">>=", ">>>=", "&=", "|=", "^=", "&&=", "||=", "??="]

def operator? (text : String) : Option Operator :=
  if text ∈ assignmentOperators then some ⟨Level.assign, Level.leftSide, Level.assign⟩
  else if text = "||" then some ⟨Level.disjunction, Level.disjunction, Level.conjunction⟩
  else if text = "&&" then some ⟨Level.conjunction, Level.conjunction, Level.bitOr⟩
  else if text = "|" then some ⟨Level.bitOr, Level.bitOr, Level.bitXor⟩
  else if text = "^" then some ⟨Level.bitXor, Level.bitXor, Level.bitAnd⟩
  else if text = "&" then some ⟨Level.bitAnd, Level.bitAnd, Level.equality⟩
  else if text ∈ ["==", "!=", "===", "!=="] then some ⟨Level.equality, Level.equality, Level.compare⟩
  else if text ∈ ["<", "<=", ">", ">=", "in", "instanceof"] then some ⟨Level.compare, Level.compare, Level.shift⟩
  else if text ∈ ["<<", ">>", ">>>"] then some ⟨Level.shift, Level.shift, Level.add⟩
  else if text ∈ ["+", "-"] then some ⟨Level.add, Level.add, Level.multiply⟩
  else if text ∈ ["*", "/", "%"] then some ⟨Level.multiply, Level.multiply, Level.power⟩
  else if text = "**" then some ⟨Level.power, Level.update, Level.power⟩
  else none

/-- The productions that others nest. -/
structure Grammar where
  expression : Level → Parse Expr
  /-- The rest of an expression after the word `async`. -/
  afterAsync : Level → Parse Expr
  statement : (allowDeclaration : Bool) → Parse Stmt

namespace Grammar

open Parse

/-- An expression inside brackets of some kind, where `in` is an operator. -/
def inner (g : Grammar) (level : Level) : Parse Expr := allowingIn true (g.expression level)

/-- Arguments after the opening parenthesis. -/
def arguments (g : Grammar) : Parse (List Expr) := do
  let args ← many do
    if (← sees ")") || (← isOver) then return none
    let isSpread ← eat "..."
    let e ← g.expression Level.assign
    if !(← sees ")") then
      if !(← eat ",") then fail "arguments" [",", ")"]
    return some (if isSpread then .spread e else e)
  expect "arguments" ")"
  return args

/-- Whether a text can be a name of a property without quotes. Only letters without accents are looked for. -/
def isPlainName (cs : List Char) : Bool :=
  let isLetter (c : Char) : Bool := c.isAlpha || c = '_' || c = '$'
  match cs with
  | [] => false
  | c :: rest => isLetter c && rest.all fun c => isLetter c || c.isDigit

/-- Whether a text is a decimal number without exponent or leading zeros. -/
def isPlainNumber (cs : List Char) : Bool :=
  match cs with
  | [] => false
  | '.' :: rest => rest ≠ [] && rest.all Char.isDigit
  | '0' :: rest => rest = []
  | _ =>
    let whole := cs.takeWhile Char.isDigit
    match cs.drop whole.length with
    | [] => true
    | '.' :: fraction => whole ≠ [] && fraction.all Char.isDigit
    | _ => false

/-- A key in quotes, without them if they are not needed. -/
def keyOfString (text : String) : Expr :=
  let content := (text.toList.drop 1).dropLast
  if isPlainName content then .name (String.ofList content)
  else if isPlainNumber content then .number (String.ofList content)
  else .string text

/-- A key. -/
def key (g : Grammar) (context : String) : Parse Expr := do
  match (← stream).token.kind with
  | .word => return .name (← take)
  | .number => return .number (← take)
  | .string => return keyOfString (← take)
  | _ =>
    if ← eat "[" then
      let e ← g.expression Level.assign
      expect context "]"
      return .computed e
    fail context ["Identifier", "String", "Numeric", "["]

/-- A template; the current token is its first part. -/
def template (g : Grammar) (tag : Option Expr) (isOptional : Bool) : Parse Expr := do
  let t := (← stream).token
  advance
  if t.kind = .template then return .template tag isOptional t.text []
  return .template tag isOptional t.text (← spans ((← stream).remaining + 1))
where
  spans : (fuel : Nat) → Parse (List Expr)
    | 0 => return []
    | fuel + 1 => do
      let value ← g.expression Level.list
      let t := (← stream).token
      match t.kind with
      | .templateTail =>
        advance
        return [.span value t.text]
      | .templateMiddle =>
        advance
        return .span value t.text :: (← spans fuel)
      | _ => fail "template literal" ["Template"]

/-- Statements in braces, in the current scope. The comments among them come first, and with them those right after the
closing brace. The expressions in them nest no deeper than those around. -/
def body (g : Grammar) (context : String) : Parse (List Stmt) := do
  let count := (← stream).notices.length
  expect context "\x7b"
  let depth := (← get).expressionDepth
  modify fun s => { s with expressionDepth := 0 }
  let statements ← many do
    if ← sees "\x7d" then return none
    if ← isOver then fail "" []
    return some (← g.statement true)
  modify fun s => { s with expressionDepth := depth }
  advance
  let notices := (← stream).notices
  modify fun s => { s with stream := { s.stream with notices := notices.take count } }
  return (notices.drop count).map Stmt.notice ++ statements

/-- Statements in braces, in a scope of their own. -/
def block (g : Grammar) (context : String) : Parse (List Stmt) := enclosed false (g.body context)

end Grammar

end Distill.Script
