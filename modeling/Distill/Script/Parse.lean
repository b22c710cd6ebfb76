import Distill.Script.Scope
import Distill.Script.Stream
import Distill.Script.Tree

/-!
The steps that parsers of JavaScript are made of: looking at the current token, taking it, refusing it, declaring a
name, and parsing inside a scope or a function.
-/
namespace Distill.Script

structure State where
  stream : Stream
  scopes : List Scope
  /-- Whether `await` is an operator. -/
  inAsync : Bool := true
  /-- Whether `yield` is an operator. -/
  inGenerator : Bool := false
  inFunction : Bool := false
  /-- Whether `in` is an operator, which it is not in the head of a `for`. -/
  allowIn : Bool := true
  /-- Whether declarations of functions and classes need no name, as those that are exported. -/
  allowNameless : Bool := false
  /-- Whether the expressions in parentheses that are being read can still turn out to be parameters. -/
  mayBeParams : Bool := false
  /-- How many expressions are being read. -/
  expressionDepth : Nat := 0
  /-- How many statements are being read. -/
  statementDepth : Nat := 0

/-- How deep expressions, and statements, can nest. -/
def depthLimit : Nat := 1000

abbrev Parse := StateT State (Except SyntaxError)

namespace Parse

def stream : Parse Stream := do return (← get).stream

def advance : Parse Unit := modify fun s => { s with stream := s.stream.advance }

def fail {α : Type} (context : String) (expected : List String) : Parse α := do
  throw ((← stream).complaint context expected)

/-- Fails with a message of its own at the current token. -/
def refuse {α : Type} (message : String) : Parse α := do throw ⟨(← stream).remaining, message⟩

def sees (punctuator : String) : Parse Bool := do return (← stream).isPunctuator punctuator

def seesWord (word : String) : Parse Bool := do return (← stream).isWord word

def newlineBefore : Parse Bool := do return (← stream).newline

def isOver : Parse Bool := do return (← stream).isOver

/-- Takes a punctuator if it is there. -/
def eat (punctuator : String) : Parse Bool := do
  if ← sees punctuator then
    advance
    return true
  return false

/-- Takes a word if it is there. -/
def eatWord (word : String) : Parse Bool := do
  if ← seesWord word then
    advance
    return true
  return false

def expect (context punctuator : String) : Parse Unit := do
  if !(← eat punctuator) then fail context [punctuator]

def expectWord (context word : String) : Parse Unit := do
  if !(← eatWord word) then fail context [word]

/-- The text of the current token, which is taken. -/
def take : Parse String := do
  let text := (← stream).token.text
  advance
  return text

/-- The current token as a name of a variable. -/
def name? : Parse (Option String) := do
  let s ← get
  let t := s.stream.token
  if t.kind ≠ .word then return none
  if t.text = "yield" then return if s.inGenerator then none else some t.text
  if t.text = "await" then return if s.inAsync then none else some t.text
  return if t.text ∈ reservedWords then none else some t.text

/-- Runs a parser in a scope of its own. -/
def enclosed {α : Type} (isFunction : Bool) (p : Parse α) : Parse α := do
  modify fun s => { s with scopes := { isFunction } :: s.scopes }
  let a ← p
  modify fun s => { s with scopes := s.scopes.drop 1 }
  return a

/-- Runs a parser with `in` as an operator or not. -/
def allowingIn {α : Type} (allow : Bool) (p : Parse α) : Parse α := do
  let before := (← get).allowIn
  modify fun s => { s with allowIn := allow }
  let a ← p
  modify fun s => { s with allowIn := before }
  return a

/-- Runs the parser of a function's inside, with its own meaning of `await` and `yield`. -/
def asBody {α : Type} (isAsync isGenerator isFunction : Bool) (p : Parse α) : Parse α := do
  let before ← get
  modify fun s => { s with inAsync := isAsync, inGenerator := isGenerator, inFunction := isFunction }
  let a ← p
  modify fun s =>
    { s with inAsync := before.inAsync, inGenerator := before.inGenerator, inFunction := before.inFunction }
  return a

/-- Runs the parser of a function from its parameters on, in a scope of its own. -/
def inFunction {α : Type} (isAsync isGenerator : Bool) (p : Parse α) : Parse α :=
  allowingIn true (asBody isAsync isGenerator true (enclosed true p))

/-- Runs a parser with what may be said of the expressions in parentheses around it, and then forgets what it found. -/
def assuming {α : Type} (mayBeParams : Bool) (p : Parse α) : Parse α := do
  let before := (← get).mayBeParams
  modify fun s => { s with mayBeParams }
  let a ← p
  modify fun s => { s with mayBeParams := before }
  return a

/-- The expressions in parentheses that are being read are no parameters. -/
def notParams : Parse Unit := modify fun s => { s with mayBeParams := false }

/-- Runs a parser one expression deeper. -/
def deeperExpression {α : Type} (p : Parse α) : Parse α := do
  modify fun s => { s with expressionDepth := s.expressionDepth + 1 }
  if depthLimit < (← get).expressionDepth then refuse "too many nested expressions"
  let a ← p
  modify fun s => { s with expressionDepth := s.expressionDepth - 1 }
  return a

/-- Runs a parser one statement deeper. -/
def deeperStatement {α : Type} (p : Parse α) : Parse α := do
  modify fun s => { s with statementDepth := s.statementDepth + 1 }
  if depthLimit < (← get).statementDepth then refuse "too many nested statements"
  let a ← p
  modify fun s => { s with statementDepth := s.statementDepth - 1 }
  return a

/-- Declares a name; the current token is at fault if it clashes. -/
def declare (kind : NameKind) (name : String) : Parse Unit := do
  let s ← get
  match declare? kind name s.scopes with
  | some scopes => set { s with scopes }
  | none => refuse ("identifier " ++ name ++ " has already been declared")

/-- Declares a name as a parameter, unless that clashes. -/
def declareParam? (name : String) : Parse Bool := do
  let s ← get
  match declare? .argument name s.scopes with
  | some scopes =>
    set { s with scopes }
    return true
  | none => return false

/-- Repeats a parser until it gives nothing, at most as often as characters are left. -/
def many {α : Type} (p : Parse (Option α)) : Parse (List α) := do
  go ((← stream).remaining + 1)
where
  go : (fuel : Nat) → Parse (List α)
    | 0 => return []
    | fuel + 1 => do
      match ← p with
      | none => return []
      | some a => return a :: (← go fuel)

end Parse

end Distill.Script
