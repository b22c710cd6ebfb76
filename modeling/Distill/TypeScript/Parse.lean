import Distill.TypeScript.Comment
import Distill.TypeScript.Symbol

/-!
The steps that the parser is made of. A hard error ends parsing; soft errors are noted beside the result, and all that
was noted before a hard error still counts.
-/
namespace Distill.TypeScript

open Script (SyntaxError)

/-- Binding strengths. An expression is read at a level and takes what binds more tightly. -/
abbrev Level := Nat

namespace Level

def lowest : Level := 0
def comma : Level := 1
def spread : Level := 2
def yielding : Level := 3
def assign : Level := 4
def conditional : Level := 5
def coalesce : Level := 6
def or : Level := 7
def and : Level := 8
def bitOr : Level := 9
def bitXor : Level := 10
def bitAnd : Level := 11
def equals : Level := 12
def compare : Level := 13
def shift : Level := 14
def add : Level := 15
def multiply : Level := 16
def power : Level := 17
def unary : Level := 18
def update : Level := 19
def construct : Level := 20
def call : Level := 21
def member : Level := 22

end Level

/-- Marks that assign. -/
def assignments : List String := [
  "=", "+=", "-=", "*=", "/=", "%=", "**=", "<<=", ">>=", ">>>=", "&=", "^=", "|=", "&&=", "||=", "??="]

/-- The level of a binary operator that is no assignment. -/
def operatorLevel? : String → Option Level
  | "??" => some Level.coalesce
  | "||" => some Level.or
  | "&&" => some Level.and
  | "|" => some Level.bitOr
  | "^" => some Level.bitXor
  | "&" => some Level.bitAnd
  | "==" | "!=" | "===" | "!==" => some Level.equals
  | "<" | ">" | "<=" | ">=" | "in" | "instanceof" => some Level.compare
  | "<<" | ">>" | ">>>" => some Level.shift
  | "+" | "-" => some Level.add
  | "*" | "/" | "%" => some Level.multiply
  | "**" => some Level.power
  | _ => none

/-- What the word `await` or `yield` is. -/
inductive WordUse where
  | name
  | operator
  | forbidden
deriving DecidableEq, Repr

/-- What the function around allows. -/
structure Setting where
  await : WordUse := .name
  yield : WordUse := .name
  allowsSuperCall : Bool := false
  allowsSuperMember : Bool := false
  isTopLevel : Bool := false
  isConstructor : Bool := false
  forbidsReturn : Bool := false
  /-- Whether a function may be only declared. -/
  mayLackBody : Bool := false
  /-- Whether what is read may turn out to be parameters. -/
  inParams : Bool := false
deriving DecidableEq, Repr

/-- Errors that count only if what is read is an expression, or only if it is a pattern. -/
structure Deferred where
  /-- A default value, which only a pattern may have. -/
  default : Option Place := none
  /-- The token after the question mark of an optional parameter. -/
  question : Option SyntaxError := none
  /-- Parentheses, which a pattern may not have. -/
  parens : List Place := []
deriving DecidableEq, Repr

/-- The deferred errors of a part among those of the whole. -/
def Deferred.join (whole part : Deferred) : Deferred :=
  ⟨part.default <|> whole.default, part.question <|> whole.question, whole.parens ++ part.parens⟩

structure State where
  /-- The whole text. -/
  text : List Char
  length : Nat
  token : Token
  /-- How many characters are left after the token. -/
  left : Nat
  rest : List Char
  problems : List SyntaxError := []
  table : SymbolTable := {}
  scope : ScopeId := 0
  setting : Setting := {}
  allowIn : Bool := true
  allowPrivate : Bool := false
  /-- The place of the word `await` if it was the last token and is a name. -/
  awaitName : Option Place := none
  /-- Where the last item in parentheses starts. -/
  latestItem : Option Place := none
  /-- Where an arrow function ended, which only a comma can follow. -/
  afterArrow : Option Place := none
  /-- Where an assertion ended, which not every suffix can follow. -/
  afterAssertion : Option Place := none
  deferred : Deferred := {}
  /-- Operators that parameters may not hold. -/
  awaitInParams : Option Place := none
  yieldInParams : Option Place := none
  /-- Whether the text has imports, exports or what else makes it a module. -/
  hasImport : Bool := false
  hasExport : Bool := false
  /-- Where the last comment in the style of markup starts. -/
  markup : Option Place := none
  /-- Whether everything is only declared, not defined. -/
  inDeclare : Bool := false
  /-- The names of types declared so far. -/
  types : List String := []

abbrev Parse := EStateM SyntaxError State

/-- What comments say about what follows them. -/
def promiseOf (comments : List Comment) : Promise where
  ofCall := comments.any fun c => speaksOf callMark c.text
  ofFunction := comments.any fun c => speaksOf functionMark c.text

/-- The state at the next token. -/
def State.advanced (s : State) (isFirst : Bool) : Except SyntaxError State := do
  let g ← skipGap (s.left + 1) { newline := isFirst, left := s.left, rest := s.rest }
  let found ← scan g.left g.rest
  let raw := if found.kind matches .name | .privateName | .escapedKeyword then
      String.ofList (g.rest.take found.length)
    else found.text
  return { s with
    token := ⟨found.kind, found.text, raw, g.left, g.newline, g.comments, promiseOf g.comments⟩
    left := g.left - found.length
    rest := g.rest.drop found.length
    problems := s.problems ++ found.problems.map fun (offset, message) => SyntaxError.mk (g.left - offset) message
    markup := g.markup <|> s.markup
    awaitName := none }

namespace Parse

def token : Parse Token := do return (← get).token

/-- The place of the current token. -/
def place : Parse Place := do return (← token).place

def fromExcept {α : Type} : Except SyntaxError α → Parse α
  | .ok a => return a
  | .error e => throw e

def advance : Parse Unit := do
  set (← fromExcept ((← get).advanced false))

/-- Notes an error and goes on. -/
def note (place : Place) (message : String) : Parse Unit :=
  modify fun s => { s with problems := s.problems ++ [⟨place, message⟩] }

def failAt {α : Type} (place : Place) (message : String) : Parse α := throw ⟨place, message⟩

/-- The current token as messages show it. -/
def found : Parse String := do
  let t ← token
  return if t.kind = .finish then "end of file" else Text.quoted t.raw

def unexpected {α : Type} : Parse α := do failAt (← place) ("Unexpected " ++ (← found))

/-- Refuses the current token; `what` is what should stand there. After the word `await` as a name, that word is to
blame. -/
def refuse {α : Type} (what : String) : Parse α := do
  if let some awaitPlace := (← get).awaitName then
    failAt awaitPlace "\"await\" can only be used inside an \"async\" function"
  failAt (← place) ("Expected " ++ what ++ " but found " ++ (← found))

def refuseMark {α : Type} (mark : String) : Parse α := refuse (Text.quoted mark)

def seesKind (kind : Kind) : Parse Bool := do return (← token).kind = kind

def sees (mark : String) : Parse Bool := do
  let t ← token
  return t.kind = .mark && t.text = mark

def seesAny (marks : List String) : Parse Bool := do
  let t ← token
  return t.kind = .mark && marks.contains t.text

def seesKeyword (word : String) : Parse Bool := do
  let t ← token
  return t.kind = .keyword && t.text = word

/-- Whether the current token is a name written exactly like this word. -/
def seesWord (word : String) : Parse Bool := do
  let t ← token
  return t.kind = .name && t.raw = word

def seesName : Parse Bool := seesKind .name

/-- Whether the current token is a name or a keyword, written in any way. -/
def seesMemberName : Parse Bool := do return (← token).kind matches .name | .keyword | .escapedKeyword

def newlineBefore : Parse Bool := do return (← token).newline

def isOver : Parse Bool := seesKind .finish

def eat (mark : String) : Parse Bool := do
  if ← sees mark then
    advance
    return true
  return false

def eatKeyword (word : String) : Parse Bool := do
  if ← seesKeyword word then
    advance
    return true
  return false

def eatWord (word : String) : Parse Bool := do
  if ← seesWord word then
    advance
    return true
  return false

def expect (mark : String) : Parse Unit := do
  if !(← eat mark) then refuseMark mark

def expectKeyword (word : String) : Parse Unit := do
  if !(← eatKeyword word) then refuseMark word

def expectWord (word : String) : Parse Unit := do
  if !(← eatWord word) then refuseMark word

/-- The text of the current token, which is taken. -/
def take : Parse String := do
  let text := (← token).text
  advance
  return text

def expectName : Parse String := do
  if ← seesName then take else refuse "identifier"

def expectString : Parse String := do
  if ← seesKind .string then take else refuse "string"

/-- A semicolon, which may be missing at a line end, before a brace and at the end of the text. -/
def endStatement : Parse Unit := do
  if (← sees ";") || !((← newlineBefore) || (← sees "\x7d") || (← isOver)) then expect ";"

/-- The result of a parser, or nothing with nothing taken. -/
def attempt {α : Type} (p : Parse α) : Parse (Option α) := fun s =>
  match p s with
  | .ok a s => .ok (some a) s
  | .error _ _ => .ok none s

/-- Takes the beginning of the current mark, which may be longer. -/
def expectStart (mark : String) : Parse Unit := do
  let s ← get
  let t := s.token
  if t.kind ≠ .mark || !mark.toList.isPrefixOf t.text.toList then refuseMark mark
  let more := t.text.toList.drop mark.length
  set (← fromExcept (State.advanced { s with left := s.left + more.length, rest := more ++ s.rest } false))

/-- Reads the current token, a slash, again as a regular expression. -/
def asRegex : Parse Unit := do
  let s ← get
  let cs := s.token.text.toList ++ s.rest
  let left := s.left + s.token.text.length
  let (found, fault) ← fromExcept (scanRegex left cs)
  set { s with
    token := { s.token with kind := .regex, text := found.text, raw := found.text }
    left := left - found.length
    rest := cs.drop found.length
    problems := s.problems ++ found.problems.map fun (offset, message) => SyntaxError.mk (left - offset) message }
  if let some e := fault then throw e

/-- Reads the current token, a closing brace, again as the part of a template that goes on there. -/
def asTemplate : Parse Unit := do
  if !(← sees "\x7d") then refuseMark "\x7d"
  let s ← get
  let cs := s.token.text.toList ++ s.rest
  let left := s.left + 1
  let found ← fromExcept (scanTemplatePart .templateTail .templateMiddle cs)
  set { s with
    token := { s.token with kind := found.kind, text := found.text, raw := found.text }
    left := left - found.length
    rest := cs.drop found.length }

/-- Refuses faulty escapes in the current token, a literal with delimiters of the given lengths. -/
def checkEscapes (opening closing : Nat) : Parse Unit := do
  let t ← token
  let cs := t.raw.toList
  let content := (cs.drop opening).take (cs.length - opening - closing)
  if let some fault := escapeFault? (content.length + 1) opening content then
    let s ← get
    let whole := cs ++ s.rest
    throw (fault.error t.place whole)

/-- A comment before the current token with its lines moved to the left. -/
def commentText (c : Comment) : Parse String := do
  let s ← get
  let before := s.text.take (s.length - c.place)
  return unindented (before.reverse.takeWhile fun c => !Text.isLineEnd c).length c.text

/-- The comments before the current token, without those that say something about what follows. -/
def commentsHere : Parse (List String) := do
  ((← token).comments.filter fun c => !isInstruction c.text).mapM commentText

/-- Runs a parser and puts back what it changes of the state except for the given parts. -/
def restoring {α β : Type} (part : State → β) (put : β → State → State) (p : Parse α) : Parse α := do
  let before := part (← get)
  let a ← p
  modify (put before)
  return a

/-- Runs a parser with `in` as an operator or not. -/
def allowingIn {α : Type} (allow : Bool) (p : Parse α) : Parse α :=
  restoring (·.allowIn) (fun b s => { s with allowIn := b }) do
    modify fun s => { s with allowIn := allow }
    p

/-- Runs a parser in another setting. -/
def inSetting {α : Type} (change : Setting → Setting) (p : Parse α) : Parse α :=
  restoring (·.setting) (fun b s => { s with setting := b }) do
    modify fun s => { s with setting := change s.setting }
    p

/-- Opens a scope, which has to be closed. -/
def openScope (kind : ScopeKind) : Parse ScopeId := do
  let s ← get
  let (table, id) := s.table.addScope kind (some s.scope)
  set { s with table, scope := id }
  return id

def closeScope : Parse Unit :=
  modify fun s => { s with scope := ((s.table.scope? s.scope).bind (·.parent)).getD 0 }

/-- Runs a parser in a scope of its own. -/
def inScope {α : Type} (kind : ScopeKind) (p : ScopeId → Parse α) : Parse α := do
  let id ← openScope kind
  let a ← p id
  closeScope
  return a

/-- Drops the scopes that were opened since. -/
def dropScopesFrom (count : Nat) : Parse Unit :=
  modify fun s => { s with table := { s.table with scopes := s.table.scopes.take count } }

def scopeCount : Parse Nat := do return (← get).table.scopes.size

/-- Makes the current scope stricter. -/
def makeStrict : Parse Unit := modify fun s =>
  let strict (scope : Scope) : Scope := { scope with strictness := .directive }
  let table := s.table.modifyScope s.scope strict
  match s.table.scope? s.scope with
  | some { kind := .functionBody, parent := some outer, .. } =>
    { s with table := table.modifyScope outer fun o =>
        if o.kind = .params && o.strictness = .sloppy then strict o else o }
  | _ => { s with table }

/-- Declares a name in the current scope, unless everything is only declared and not defined. -/
def declare (kind : SymbolKind) (name : String) (place : Place) : Parse SymbolId := do
  let s ← get
  if s.inDeclare then return 0
  let (table, id, clashes) := s.table.declare s.scope kind name place
  set { s with table }
  if clashes then note place ("The symbol " ++ Text.quoted name ++ " has already been declared")
  return id

/-- A symbol that is not a member of a scope. -/
def newSymbol (kind : SymbolKind) (name : String) : Parse SymbolId := do
  let s ← get
  let (table, id) := s.table.addSymbol { name, kind }
  set { s with table }
  return id

/-- A symbol that belongs to the current scope without being declared. -/
def generate (kind : SymbolKind) (name : String) : Parse SymbolId := do
  let id ← newSymbol kind name
  modify fun s =>
    { s with table := s.table.modifyScope s.scope fun scope => { scope with generated := scope.generated ++ [id] } }
  return id

/-- Runs a parser of something that is only declared: nothing of it is kept but its errors. -/
def declaring {α : Type} (p : Parse α) : Parse α := do
  let before ← get
  modify fun s => { s with inDeclare := true }
  let a ← p
  modify fun s => { s with inDeclare := before.inDeclare, table := before.table, scope := before.scope }
  return a

/-- Repeats a parser until it gives nothing, at most as often as characters are left. -/
def many {α : Type} (p : Parse (Option α)) : Parse (List α) := do
  go ((← place) + 1)
where
  go : (fuel : Nat) → Parse (List α)
    | 0 => return []
    | fuel + 1 => do
      match ← p with
      | none => return []
      | some a => return a :: (← go fuel)

/-- Items with commas between, up to the closing mark, which is not taken; one comma may follow the last item. The flag
tells whether they go over several lines. -/
def listed {α : Type} (close : String) (p : Parse α) : Parse (List α × Bool) := do
  let breaks ← newlineBefore
  let (items, more) ← go ((← place) + 1)
  return (items, breaks || more || (← newlineBefore))
where
  go : (fuel : Nat) → Parse (List α × Bool)
    | 0 => return ([], false)
    | fuel + 1 => do
      if ← sees close then return ([], false)
      let a ← p
      if !(← sees ",") then return ([a], false)
      let before ← newlineBefore
      advance
      let after ← newlineBefore
      let (items, more) ← go fuel
      return (a :: items, before || after || more)

end Parse

end Distill.TypeScript
