import Distill.Module.Basic
import Distill.Script.Print
import Distill.Script.Statement

/-!
The parser of modules. Imports and export lists are read from the token stream alone; exported declarations and
statements are parsed and kept as their text.
-/
namespace Distill.Module

open Script (Stream SyntaxError Position)

/-- What a token can be in an import or export list. -/
def isName (s : Stream) : Bool := s.token.kind = .word

def isNameOrString (s : Stream) : Bool := s.token.kind = .word || s.token.kind = .string

/-- Whether the current word can be bound by an import. -/
def isBindable (s : Stream) : Bool :=
  isName s && (s.token.text = "yield" || !Script.reservedWords.contains s.token.text)

def expectPunctuator (context p : String) (s : Stream) : Except SyntaxError Stream :=
  if s.isPunctuator p then .ok s.advance else .error (s.complaint context [p])

def expectWord (context w : String) (s : Stream) : Except SyntaxError Stream :=
  if s.isWord w then .ok s.advance else .error (s.complaint context [w])

/-- The string that names a module. -/
def source (context : String) (s : Stream) : Except SyntaxError (String × Stream) :=
  if s.token.kind = .string then .ok (s.token.text, s.advance) else .error (s.complaint context ["String"])

/-- A semicolon, if there is one, even on a later line. -/
def dropSemicolon (s : Stream) : Stream := if s.isPunctuator ";" then s.advance else s

/-- An entry of an import list. -/
def importAlias (s : Stream) : Except SyntaxError (Alias × Stream) :=
  let after := s.advance
  if after.isWord "as" then
    let target := after.advance
    if isBindable target then .ok (⟨some s.token.text, some target.token.text⟩, target.advance)
    else .error (target.complaint "import statement" ["Identifier"])
  else if isBindable s then .ok (⟨none, some s.token.text⟩, after)
  else .error (after.complaint "import statement" ["Identifier", "String"])

/-- An entry of an export list. -/
def exportAlias (s : Stream) : Except SyntaxError (Alias × Stream) :=
  let after := s.advance
  if after.isWord "as" then
    let target := after.advance
    if isNameOrString target then .ok (⟨some s.token.text, some target.token.text⟩, target.advance)
    else .error (target.complaint "export statement" ["Identifier", "String"])
  else .ok (⟨none, some s.token.text⟩, after)

/-- The entries of a list and its closing brace. Commas may be missing; one before the brace leaves an empty entry. -/
def aliases (context : String) (entry : Stream → Except SyntaxError (Alias × Stream)) :
    (fuel : Nat) → Stream → Except SyntaxError (List Alias × Stream)
  | 0, s => .error (s.complaint context ["\x7d"])
  | fuel + 1, s =>
    if isNameOrString s then do
      let (a, s) ← entry s
      if s.isPunctuator "," then
        let s := s.advance
        if s.isPunctuator "\x7d" then return ([a, ⟨none, none⟩], s.advance)
        let (rest, s) ← aliases context entry fuel s
        return (a :: rest, s)
      let (rest, s) ← aliases context entry fuel s
      return (a :: rest, s)
    else do return ([], ← expectPunctuator context "\x7d" s)

/-- What an import binds besides its default: a namespace, a list, or nothing. -/
def importBindings (s : Stream) : Except SyntaxError (Option (List Alias) × Stream) :=
  if s.isPunctuator "*" then do
    let s ← expectWord "import statement" "as" s.advance
    if isBindable s then return (some [⟨some "*", some s.token.text⟩], s.advance)
    else throw (s.complaint "import statement" ["Identifier"])
  else if s.isPunctuator "\x7b" then do
    let (as, s) ← aliases "import statement" importAlias (s.remaining + 1) s.advance
    return (some as, s)
  else .ok (none, s)

/-- The module that an import names, and its end. -/
def importSource (default : Option String) (bindings : Option (List Alias)) (s : Stream) :
    Except SyntaxError (Item × Stream) := do
  let s ← expectWord "import statement" "from" s
  let (text, s) ← source "import statement" s
  return (.importing default bindings (some text), dropSemicolon s)

/-- An import after its first word. -/
def importItem (s : Stream) : Except SyntaxError (Item × Stream) :=
  if s.token.kind = .string then .ok (.importing none none (some s.token.text), dropSemicolon s.advance)
  else if isBindable s then do
    let default := some s.token.text
    let s := s.advance
    if s.isPunctuator "," then
      match ← importBindings s.advance with
      | (none, s) => throw (s.complaint "import statement" ["*", "\x7b"])
      | (some as, s) => importSource default (some as) s
    else importSource default none s
  else do
    match ← importBindings s with
    | (none, s) => throw (s.complaint "import statement" ["String", "Identifier", "*", "\x7b"])
    | (some as, s) => importSource none (some as) s

/-- The module that an export names, and its end. -/
def exportSource (names : List Alias) (s : Stream) : Except SyntaxError (Item × Stream) := do
  if s.isWord "from" then
    let (text, s) ← source "export statement" s.advance
    return (.exporting names (some text), dropSemicolon s)
  return (.exporting names none, dropSemicolon s)

/-- An export of a star or a list, after the word `export`. -/
def exportList (s : Stream) : Except SyntaxError (Item × Stream) :=
  if s.isPunctuator "*" then do
    let after := s.advance
    if after.isWord "as" then
      let target := after.advance
      if !isNameOrString target then throw (target.complaint "export statement" ["Identifier", "String"])
      let rest := target.advance
      if !rest.isWord "from" then throw (rest.complaint "export statement" ["from"])
      exportSource [⟨some "*", some target.token.text⟩] rest
    else
      if !after.isWord "from" then throw (after.complaint "export statement" ["from"])
      exportSource [⟨none, some "*"⟩] after
  else do
    let s ← expectPunctuator "export statement" "\x7b" s
    let (names, s) ← aliases "export statement" exportAlias (s.remaining + 1) s
    exportSource names s

open Script (Parse Grammar Level)

/-- What may follow the word `export`. -/
def exportable : List String := ["*", "\x7b", "var", "let", "const", "function", "async", "class", "default"]

/-- The text of an exported default. Functions and classes are declared, and need no name. -/
def exportDefault (g : Grammar) : Parse String := do
  if ← Parse.eatWord "function" then return (← g.functionRest false false).render ""
  if ← Parse.eatWord "async" then
    if (← Parse.seesWord "function") && !(← Parse.newlineBefore) then
      Parse.advance
      return (← g.functionRest true false).render ""
    return (← g.asyncRest Level.assign).render false ""
  if ← Parse.eatWord "class" then return (← g.classRest false).render ""
  return (← g.expressionOf Level.assign).render false ""

/-- An exported declaration after the word `export`. -/
def exportDeclaration (g : Grammar) : Parse Item := do
  let declared (b : Script.Binder) : Parse Item := do
    Parse.advance
    return .exportDeclaration false ((Script.Stmt.declaration b (← g.declarators b false)).render .head "")
  if ← Parse.seesWord "var" then return ← declared .var
  if ← Parse.seesWord "let" then return ← declared .lexical
  if ← Parse.seesWord "const" then return ← declared .constant
  if ← Parse.eatWord "function" then return .exportDeclaration false ((← g.functionRest false false).render "")
  if ← Parse.eatWord "async" then
    if (← Parse.newlineBefore) || !(← Parse.eatWord "function") then Parse.fail "export statement" ["function"]
    return .exportDeclaration false ((← g.functionRest true false).render "")
  if ← Parse.eatWord "class" then return .exportDeclaration false ((← g.classRest false).render "")
  if ← Parse.eatWord "default" then return .exportDeclaration true (← exportDefault g)
  Parse.fail "export statement" exportable

/-- Runs a parser of the token stream alone. -/
def onStream (p : Stream → Except SyntaxError (Item × Stream)) : Parse Item := fun state =>
  match p state.stream with
  | .ok (item, stream) => .ok (item, { state with stream })
  | .error e => .error e

/-- A call of `import` as a statement; the current token is the opening parenthesis. -/
def importCall (g : Grammar) : Parse Item := do
  let e ← Parse.deeperExpression (g.suffixes Level.list (.word "import") Level.call)
  if !(← Parse.newlineBefore) then
    let _ ← Parse.eat ";"
  return .statement ((Script.Stmt.expression e).render .line "")

/-- A top-level item. -/
def item (g : Grammar) : Parse Item := do
  if ← Parse.eatWord "import" then
    if ← Parse.sees "(" then importCall g else onStream importItem
  else if ← Parse.eatWord "export" then
    if (← Parse.sees "*") || (← Parse.sees "\x7b") then onStream exportList
    else
      modify fun s => { s with allowNameless := true }
      let item ← exportDeclaration g
      let _ ← Parse.eat ";"
      modify fun s => { s with allowNameless := false }
      return item
  else return .statement ((← g.statementOf true).render .line "")

/-- The items up to the end of the text or up to what is no token. -/
def items (g : Grammar) : Parse (List Item) :=
  Parse.many do
    if ← Parse.isOver then return none
    return some (← item g)

/-- A module with its kept comments in front, unless the text ends at what is no token. -/
def parseItems (g : Grammar) : Parse Module := do
  let items ← items g
  let s ← Parse.stream
  match s.token.kind with
  | .broken message offset => throw ⟨s.rest.length - offset, message⟩
  | _ => return s.notices.map Item.statement ++ items

/-- Where and why a text is no module. -/
structure Problem where
  position : Position
  message : String
deriving DecidableEq, Repr

/-- The module that a text holds. -/
def parse (text : String) : Except Problem Module :=
  let cs := text.toList
  let start : Script.State :=
    { stream := Stream.ofText cs, scopes := [{ isFunction := true }] }
  match parseItems (Script.grammar (2 * cs.length + 8)) start with
  | .ok (m, _) => .ok m
  | .error e => .error ⟨Script.positionOf cs e.remaining, e.message⟩

end Distill.Module
