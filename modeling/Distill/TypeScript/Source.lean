import Distill.TypeScript.Problem
import Distill.TypeScript.Statement

/-!
Source modules: the statements of a whole text with its symbols and scopes.
-/
namespace Distill.TypeScript

open Script (SyntaxError)

/-- The grammar with so many levels of nesting. -/
def grammar : (depth : Nat) → Grammar
  | 0 => {
    first := fun _ _ => Parse.unexpected
    expression := fun _ _ => Parse.unexpected
    suffixes := fun _ _ _ => Parse.unexpected
    statement := fun _ => Parse.unexpected
    type := fun _ _ => Parse.unexpected }
  | depth + 1 => {
    first := fun level aim => (grammar depth).firstOf level aim
    expression := fun level aim => (grammar depth).expressionOf level aim
    suffixes := fun level aim e s => (grammar depth).suffixesOf level aim (s.token.place + 1) false e s
    statement := fun p => (grammar depth).statementOf p
    type := fun p level => (grammar depth).typeOf p level }

/-- A text that was read. -/
structure Source where
  /-- The first line if it names an interpreter. -/
  interpreter : Option String
  body : List Stmt
  table : SymbolTable
  /-- Whether it is a module and hence strict. -/
  isModule : Bool
  /-- Where the last comment in the style of markup starts. -/
  markup : Option Place
  /-- The names of types declared outside of all blocks. -/
  types : List String
  /-- Errors that do not keep it from being read. -/
  errors : List SyntaxError

/-- The length of the first line if it names an interpreter. -/
def interpreterLength : List Char → Nat
  | '#' :: '!' :: rest => (rest.takeWhile fun c => !Text.isLineEnd c).length + 2
  | _ => 0

/-- The state before the first token. -/
def State.start (text : List Char) : State :=
  let length := text.length
  let first := interpreterLength text
  { text, length, token := ⟨.finish, "", "", length, true, [], {}⟩, left := length - first, rest := text.drop first
    table := (({} : SymbolTable).addScope .entry none).1
    setting := { await := .operator, isTopLevel := true } }

/-- Reads a whole text. What cannot be read leaves its errors. -/
def Source.read (text : List Char) : Except (List SyntaxError) Source :=
  let start := State.start text
  let parser : Parse (List Stmt) := do
    set (← Parse.fromExcept ((← get).advanced true))
    (grammar (2 * text.length + 8)).statementsTo { declarations := .allowed, inModule := true } Parse.isOver
      (text.length + 1) true
  match parser start with
  | .error e s => .error (s.problems ++ [e])
  | .ok body s =>
    let first := interpreterLength text
    .ok {
      interpreter := if first = 0 then none else some (String.ofList (text.take first))
      body, table := s.table, isModule := s.hasImport || s.hasExport, markup := s.markup, types := s.types
      errors := s.problems }

end Distill.TypeScript
