import Distill.TypeScript.Constant
import Distill.TypeScript.Hoist

/-!
Looking names up. A name stands for the symbol of the nearest scope that declares it; one that nothing declares gets a
symbol of its own in the outermost scope. What strict texts forbid is noted on the way.
-/
namespace Distill.TypeScript

open Script (SyntaxError)

/-- What surrounds the part of a text that is resolved. -/
structure Surroundings where
  text : List Char
  isModule : Bool
  /-- The variables of functions that are declared in blocks. -/
  functionVars : List (SymbolId × SymbolId)
  /-- The names of types declared outside of all blocks. -/
  types : List String
  /-- The name that is kept free for a default export without a name of its own. -/
  defaultName : String
  scope : ScopeId := 0
  /-- Whether nothing here ever runs. -/
  isDead : Bool := false
  isOutsideFunction : Bool := true
  allowsNewTarget : Bool := false
  inLoop : Bool := false
  inSwitch : Bool := false
  /-- The labels around, and whether they are labels of loops. -/
  labels : List (String × Bool) := []
  /-- The scopes through which the name `arguments` cannot be seen. -/
  forbidding : List ScopeId := []

namespace Surroundings

def within (s : Surroundings) (scope : ScopeId) : Surroundings := { s with scope }

/-- The surroundings in a body of its own, out of which no jump leads. -/
def body (s : Surroundings) (scope : ScopeId) : Surroundings :=
  { s with scope, isOutsideFunction := false, inLoop := false, inSwitch := false, labels := [] }

/-- The surroundings of what does not run if the condition holds. -/
def deadIf (s : Surroundings) (isDead : Bool) : Surroundings := { s with isDead := s.isDead || isDead }

/-- The surroundings of the value of a class member. -/
def memberValue (s : Surroundings) : Surroundings :=
  { s with allowsNewTarget := true, forbidding := s.scope :: s.forbidding }

end Surroundings

/-- What is known once names are looked up. -/
structure Resolution where
  table : SymbolTable
  errors : List SyntaxError := []
  /-- The symbols that get their names before all others. -/
  topLevel : List SymbolId := []
  /-- The symbols that are used where something runs, once for each use. -/
  uses : List SymbolId := []
  /-- The symbols that are mentioned at all. -/
  mentions : List SymbolId := []
  /-- The scopes whose names a text that is evaluated can see. -/
  evalScopes : List ScopeId := []
  /-- How often the constructor around calls that of the base. -/
  superCalls : Nat := 0
  /-- What stands for the constructor of the base, if its calls may have to store parameters. -/
  superSymbol : Option SymbolId := none

abbrev Resolve := StateM Resolution

namespace Resolve

def note (place : Place) (message : String) : Resolve Unit :=
  modify fun r => { r with errors := r.errors ++ [⟨place, message⟩] }

def strictness (s : Surroundings) : Resolve Strictness := do
  return (((← get).table.scope? s.scope).map (·.strictness)).getD .sloppy

def isStrict (s : Surroundings) : Resolve Bool := do return (← strictness s) ≠ .sloppy

/-- Notes something that a strict text forbids. -/
def noteStrict (s : Surroundings) (place : Place) (what : String) : Resolve Unit := do
  match ← strictness s with
  | .sloppy => return
  | .inModule => note place (what ++ " cannot be used in an ECMAScript module")
  | _ => note place (what ++ " cannot be used in strict mode")

def noteReserved (s : Surroundings) (place : Place) (name : String) : Resolve Unit := do
  if strictWords.contains name then noteStrict s place (Text.quoted name ++ " is a reserved word and")

/-- Notes a name that a strict text cannot declare. -/
def checkDeclared (s : Surroundings) (place : Place) (name : String) : Resolve Unit := do
  noteReserved s place name
  if name = "eval" || name = "arguments" then
    noteStrict s place ("Declarations with the name " ++ Text.quoted name)

/-- Whether a symbol belongs to the outermost scope. -/
def isOutermost (id : SymbolId) : Resolve Bool := do
  let t := (← get).table
  let member := (t.scope? 0).bind (·.find? (t.nameOf id))
  return member.any fun m => t.follow m.symbol = t.follow id

/-- Records that a symbol is declared here. -/
def recordDeclared (s : Surroundings) (id : SymbolId) : Resolve Unit := do
  if s.scope = 0 || (← isOutermost id) then modify fun r => { r with topLevel := r.topLevel ++ [id] }

def recordUse (s : Surroundings) (id : SymbolId) : Resolve Unit :=
  modify fun r => { r with
    uses := if s.isDead then r.uses else id :: r.uses
    mentions := id :: r.mentions }

/-- A symbol for the whole text that is only named so that nothing else gets its name. -/
def reserve (kind : SymbolKind) (name : String) : Resolve Unit := do
  let (table, id) := (← get).table.addSymbol { name, kind }
  modify fun r => { r with table, topLevel := r.topLevel ++ [id] }

/-- A symbol of a scope that nothing in the text declares. -/
def generate (scope : ScopeId) (name : String) : Resolve SymbolId := do
  let (table, id) := (← get).table.addSymbol { name, kind := .constant }
  modify fun r => { r with table := table.modifyScope scope fun s => { s with generated := s.generated ++ [id] } }
  return id

/-- The symbol that a name declares here. -/
def declaredSymbol (s : Surroundings) (name : String) : Resolve SymbolId := do
  let path := (← get).table.enclosing s.scope
  return ((path.findSome? fun (_, scope) => scope.find? name).map (·.symbol)).getD 0

/-- The symbol of a name that is used, and whether an object could hold it instead. -/
def lookUp (s : Surroundings) (place : Place) (name : String) : Resolve (SymbolId × Bool) := do
  let table := (← get).table
  let path := table.enclosing s.scope
  let isElsewhere (entry : ScopeId × Scope) : Bool := (entry.2.find? name).isNone
  let passed := path.takeWhile isElsewhere
  let found := (path.drop passed.length).head?
  let seen := passed ++ found.toList
  if name = "arguments" && seen.any fun (id, _) => s.forbidding.contains id then
    note place "Cannot access \"arguments\" here:"
  let id ← match found.bind fun (_, scope) => scope.find? name with
    | some m => pure m.symbol
    | none =>
      let (table, id) := table.addSymbol { name, kind := .unbound }
      modify fun r => { r with table := table.modifyScope 0 fun scope => scope.put name ⟨id, none⟩ }
      pure id
  let inWith := seen.any fun (_, scope) => scope.kind = .withBlock
  if inWith then
    modify fun r => { r with table := r.table.modifySymbol id fun symbol => { symbol with isFixed := true } }
  recordUse s id
  return (id, inWith)

/-- The names of the symbols that nothing declares. -/
def undeclared : Resolve (SymbolId → Option String) := do
  let table := (← get).table
  return fun id => if table.kindOf id = .unbound then some (table.nameOf id) else none

/-- Checks a private name. -/
def checkPrivate (s : Surroundings) (place : Place) (name : String) : Resolve Unit := do
  let (id, _) ← lookUp s place name
  if !((← get).table.kindOf id).isPrivate then
    note place ("Private name " ++ Text.quoted name ++ " must be declared in an enclosing class")

/-- Marks the scopes around a call that evaluates a text. -/
def markEval (s : Surroundings) : Resolve Unit :=
  modify fun r => { r with evalScopes := (r.table.enclosing s.scope).map (·.1) ++ r.evalScopes }

end Resolve

/-- What becomes of an expression. -/
structure Use where
  isTarget : Bool := false
  /-- Whether a default may follow the target. -/
  mayHaveDefault : Bool := false
  isParenthesised : Bool := false
  isDeleted : Bool := false
  /-- Whether more of a chain of members and calls follows. -/
  goesOn : Bool := false
  isCalled : Bool := false

namespace Resolve

/-- What a name gives that stands for itself. -/
def nameValue? (name : String) : Option Constant :=
  match name with
  | "undefined" => some .undefined
  | "NaN" => some (.number false "NaN")
  | "Infinity" => some (.number false "Infinity")
  | _ => none

/-- A name that is used. -/
def name (s : Surroundings) (use : Use) (place : Place) (text : String) : Resolve Node := do
  noteReserved s place text
  let (id, inWith) ← lookUp s place text
  let isUnbound := (← get).table.kindOf id = .unbound
  match nameValue? text with
  | some c => return if isUnbound && !inWith && !use.isTarget && !use.isDeleted then .value c else .symbol id
  | none => return .symbol id

/-- Notes something that cannot be assigned to. -/
def checkTarget (s : Surroundings) (use : Use) (place : Place) (node : Node) : Resolve Unit := do
  let isRight ← match node with
    | .name text => pure !((text = "eval" || text = "arguments") && (← isStrict s))
    | .dot .. | .index .. => pure !node.isChain
    | .array .. | .object .. => pure !use.isParenthesised
    | .binary op _ _ => pure (use.mayHaveDefault && op = "=")
    | .spread _ | .hole => pure use.mayHaveDefault
    | .group _ | .assertion .. => pure true
    | _ => pure false
  if !isRight then note place "Invalid assignment target"

/-- Notes an escape in octal digits. -/
def checkString (s : Surroundings) (place : Place) (raw : String) : Resolve Unit := do
  let content := ((raw.toList.drop 1).dropLast)
  if let some offset := octalEscape? (content.length + 1) 1 content then
    noteStrict s (place - offset) "Legacy octal escape sequences"

/-- Notes an escape in octal digits in a template. -/
def checkTemplate (place : Place) (raw : String) : Resolve Unit := do
  let content := raw.toList.drop 1
  if let some offset := octalEscape? (content.length + 1) 1 content then
    note (place - offset) "Legacy octal escape sequences cannot be used in template literals"

/-- Notes a number in octal digits. -/
def checkNumber (s : Surroundings) (place : Place) (raw : String) : Resolve Unit := do
  match raw.toList with
  | '0' :: d :: _ => if d.isDigit then noteStrict s place "Legacy octal literals"
  | _ => return

end Resolve

end Distill.TypeScript
