import Distill.TypeScript.Symbol

/-!
Hoisting: variables that are declared in a block belong to the function around it. In a text that is not strict, a
function declared in a block also has a variable of that function.
-/
namespace Distill.TypeScript

open Script (SyntaxError)

/-- What hoisting changes. -/
structure Hoisting where
  table : SymbolTable
  /-- The variable of a function that is declared in a block. -/
  functionVars : List (SymbolId × SymbolId) := []
  errors : List SyntaxError := []

namespace Hoisting

def note (h : Hoisting) (name : String) (place : Option Place) : Hoisting :=
  { h with errors := h.errors ++ [⟨place.getD 0, "The symbol " ++ Text.quoted name ++ " has already been declared"⟩] }

/-- Whether a name that is hoisted shares the symbol that is found in a scope on the way. -/
def shares (scope : ScopeKind) (found : SymbolKind) : Bool :=
  match found with
  | .unbound | .hoisted => true
  | kind => kind.isFunction && (scope = .entry || scope = .functionBody)

/-- Carries a variable through the scopes around its block. `block` is the symbol of the function that it belongs to,
if it does. -/
def climb (name : String) (m : ScopeMember) (block : Option SymbolId) :
    (isFirst : Bool) → List (ScopeId × Scope) → Hoisting → Hoisting
  | _, [], h => h
  | isFirst, (id, scope) :: around, h =>
    let h := if scope.kind = .withBlock then
        { h with table := h.table.modifySymbol m.symbol fun s => { s with isFixed := true } }
      else h
    let put (h : Hoisting) : Hoisting := { h with table := h.table.modifyScope id fun s => s.put name m }
    let goOn (h : Hoisting) : Hoisting :=
      if scope.kind.stopsHoisting then put h else climb name m block false around h
    match scope.find? name with
    | none => goOn h
    | some found =>
      let kind := h.table.kindOf found.symbol
      if shares scope.kind kind then
        { h with table := h.table.modifySymbol m.symbol fun s => { s with link := some found.symbol } }
      else if kind = .caught || kind = .arguments then
        goOn (put { h with table := h.table.modifySymbol found.symbol fun s => { s with link := some m.symbol } })
      else match block with
        | none => h.note name m.place
        | some function =>
          if isFirst then { h with functionVars := h.functionVars.filter (·.1 ≠ function) } else h

/-- Hoists one name out of its scope. -/
def hoistMember (id : ScopeId) (scope : Scope) (h : Hoisting) (entry : String × ScopeMember) : Hoisting :=
  let name : String := entry.1
  let m : ScopeMember := entry.2
  let kind : SymbolKind := h.table.kindOf m.symbol
  let around : List (ScopeId × Scope) := (h.table.enclosing id).drop 1
  let isBound := around.head?.any fun (_, parent) =>
    parent.kind = .handler && kind ≠ .hoisted && (parent.find? name).isSome
  if isBound then h.note name m.place
  else match kind with
    | .hoisted => climb name m none true around h
    | .function =>
      if scope.strictness ≠ .sloppy then h
      else
        let (table, outer) := h.table.addSymbol { name, kind := .hoisted }
        let table := table.modifyScope id fun s => { s with generated := s.generated ++ [outer] }
        let h := { h with table, functionVars := h.functionVars ++ [(m.symbol, outer)] }
        climb name { m with symbol := outer } (some m.symbol) true around h
    | _ => h

/-- Notes functions that are declared twice where that is not allowed. -/
def noteRepeated (isModule : Bool) (scope : Scope) (h : Hoisting) : Hoisting :=
  let isChecked := scope.strictness ≠ .sloppy && scope.kind = .block || scope.parent.isNone && isModule
  if !isChecked then h
  else scope.replaced.foldl (fun h old =>
    let name := h.table.nameOf old.symbol
    match scope.find? name with
    | some m =>
      if (h.table.kindOf old.symbol).isFunction && (h.table.kindOf m.symbol).isFunction then h.note name m.place else h
    | none => h) h

/-- Hoists the names out of one scope, in the order of their symbols. -/
def hoistFrom (isModule : Bool) (h : Hoisting) (id : ScopeId) : Hoisting :=
  match h.table.scope? id with
  | none => h
  | some scope =>
    let h := noteRepeated isModule scope h
    if scope.kind.stopsHoisting then h
    else (scope.members.mergeSort fun a b => a.2.symbol ≤ b.2.symbol).foldl (hoistMember id scope) h

end Hoisting

/-- The table with every scope of a module strict. -/
def SymbolTable.asModule (t : SymbolTable) : SymbolTable :=
  { t with scopes := t.scopes.map fun s => if s.strictness = .sloppy then { s with strictness := .inModule } else s }

/-- The table with the scopes of classes strict. Scopes come after the scopes around them. -/
def SymbolTable.withStrictClasses (t : SymbolTable) : SymbolTable :=
  (List.range t.scopes.size).foldl (fun t id =>
    match t.scope? id with
    | none => t
    | some s =>
      let inClass := (s.parent.bind t.scope?).any (·.strictness = .inClass)
      if s.strictness = .sloppy && (s.kind = .className || inClass) then
        t.modifyScope id fun s => { s with strictness := .inClass }
      else t) t

/-- Hoists all variables of a text. -/
def SymbolTable.hoist (t : SymbolTable) (isModule : Bool) : Hoisting :=
  let t := if isModule then t.asModule else t
  let h := (List.range t.scopes.size).foldl (Hoisting.hoistFrom isModule) { table := t }
  { h with table := h.table.withStrictClasses }

end Distill.TypeScript
