import Distill.TypeScript.Symbol

/-!
Names for symbols. Two symbols that can be seen from one place never share a name: a symbol keeps its own name if it is
still free, and gets a number after it otherwise. The symbols of the outermost scope come first, then those of the scopes
inside of it.
-/
namespace Distill.TypeScript

/-- The names that are taken in a scope, each with the number that was last put after it. -/
abbrev TakenNames := List (String × Nat)

namespace TakenNames

def has (t : TakenNames) (name : String) : Bool := t.any (·.1 = name)

def count (t : TakenNames) (name : String) : Nat := ((t.find? (·.1 = name)).map (·.2)).getD 0

def put (t : TakenNames) (name : String) (count : Nat) : TakenNames := (name, count) :: t.filter (·.1 ≠ name)

end TakenNames

/-- The first number above `n` that makes a free name. -/
def freeNumber (isTaken : String → Bool) (name : String) : (fuel : Nat) → (n : Nat) → Nat
  | 0, n => n + 1
  | fuel + 1, n => if isTaken (name ++ toString (n + 1)) then freeNumber isTaken name fuel (n + 1) else n + 1

/-- A free name in a scope with those around it, and the names that are taken then. -/
def freeName (here : TakenNames) (around : List TakenNames) (name : String) : String × TakenNames :=
  let isTaken (name : String) : Bool := here.has name || around.any (·.has name)
  if !isTaken name then (name, here.put name 1)
  else
    let fuel := around.foldl (fun n t => n + t.length) here.length
    let n := freeNumber isTaken name fuel (if here.has name then here.count name else 1)
    let here := if here.has name then here.put name n else here
    let new := name ++ toString n
    (new, here.put new 1)

/-- The names that symbols have got. -/
abbrev Names := Array (Option String)

namespace SymbolTable

/-- Whether a symbol may get another name. -/
def isRenamed (t : SymbolTable) (id : SymbolId) : Bool :=
  match t.symbol? id with
  | some s => s.kind ≠ .unbound && !s.isFixed && !s.kind.isPrivate
  | none => false

/-- Gives a name to a symbol that has none yet. -/
def nameSymbol (t : SymbolTable) (around : List TakenNames) (state : Names × TakenNames) (id : SymbolId) :
    Names × TakenNames :=
  let (names, here) := state
  let id := t.follow id
  if (names[id]?.bind (·)).isSome || !t.isRenamed id then (names, here)
  else
    let (name, here) := freeName here around (t.nameOf id)
    (names.setIfInBounds id (some name), here)

/-- The symbols of a scope in the order in which they get their names. -/
def symbolsOf (s : Scope) : List SymbolId :=
  ((s.members.map (·.2.symbol)).mergeSort fun a b => a ≤ b) ++ s.generated

/-- Gives names to the symbols of a scope and of all scopes inside of it. -/
def nameScope (t : SymbolTable) : (fuel : Nat) → (around : List TakenNames) → Names → ScopeId → Names
  | 0, _, names, _ => names
  | fuel + 1, around, names, id =>
    match t.scope? id with
    | none => names
    | some s =>
      let (names, here) := (symbolsOf s).foldl (t.nameSymbol around) (names, [])
      (t.children id).foldl (nameScope t fuel (here :: around)) names

/-- The names that nothing else may get. -/
def reservedNames (t : SymbolTable) (evalScopes : List ScopeId) : List String :=
  let fixed := (0 :: evalScopes).flatMap fun id =>
    ((t.scope? id).map symbolsOf).getD [] |>.filterMap fun symbol =>
      (t.symbol? symbol).bind fun s => if s.kind = .unbound || s.isFixed then some s.name else none
  keywords ++ strictWords ++ fixed

/-- The table in which symbols keep their names that a text that is evaluated can see. -/
def keepNames (t : SymbolTable) (evalScopes : List ScopeId) : SymbolTable :=
  evalScopes.foldl (fun t id =>
    (((t.scope? id).map (·.members)).getD []).foldl (fun t (_, m) =>
      if t.kindOf m.symbol = .imported then t
      else t.modifySymbol m.symbol fun s => { s with isFixed := true }) t) t

/-- The names of all symbols. `topLevel` are the symbols that get their names first. -/
def rename (t : SymbolTable) (topLevel : List SymbolId) (evalScopes : List ScopeId) : Array String :=
  let t := t.keepNames evalScopes
  let reserved : TakenNames := (t.reservedNames evalScopes).map fun name => (name, 1)
  let start : Names := Array.replicate t.symbols.size none
  let (names, root) := topLevel.foldl (t.nameSymbol []) (start, reserved)
  let names := (t.children 0).foldl (t.nameScope (t.scopes.size + 1) [root]) names
  (Array.range t.symbols.size).map fun id =>
    let id := t.follow id
    (names[id]?.bind (·)).getD (t.nameOf id)

end SymbolTable

end Distill.TypeScript
