import Distill.TypeScript.Tree

/-!
Symbols and scopes. Every declaration makes a symbol, which is a member of the scope it stands in. Scopes form a tree
in which each knows its parent. Two declarations of one name in one scope either share what they stand for or clash.
-/
namespace Distill.TypeScript

inductive PrivateRole where
  | field
  | method
  | getter
  | setter
  | pair
deriving DecidableEq, Repr

inductive SymbolKind where
  /-- A name that nothing in the text declares. -/
  | unbound
  /-- A variable that belongs to the enclosing function, or a parameter. -/
  | hoisted
  | function
  /-- A function that is a generator or works asynchronously. -/
  | specialFunction
  /-- The plain name of a caught error. -/
  | caught
  /-- The arguments of a function. -/
  | arguments
  | classDecl
  | constant
  | imported
  | lexical
  | privateName (role : PrivateRole) (isStatic : Bool)
deriving DecidableEq, Repr

namespace SymbolKind

def isHoisted : SymbolKind → Bool
  | hoisted | function => true
  | _ => false

def isFunction : SymbolKind → Bool
  | function | specialFunction => true
  | _ => false

def isPrivate : SymbolKind → Bool
  | privateName .. => true
  | _ => false

end SymbolKind

structure Symbol where
  name : String
  kind : SymbolKind
  /-- The symbol that stands for the same. -/
  link : Option SymbolId := none
  /-- Whether it has to keep its name. -/
  isFixed : Bool := false
  /-- Whether calls of it have no effect. -/
  isPure : Bool := false
deriving DecidableEq, Repr

inductive ScopeKind where
  | block
  | withBlock
  | label
  | className
  | classBody
  | handler
  /-- The whole text. -/
  | entry
  | params
  | functionBody
  | staticBlock
deriving DecidableEq, Repr

/-- Whether variables declared inside belong here. -/
def ScopeKind.stopsHoisting : ScopeKind → Bool
  | .entry | .params | .functionBody | .staticBlock => true
  | _ => false

/-- How strictly a text is read, and why. -/
inductive Strictness where
  | sloppy
  | directive
  | inClass
  | inModule
deriving DecidableEq, Repr

structure ScopeMember where
  symbol : SymbolId
  place : Option Place
deriving DecidableEq, Repr

structure Scope where
  kind : ScopeKind
  parent : Option ScopeId
  strictness : Strictness := .sloppy
  members : List (String × ScopeMember) := []
  /-- Members whose name was declared again. -/
  replaced : List ScopeMember := []
  /-- Symbols without a declaration of their own. -/
  generated : List SymbolId := []
deriving DecidableEq, Repr

def Scope.find? (s : Scope) (name : String) : Option ScopeMember := (s.members.find? (·.1 = name)).map (·.2)

def Scope.put (s : Scope) (name : String) (m : ScopeMember) : Scope :=
  { s with members := s.members.filter (·.1 ≠ name) ++ [(name, m)] }

/-- All symbols and scopes of a text. -/
structure SymbolTable where
  symbols : Array Symbol := #[]
  scopes : Array Scope := #[]
deriving Repr

namespace SymbolTable

def symbol? (t : SymbolTable) (id : SymbolId) : Option Symbol := t.symbols[id]?

def kindOf (t : SymbolTable) (id : SymbolId) : SymbolKind := ((t.symbol? id).map (·.kind)).getD .unbound

def nameOf (t : SymbolTable) (id : SymbolId) : String := ((t.symbol? id).map (·.name)).getD ""

def scope? (t : SymbolTable) (id : ScopeId) : Option Scope := t.scopes[id]?

def modifyScope (t : SymbolTable) (id : ScopeId) (f : Scope → Scope) : SymbolTable :=
  match t.scope? id with
  | some s => { t with scopes := t.scopes.setIfInBounds id (f s) }
  | none => t

def modifySymbol (t : SymbolTable) (id : SymbolId) (f : Symbol → Symbol) : SymbolTable :=
  match t.symbol? id with
  | some s => { t with symbols := t.symbols.setIfInBounds id (f s) }
  | none => t

/-- The table with one more symbol. -/
def addSymbol (t : SymbolTable) (s : Symbol) : SymbolTable × SymbolId :=
  ({ t with symbols := t.symbols.push s }, t.symbols.size)

/-- The table with one more scope, which is as strict as its parent. -/
def addScope (t : SymbolTable) (kind : ScopeKind) (parent : Option ScopeId) : SymbolTable × ScopeId :=
  let strictness := ((parent.bind t.scope?).map (·.strictness)).getD .sloppy
  ({ t with scopes := t.scopes.push { kind, parent, strictness } }, t.scopes.size)

/-- The symbol at the end of a chain of links. -/
def follow (t : SymbolTable) (id : SymbolId) : SymbolId := go t.symbols.size id
where
  go : (fuel : Nat) → SymbolId → SymbolId
    | 0, id => id
    | fuel + 1, id =>
      match (t.symbol? id).bind (·.link) with
      | some next => go fuel next
      | none => id

/-- Makes the first symbol stand for the same as the second. -/
def merge (t : SymbolTable) (old new : SymbolId) : SymbolTable :=
  let old := t.follow old
  let new := t.follow new
  if old = new then t
  else
    let isFixed := ((t.symbol? old).map (·.isFixed)).getD false
    let t := t.modifySymbol old fun s => { s with link := some new }
    t.modifySymbol new fun s => { s with isFixed := s.isFixed || isFixed }

/-- The scopes from this one outwards. -/
def enclosing (t : SymbolTable) (id : ScopeId) : List (ScopeId × Scope) := go (t.scopes.size + 1) (some id)
where
  go : (fuel : Nat) → Option ScopeId → List (ScopeId × Scope)
    | 0, _ | _, none => []
    | fuel + 1, some id =>
      match t.scope? id with
      | some s => (id, s) :: go fuel s.parent
      | none => []

/-- The scopes right inside of this one. -/
def children (t : SymbolTable) (id : ScopeId) : List ScopeId :=
  (List.range t.scopes.size).filter fun i => (t.scope? i).bind (·.parent) = some id

end SymbolTable

/-- What becomes of a name that is declared again. -/
inductive Redeclaration where
  | forbidden
  /-- The new symbol stands for both. -/
  | replaces
  /-- The old symbol stands for both. -/
  | keeps
  /-- The new symbol stands for itself. -/
  | shadows
  /-- A getter and a setter share one symbol. -/
  | pairs
deriving DecidableEq, Repr

/-- What becomes of a name of one kind that is declared again as another in a scope of the given kind. -/
def redeclare (scope : ScopeKind) (old new : SymbolKind) : Redeclaration :=
  let isVariable (k : SymbolKind) : Bool := k.isHoisted || k.isFunction
  let isOpen := scope = .entry || scope = .functionBody || scope = .params
  match old, new with
  | .unbound, _ => .replaces
  | .imported, _ => .replaces
  | .privateName .getter a, .privateName .setter b => if a = b then .pairs else .forbidden
  | .privateName .setter a, .privateName .getter b => if a = b then .pairs else .forbidden
  | .caught, .hoisted => .replaces
  | .arguments, .hoisted => .keeps
  | .arguments, _ => .shadows
  | _, _ =>
    if isVariable old && isVariable new && (isOpen || old = new && new.isHoisted) then .replaces else .forbidden

/-- Declares a name in a scope. The flag tells whether it clashes with another declaration. -/
def SymbolTable.declare (t : SymbolTable) (scope : ScopeId) (kind : SymbolKind) (name : String) (place : Place) :
    SymbolTable × SymbolId × Bool :=
  match t.scope? scope with
  | none => (t, 0, false)
  | some s =>
    let put (t : SymbolTable) (id : SymbolId) : SymbolTable × SymbolId × Bool :=
      (t.modifyScope scope fun s => s.put name ⟨id, some place⟩, id, false)
    let (added, fresh) := t.addSymbol { name, kind }
    match s.find? name with
    | none => put added fresh
    | some old =>
      match redeclare s.kind (t.kindOf old.symbol) kind with
      | .forbidden => (t, old.symbol, true)
      | .keeps => put t old.symbol
      | .shadows => put added fresh
      | .pairs =>
        put (t.modifySymbol old.symbol fun o => { o with kind := match o.kind with
          | .privateName _ isStatic => .privateName .pair isStatic
          | k => k }) old.symbol
      | .replaces =>
        let linked := added.modifySymbol old.symbol fun o => { o with link := some fresh }
        put (linked.modifyScope scope fun s => { s with replaced := s.replaced ++ [old] }) fresh

end Distill.TypeScript
