import Distill.TypeScript.Token

/-!
Syntax trees of TypeScript without its types. Expressions and statements know their place, and what opens a scope knows
the number of that scope. Patterns are expressions: arrays and objects, with `=` for defaults and a spread for the rest.
-/
namespace Distill.TypeScript

abbrev ScopeId := Nat

abbrev SymbolId := Nat

/-- A value that is known without running anything. -/
inductive Constant where
  | undefined
  | null
  | truth (value : Bool)
  /-- A number by its sign and by the normal form of its magnitude, or `NaN`. -/
  | number (isNegative : Bool) (magnitude : String)
  /-- An integer of any size by its digits, without separators and without the mark at its end. -/
  | integer (digits : String)
  /-- A text by its code points, and whether it is written as a template. -/
  | text (codePoints : List Nat) (isTemplate : Bool)
deriving DecidableEq, Repr

/-- How something is said about the type of an expression. -/
inductive Assertion where
  /-- A type that it has, or a mark that there is a value. -/
  | claim
  /-- Type arguments without a call. -/
  | application
deriving DecidableEq, Repr

/-- How a list in brackets is laid out. -/
structure Layout where
  /-- Whether it goes over several lines. -/
  isMultiLine : Bool := false
  /-- The comma after a rest element, which a pattern may not have. -/
  commaAfterRest : Option Place := none
  /-- The comments before the closing bracket. -/
  closing : List String := []
  /-- Whether a call with these arguments is said to have no effect. -/
  isPure : Bool := false
deriving DecidableEq, Repr

/-- A name that is declared. -/
structure Declared where
  name : String
  place : Place
  symbol : SymbolId
deriving DecidableEq, Repr

structure FunctionHead where
  place : Place
  name : Option Declared := none
  isAsync : Bool := false
  isGenerator : Bool := false
  /-- The scope of the parameters. -/
  outer : ScopeId
  /-- The scope of the body. -/
  inner : ScopeId
  /-- The scope around a function that is a branch of an `if`. -/
  branch : Option ScopeId := none
  /-- The parameters that are fields as well. -/
  fields : List String := []
  /-- Whether calls of it are said to have no effect. -/
  isPure : Bool := false
deriving DecidableEq, Repr

structure ClassHead where
  place : Place
  name : Option Declared
  /-- The scope in which the class itself has its name. -/
  outer : ScopeId
  /-- The scope of the private names. -/
  inner : ScopeId
deriving DecidableEq, Repr

/-- What a method is besides its key and its function. -/
structure MethodHead where
  isStatic : Bool := false
  isGetter : Bool := false
  isSetter : Bool := false
deriving DecidableEq, Repr

/-- How a declaration binds its names. -/
inductive Binder where
  | var
  | lexical
  | constant
  | using
  | awaitUsing
deriving DecidableEq, Repr

def Binder.keyword : Binder → String
  | .var => "var"
  | .lexical => "let"
  | .constant => "const"
  | .using => "using"
  | .awaitUsing => "await using"

structure DeclarationHead where
  binder : Binder
  isExported : Bool := false
  /-- Whether it is an import that is an assignment. -/
  isAlias : Bool := false
deriving DecidableEq, Repr

/-- An entry of an import or export list. -/
structure Entry where
  name : String
  newName : String
  /-- The place of the name that counts: what is bound, or what is exported. -/
  place : Place
  /-- Whether one of the names is written as a string. -/
  isQuoted : Bool := false
  /-- The symbol that the entry binds or exports. -/
  symbol : Option SymbolId := none
deriving DecidableEq, Repr

/-- What an import demands of a module besides its name, after the word `with` or `assert`. -/
structure Attributes where
  word : String
  /-- Keys as they are written and values as literals. -/
  entries : List (String × String)
deriving DecidableEq, Repr

/-- The literal that names a module, with the attributes of the import. -/
structure Origin where
  text : String
  attributes : Option Attributes := none
deriving DecidableEq, Repr

structure Import where
  default : Option Declared := none
  star : Option Declared := none
  entries : Option (List Entry) := none
  origin : Origin
  /-- The symbol for the whole module. -/
  space : SymbolId
deriving DecidableEq, Repr

mutual

inductive Expr where
  | mk (place : Place) (comments : List String) (node : Node)

inductive Node where
  | name (text : String)
  /-- A name that was looked up. -/
  | symbol (id : SymbolId)
  /-- A word with a fixed meaning: `this`, `null`, `true`, `false`, `super`, `import.meta`, `new.target`. -/
  | word (text : String)
  | privateName (text : String)
  | number (text : String)
  | bigInteger (text : String)
  | string (text : String)
  | regex (text : String)
  | value (c : Constant)
  /-- The head and the texts of the spans hold their delimiters. -/
  | template (tag : Option Expr) (head : String) (spans : List Expr)
  /-- A substitution of a template with the text after it. -/
  | span (value : Expr) (text : String)
  | array (layout : Layout) (items : List Expr)
  /-- A missing element of an array. -/
  | hole
  | spread (value : Expr)
  | object (layout : Layout) (members : List Member)
  /-- A key in brackets. -/
  | computed (value : Expr)
  | function (f : Function)
  /-- The body of a concise arrow function is what it gives back. -/
  | arrow (isConcise : Bool) (f : Function)
  | classExpr (c : Class)
  | unary (op : String) (operand : Expr)
  | suffix (op : String) (operand : Expr)
  | binary (op : String) (left right : Expr)
  | conditional (test yes no : Expr)
  | call (callee : Expr) (isOptional : Bool) (layout : Layout) (args : List Expr)
  | construct (callee : Expr) (layout : Layout) (args : List Expr)
  | dot (object : Expr) (isOptional : Bool) (member : String)
  | index (object : Expr) (isOptional : Bool) (key : Expr)
  | yielding (delegates : Bool) (operand : Option Expr)
  | importing (source : Expr) (options : Option Expr)
  | group (inner : Expr)
  /-- An expression about whose type something is said. -/
  | assertion (kind : Assertion) (inner : Expr)

/-- A member of an object, an object pattern or a class. -/
inductive Member where
  | mk (place : Place) (comments : List String) (decorators : List Expr) (node : MemberNode)

inductive MemberNode where
  | entry (key value : Expr)
  /-- A name for itself, with a default in a pattern. -/
  | shorthand (name : String) (init : Option Expr)
  | spread (value : Expr)
  | method (head : MethodHead) (key : Expr) (f : Function)
  | field (isStatic isAccessor : Bool) (key : Expr) (init : Option Expr)
  | staticBlock (scope : ScopeId) (body : List Stmt)

inductive Function where
  | mk (head : FunctionHead) (params : List Expr) (body : List Stmt)

inductive Class where
  | mk (head : ClassHead) (decorators : List Expr) (base : Option Expr) (members : List Member)

inductive Stmt where
  | mk (place : Place) (node : StmtNode)

inductive StmtNode where
  | empty
  | debugger
  /-- A string at the beginning of a body. -/
  | directive (text : String)
  | block (scope : ScopeId) (body : List Stmt)
  | expression (value : Expr)
  /-- A name or pattern with its value is an assignment. -/
  | declaration (head : DeclarationHead) (bindings : List Expr)
  | function (isExported : Bool) (f : Function)
  | classDecl (isExported : Bool) (c : Class)
  | branch (test : Expr) (yes : Stmt) (no : Option Stmt)
  | loop (test : Expr) (body : Stmt)
  | loopOnce (body : Stmt) (test : Expr)
  /-- The first part is a declaration or an expression. -/
  | count (scope : ScopeId) (init : Option Stmt) (test post : Option Expr) (body : Stmt)
  | eachKey (scope : ScopeId) (head : Stmt) (object : Expr) (body : Stmt)
  | eachItem (scope : ScopeId) (isAwait : Bool) (head : Stmt) (object : Expr) (body : Stmt)
  | switch (scope : ScopeId) (subject : Expr) (clauses : List Stmt)
  /-- A clause of a switch; without test it is the default. -/
  | clause (test : Option Expr) (body : List Stmt)
  /-- `break` or `continue`. -/
  | jump (word : String) (label : Option (String × Place))
  | giveBack (value : Option Expr)
  | throw (value : Expr)
  | attempt (scope : ScopeId) (body : List Stmt) (handler last : Option Stmt)
  /-- What a `try` does with an error; the first scope is that of the binding. -/
  | handler (outer inner : ScopeId) (binding : Option Expr) (body : List Stmt)
  | labeled (scope : ScopeId) (label : String) (body : Stmt)
  | withScope (scope : ScopeId) (object : Expr) (body : Stmt)
  /-- A comment that is kept. -/
  | notice (text : String)
  /-- What only speaks of types. -/
  | typeOnly
  | importing (i : Import)
  | exporting (entries : List Entry) (origin : Option Origin)
  | exportStar (name : Option Entry) (origin : Origin)
  /-- The value is an expression, a function or a class; the place is that of the word `default`. -/
  | exportDefault (keyword : Place) (value : Stmt)
  /-- The value of the whole module. -/
  | exportWhole (value : Expr)

end

instance : Inhabited Node := ⟨.hole⟩
instance : Inhabited Expr := ⟨.mk 0 [] .hole⟩
instance : Inhabited Stmt := ⟨.mk 0 .empty⟩

namespace Expr

/-- An expression without comments. -/
def plain (place : Place) (node : Node) : Expr := .mk place [] node

def place : Expr → Place
  | .mk place _ _ => place

def comments : Expr → List String
  | .mk _ comments _ => comments

def node : Expr → Node
  | .mk _ _ node => node

/-- The expression without parentheses and assertions around it. -/
def core : Expr → Expr
  | .mk place comments node =>
    match node with
    | .group inner => inner.core
    | .assertion _ inner => inner.core
    | _ => .mk place comments node

/-- Another expression in the place of this one. -/
def replace (e : Expr) (node : Node) : Expr := .mk e.place e.comments node

end Expr

mutual

/-- The symbols that a pattern binds, each with its place. -/
def Expr.boundSymbols : Expr → List (SymbolId × Place)
  | .mk place _ node => node.boundSymbols place

def Node.boundSymbols (place : Place) : Node → List (SymbolId × Place)
  | .symbol id => [(id, place)]
  | .array _ items => symbolsInItems items
  | .object _ members => symbolsInMembers members
  | .spread value => value.boundSymbols
  | .binary _ target _ => target.boundSymbols
  | _ => []

def symbolsInItems : List Expr → List (SymbolId × Place)
  | [] => []
  | e :: rest => e.boundSymbols ++ symbolsInItems rest

def Member.boundSymbols : Member → List (SymbolId × Place)
  | .mk _ _ _ node => node.boundSymbols

def MemberNode.boundSymbols : MemberNode → List (SymbolId × Place)
  | .entry _ value => value.boundSymbols
  | .spread value => value.boundSymbols
  | _ => []

def symbolsInMembers : List Member → List (SymbolId × Place)
  | [] => []
  | m :: rest => m.boundSymbols ++ symbolsInMembers rest

end

mutual

/-- Whether an optional access stands on the spine of an expression. Parentheses end the spine. -/
def Expr.isChain : Expr → Bool
  | .mk _ _ node => node.isChain

def Node.isChain : Node → Bool
  | .dot object isOptional _ => isOptional || object.isChain
  | .index object isOptional _ => isOptional || object.isChain
  | .call callee isOptional _ _ => isOptional || callee.isChain
  | .assertion _ inner => inner.isChain
  | _ => false

end

namespace Function

def head : Function → FunctionHead
  | .mk head _ _ => head

end Function

namespace Stmt

def place : Stmt → Place
  | .mk place _ => place

def node : Stmt → StmtNode
  | .mk _ node => node

/-- Whether a statement declares a function or a class that has a name. -/
def hasOwnName : Stmt → Bool
  | .mk _ (.function _ (.mk head _ _)) => head.name.isSome
  | .mk _ (.classDecl _ (.mk head _ _ _)) => head.name.isSome
  | _ => false

end Stmt

end Distill.TypeScript
