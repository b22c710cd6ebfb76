/-!
Syntax trees of JavaScript. Literals keep the text they were written with. A pattern is the expression that looks like
it: an array or object, with `=` for defaults and a spread for the rest.
-/
namespace Distill.Script

/-- How a declaration binds its names. -/
inductive Binder where
  | var
  | lexical
  | constant
deriving DecidableEq, Repr

def Binder.keyword : Binder → String
  | var => "var"
  | lexical => "let"
  | constant => "const"

/-- What a method is besides its name and body. -/
structure Modifiers where
  isStatic : Bool := false
  isAsync : Bool := false
  isGenerator : Bool := false
  isGetter : Bool := false
  isSetter : Bool := false
deriving DecidableEq, Repr

mutual

inductive Expr where
  | name (text : String)
  /-- A word with a fixed meaning: `this`, `null`, `super`, `import.meta`. -/
  | word (text : String)
  | number (text : String)
  | string (text : String)
  | regex (text : String)
  /-- The head and the texts of the spans hold their delimiters. -/
  | template (tag : Option Expr) (isOptional : Bool) (head : String) (spans : List Expr)
  /-- A substitution of a template with the text after it. -/
  | span (value : Expr) (text : String)
  | array (elements : List Expr)
  /-- A missing element of an array. -/
  | hole
  | spread (value : Expr)
  | object (members : List Member)
  /-- A key in brackets. -/
  | computed (value : Expr)
  | function (f : Function)
  | classExpr (c : Class)
  | arrow (f : Function)
  | arrowExpr (isAsync : Bool) (params : List Expr) (value : Expr)
  | unary (op : String) (operand : Expr)
  | suffix (op : String) (operand : Expr)
  | binary (op : String) (left right : Expr)
  | conditional (test yes no : Expr)
  | sequence (items : List Expr)
  | call (callee : Expr) (isOptional : Bool) (args : List Expr)
  | construct (callee : Expr) (args : List Expr)
  | dot (object : Expr) (isOptional : Bool) (member : String)
  | index (object : Expr) (isOptional : Bool) (key : Expr)
  | yielding (delegates : Bool) (operand : Option Expr)
  | group (inner : Expr)

/-- A member of an object literal, an object pattern or a class. -/
inductive Member where
  | entry (key value : Expr)
  /-- A name for itself, with a default in a pattern. -/
  | shorthand (name : String) (init : Option Expr)
  | spread (value : Expr)
  | method (modifiers : Modifiers) (key : Expr) (f : Function)
  | field (isStatic : Bool) (key : Expr) (init : Option Expr)
  | staticBlock (body : List Stmt)
  | decorated (decorators : List Expr) (member : Member)

inductive Function where
  | mk (isAsync isGenerator : Bool) (name : Option String) (params : List Expr) (body : List Stmt)

inductive Class where
  | mk (decorators : List Expr) (name : Option String) (base : Option Expr) (members : List Member)

inductive Stmt where
  | empty
  | debugger
  | block (body : List Stmt)
  | expression (value : Expr)
  /-- A name or pattern with its value is an assignment. -/
  | declaration (binder : Binder) (bindings : List Expr)
  | function (f : Function)
  | classDecl (c : Class)
  | branch (test : Expr) (yes : Stmt) (no : Option Stmt)
  | loop (test : Expr) (body : Stmt)
  | loopOnce (body : Stmt) (test : Expr)
  /-- The first part is a declaration or an expression. -/
  | count (init : Option Stmt) (test post : Option Expr) (body : Stmt)
  | eachKey (head : Stmt) (object : Expr) (body : Stmt)
  | eachItem (isAwait : Bool) (head : Stmt) (object : Expr) (body : Stmt)
  | switch (subject : Expr) (clauses : List Stmt)
  /-- A clause of a switch; without test it is the default. -/
  | clause (test : Option Expr) (body : List Stmt)
  /-- `break` or `continue`. -/
  | jump (word : String) (label : Option String)
  | giveBack (value : Option Expr)
  | throw (value : Expr)
  | attempt (body : List Stmt) (handler last : Option Stmt)
  /-- What a `try` does with an error. -/
  | handler (binding : Option Expr) (body : List Stmt)
  | labeled (label : String) (body : Stmt)
  | withScope (object : Expr) (body : Stmt)
  /-- A comment that is kept. -/
  | notice (text : String)

end

instance : Inhabited Expr := ⟨.hole⟩
instance : Inhabited Stmt := ⟨.empty⟩

end Distill.Script
