import Distill.Specifier

/-!
Modules as lists of top-level items: imports, export lists, exported declarations, and statements that are kept as
their text. Making a module explicit touches nothing but the specifiers of imports and named re-exports.
-/
namespace Distill.Module

/-- An entry of an import or export list, `name as binding`. -/
structure Alias where
  name : Option String
  binding : Option String
deriving DecidableEq, Repr

inductive Item where
  /-- Without `bindings` there is no list at all; an empty list is printed. -/
  | importing (default : Option String) (bindings : Option (List Alias)) (source : Option String)
  | exporting (names : List Alias) (source : Option String)
  | exportDeclaration (isDefault : Bool) (text : String)
  | statement (text : String)
deriving DecidableEq, Repr

end Module

/-- The items of a module in order. -/
abbrev Module := List Module.Item

namespace Module

/-- Whether an export list is the single star of `export * from`, which names no binding. -/
def exportsAll : List Alias → Bool
  | [a] => a.binding = some "*" || a.name = some "*" && a.binding.getD "" = ""
  | _ => false

/-- The item with its specifier made explicit, unless it is a star re-export. -/
def Item.explicit : Item → Item
  | importing default bindings source =>
    importing default bindings (source.map Specifier.explicitLiteral)
  | exporting names source =>
    if exportsAll names then exporting names source
    else exporting names (source.map Specifier.explicitLiteral)
  | item => item

/-- The module with the specifiers of imports and named re-exports made explicit. -/
def explicit (m : Module) : Module := m.map Item.explicit

/-- The specifier literal of an item. -/
def Item.source? : Item → Option String
  | importing _ _ source => source
  | exporting _ source => source
  | _ => none

def Alias.render (a : Alias) : String :=
  match a.name with
  | some name => name ++ " as " ++ a.binding.getD ""
  | none => a.binding.getD ""

/-- The entries after the opening brace, with commas between; an entry without binding shows nothing. -/
def renderAliases : List Alias → String
  | [] => ""
  | [a] => entry a
  | a :: as => entry a ++ "," ++ renderAliases as
where
  entry (a : Alias) : String := if a.binding.isSome then " " ++ a.render else ""

/-- A list in braces. -/
def renderList (as : List Alias) : String :=
  if as = [] then " \x7b\x7d" else " \x7b" ++ renderAliases as ++ " \x7d"

/-- The bindings of an import. -/
def renderBindings : List Alias → String
  | [a] => if a.name = some "*" then " " ++ a.render else renderList [a]
  | as => renderList as

/-- The names of an export. -/
def renderNames : List Alias → String
  | [a] =>
    if a.name = some "*" ∨ a.name = none ∧ a.binding = some "*" then " " ++ a.render else renderList [a]
  | as => renderList as

def Item.render : Item → String
  | importing default bindings source =>
    "import" ++
    (match default with
      | some name => " " ++ name ++ (if bindings.isSome then "," else "")
      | none => "") ++
    (match bindings with
      | some as => renderBindings as
      | none => "") ++
    (if default.isSome ∨ bindings.isSome then " from" else "") ++
    " " ++ source.getD "" ++ ";"
  | exporting names source =>
    "export" ++ renderNames names ++
    (match source with
      | some s => " from " ++ s
      | none => "") ++ ";"
  | exportDeclaration isDefault text =>
    "export" ++ (if isDefault then " default" else "") ++ " " ++ text ++ ";"
  | statement text => text

def renderItems : List Item → String
  | [] => ""
  | [item] => item.render
  | item :: items => item.render ++ "\n" ++ renderItems items

/-- The text of a module: one item a line, and a final newline unless nothing was printed. -/
def emit (m : Module) : String :=
  let text := renderItems m
  if text = "" then "" else text ++ "\n"

end Module

end Distill
