import Distill.TypeScript.Resolve
import Distill.TypeScript.Source

/-!
Source modules with their names looked up, and which of their imports are needed.
-/
namespace Distill.TypeScript

open Script (SyntaxError)

/-- A source module with its names looked up. -/
structure Resolved where
  body : List Stmt
  resolution : Resolution

/-- The names that a statement exports, each with its place. -/
def Stmt.exports (t : SymbolTable) (s : Stmt) : List (String × Place) :=
  let rec bound : List Expr → List (String × Place)
    | [] => []
    | e :: rest => e.boundSymbols.map (fun (id, place) => (t.nameOf id, place)) ++ bound rest
  match s.node with
  | .declaration head bindings => if head.isExported then bound bindings else []
  | .function isExported f => if isExported then (f.head.name.map fun n => (n.name, n.place)).toList else []
  | .classDecl isExported (.mk head _ _ _) => if isExported then (head.name.map fun n => (n.name, n.place)).toList else []
  | .exporting entries _ => entries.map fun e => (e.newName, e.place)
  | .exportStar name _ => (name.map fun e => (e.newName, e.place)).toList
  | .exportDefault keyword _ => [("default", keyword)]
  | _ => []

/-- Errors for names that are exported more than once. -/
def repeatedExports (seen : List String) : List (String × Place) → List SyntaxError
  | [] => []
  | (name, place) :: rest =>
    let later := repeatedExports (name :: seen) rest
    if seen.contains name then ⟨place, "Multiple exports with the same name " ++ Text.quoted name⟩ :: later else later

namespace Resolved

/-- The symbol in which a chain of members starts. -/
def rootOf? : Expr → Option SymbolId
  | .mk _ _ node =>
    match node with
    | .symbol id => some id
    | .dot object _ _ => rootOf? object
    | _ => none

/-- What an assignment that is an import binds, and the symbol that its value starts with. -/
def aliasOf? (s : Stmt) : Option (SymbolId × SymbolId) :=
  match s.node with
  | .declaration head [.mk _ _ (.binary _ target value)] =>
    if !head.isAlias || head.isExported then none
    else match target.node, rootOf? value with
      | .symbol id, some root => some (id, root)
      | _, _ => none
  | _ => none

/-- The names of an import that are used; nothing if none of them is so much as mentioned. -/
def usedImport? (uses mentions : List SymbolId) (i : Import) : Option Import :=
  let symbols := (i.default.map (·.symbol)).toList ++ (i.star.map (·.symbol)).toList ++
    (i.entries.getD []).filterMap (·.symbol)
  let hasNames := i.default.isSome || i.star.isSome || i.entries.isSome
  if hasNames && !symbols.any mentions.contains then none
  else
    let entries := (i.entries.getD []).filter fun e => e.symbol.any uses.contains
    some { i with
      default := i.default.filter fun d => uses.contains d.symbol
      star := i.star.filter fun d => uses.contains d.symbol
      entries := if entries.isEmpty then none else some entries }

/-- The statements without imports that nothing uses. Each assignment that is dropped takes back one use of the symbol
that its value starts with, which counts for the statements after it. -/
def dropUnused (mentions : List SymbolId) : (uses : List SymbolId) → List Stmt → List Stmt × List SymbolId
  | uses, [] => ([], uses)
  | uses, s :: rest =>
    let keep (s : Stmt) : List Stmt × List SymbolId :=
      let (left, uses) := dropUnused mentions uses rest
      (s :: left, uses)
    match s.node with
    | .importing i =>
      match usedImport? uses mentions i with
      | some i => keep (.mk s.place (.importing i))
      | none => dropUnused mentions uses rest
    | .exporting [] (some _) => dropUnused mentions uses rest
    | _ =>
      match aliasOf? s with
      | some (id, root) => if uses.contains id then keep s else dropUnused mentions (uses.erase root) rest
      | none => keep s

/-- The statements without assignments that are imports and that nothing uses any more. -/
def dropAliases : (fuel : Nat) → (uses : List SymbolId) → List Stmt → List Stmt
  | 0, _, body => body
  | fuel + 1, uses, body =>
    let isUnused (s : Stmt) : Bool := (aliasOf? s).any fun a => !uses.contains a.1
    if !body.any isUnused then body
    else
      let roots := (body.filter isUnused).filterMap fun s => (aliasOf? s).map (·.2)
      dropAliases fuel (roots.foldl (fun uses root => uses.erase root) uses) (body.filter fun s => !isUnused s)

/-- The module without imports that no value needs. -/
def elide (r : Resolved) : Resolved :=
  let (body, uses) := dropUnused r.resolution.mentions r.resolution.uses r.body
  { r with body := dropAliases body.length uses body }

end Resolved

/-- Looks up the names of a source module. -/
def Source.resolve (source : Source) (file : String) (text : List Char) (elide : Bool) : Except Problem Resolved :=
  let hoisting := source.table.hoist source.isModule
  let s : Surroundings :=
    { text, isModule := source.isModule, functionVars := hoisting.functionVars, types := source.types
      defaultName := Resolve.defaultName file }
  let (body, resolution) :=
    (do Resolve.arrange s (← resolveAll s source.body) : Resolve (List Stmt)).run { table := hoisting.table }
  let all : Resolved := { body, resolution }
  let left := if elide then all.elide else all
  let markup : List SyntaxError := if !source.isModule then [] else source.markup.toList.map fun place =>
    ⟨place, "Legacy HTML single-line comments are not allowed in ECMAScript modules"⟩
  let exported := left.body.flatMap (Stmt.exports resolution.table)
  let errors := source.errors ++ hoisting.errors ++ markup ++ resolution.errors ++ repeatedExports [] exported
  match firstProblem? text errors with
  | some p => .error p
  | none => .ok left

/-- Reads a source module and looks up its names. -/
def Resolved.read (file : String) (text : List Char) (elide : Bool) : Except Problem (Source × Resolved) :=
  match Source.read text with
  | .ok source => (source.resolve file text elide).map fun r => (source, r)
  | .error errors =>
    match firstProblem? text errors with
    | some p => .error p
    | none => .error ⟨⟨1, 1⟩, ""⟩

end Distill.TypeScript
