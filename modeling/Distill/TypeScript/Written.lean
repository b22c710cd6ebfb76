import Distill.Concrete.Emit
import Distill.TypeScript.Resolved

/-!
A source module without its types, as it is written: literals, names, parentheses and comments stay as they are. Lists
that have lost all their entries go, and a module that would no longer look like one is marked. This is what the back end
`tsc` leaves of a source.

What cannot be read in the normal form is refused here in the same words, enumerations and namespaces with values
included; the stripper has no failures of its own.
-/
namespace Distill.TypeScript

open Concrete (Tree Leaf Listing Extent File)

/-- What is known of the names of a module. -/
structure NameUses where
  table : SymbolTable
  /-- The symbols that are mentioned, once for each time. -/
  mentions : List SymbolId
  /-- The names that only types have. -/
  types : List String
  /-- Whether imports that nothing mentions are dropped. -/
  elide : Bool
  /-- Whether the text is a module. -/
  isModule : Bool

namespace NameUses

/-- The mentions without those in assignments that are imports and that nothing mentions. -/
def neededMentions : (fuel : Nat) → (aliases : List (SymbolId × SymbolId)) → List SymbolId → List SymbolId
  | 0, _, mentions => mentions
  | fuel + 1, aliases, mentions =>
    let unused := aliases.filter fun a => !mentions.contains a.1
    if unused.isEmpty then mentions
    else
      let left := unused.foldl (fun mentions a => mentions.erase a.2) mentions
      neededMentions fuel (aliases.filter fun a => mentions.contains a.1) left

def of (source : Source) (r : Resolved) (elide isModule : Bool) : NameUses :=
  let table := r.resolution.table
  let isType (name : String) : Bool :=
    ((table.scope? 0).bind (·.find? name)).all fun m => table.kindOf m.symbol = .unbound
  let aliases := r.body.filterMap Resolved.aliasOf?
  { table, elide, isModule, types := source.types.filter isType
    mentions := neededMentions (aliases.length + 1) aliases r.resolution.mentions }

/-- Whether a name of the outermost scope is needed. -/
def isNeeded (u : NameUses) (name : Tree) : Bool :=
  !u.elide || ((u.table.scope? 0).bind (·.find? (decodedName name))).any fun m => u.mentions.contains m.symbol
where
  /-- A name without its escapes. -/
  decodedName (t : Tree) : String := String.ofList ((decodeLiteral (Concrete.Grammar.nameText t).toList).map Char.ofNat)

/-- Whether an expression is the name of a type. -/
def isTypeName (u : NameUses) (t : Tree) : Bool :=
  match t.node with
  | .name text => u.types.contains text
  | _ => false

/-- The entries of a list of imports or exports that are left, if there are any. -/
def entries? (keeps : (property : Option Tree) → (name : Tree) → Bool) (t : Tree) : Option Tree :=
  match t.node with
  | .entries list items =>
    let left := items.filter fun item => match item.node with
      | .specifier isType property name => !isType && keeps property name
      | _ => true
    if left.isEmpty then none else some (.mk t.extent true (.entries list left))
  | _ => some t

/-- What is left of what an import binds. -/
def clause? (u : NameUses) (t : Tree) : Option Tree :=
  match t.node with
  | .importClause true _ _ => none
  | .importClause false name bindings =>
    let name := name.filter u.isNeeded
    let bindings := bindings.bind fun b => match b.node with
      | .wholeImport name => if u.isNeeded name then some b else none
      | _ => entries? (fun _ name => u.isNeeded name) b
    if name.isNone && bindings.isNone then none else some (.mk t.extent true (.importClause false name bindings))
  | _ => some t

/-- An assignment that is an import, as a variable. -/
def aliasVariable (t : Tree) (words : List Tree) (name value : Tree) : Tree :=
  let made (node : Concrete.Node) : Tree := .mk .made true node
  let list : Listing := ⟨.made, false⟩
  let declarators := made (.declarators "var" list [made (.declarator name none (some value))])
  .mk t.extent true (.variables words declarators)

/-- What is left of a statement of a module. -/
def left? (u : NameUses) (t : Tree) : Option Tree :=
  match t.node with
  | .importing (some clause) origin options =>
    (u.clause? clause).map fun clause => .mk t.extent true (.importing (some clause) origin options)
  | .importAlias words isType name (some value) =>
    let isKept := !isType && (Concrete.hasWord "export" words || !u.isModule || u.isNeeded name)
    if isKept then some (aliasVariable t words name value) else none
  | .importAlias .. => none
  | .exporting true _ _ _ => none
  | .exporting false (some clause) origin options =>
    let keeps (property : Option Tree) (name : Tree) : Bool := origin.isSome || !u.isTypeName (property.getD name)
    (entries? keeps clause).map fun clause => .mk t.extent true (.exporting false (some clause) origin options)
  | .exportDefault isEquals value => if isEquals || u.isTypeName value then none else some t
  | _ => some t

end NameUses

/-- Whether a statement that is left makes its file a module. -/
def leavesModule (t : Tree) : Bool :=
  match t.node with
  | .nothing _ => false
  | _ => t.marksModule

/-- The mark of a module that has no other. -/
def moduleMark : Tree :=
  .mk .made true (.exporting false (some (.mk .made true (.entries ⟨.made, false⟩ []))) none none)

/-- The file with what is left of its statements. -/
def elided (u : NameUses) (f : File) : File :=
  let body := f.body.filterMap u.left?
  let isMarked := !f.isModule || body.any leavesModule
  { f with body := if isMarked then body else body ++ [moduleMark] }

/-- A source text without its types, as written. -/
def stripWritten (elide : Bool) (file text : String) : Except Problem String := do
  let cs := text.toList
  let (source, r) ← Resolved.read file cs false
  let file := File.read cs
  return (elided (NameUses.of source r elide file.isModule) file).write cs

end Distill.TypeScript
