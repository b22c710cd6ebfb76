import Distill.TypeScript.Rename
import Distill.TypeScript.Resolved
import Distill.TypeScript.Write

/-!
The normal form of a source module without its types: literals are written in ASCII with as few escapes as possible, only
the parentheses that are needed stay, and variables that hide others get names of their own. This is what the back end
`esbuild` leaves of a source.

The language is the part of TypeScript in which types only have to be taken away. Enumerations and namespaces that hold
values would have to be written anew as objects, and are refused.
-/
namespace Distill.TypeScript

/-- A text in which no closing tag of a script stands. -/
def withoutScriptEnd (s : String) : String := String.ofList (go s.toList)
where
  go : List Char → List Char
    | [] => []
    | '<' :: '/' :: rest =>
      if (rest.take 6).map Char.toLower = "script".toList then '<' :: '\\' :: '/' :: go rest else '<' :: '/' :: go rest
    | c :: rest => c :: go rest

/-- The literal of a value. -/
def Constant.write : Constant → String
  | undefined => "void 0"
  | null => "null"
  | truth value => toString value
  | number isNegative magnitude => (if isNegative && magnitude ≠ "NaN" then "-" else "") ++ magnitude
  | integer digits => digits ++ "n"
  | text codePoints isTemplate =>
    withoutScriptEnd
      (if isTemplate then "\x60" ++ writeCodePoints '\x60' codePoints ++ "\x60" else writeString codePoints)

/-- Whether a text is a name. -/
def isName (s : String) : Bool :=
  match s.toList with
  | [] => false
  | c :: rest => Text.startsIdentifier c && rest.all Text.isIdentifierPart

/-- Whether every character of a text takes one unit of sixteen bits. -/
def isNarrow (s : String) : Bool := s.toList.all (·.toNat ≤ 0xffff)

/-- The quoted form of a text. -/
def quotedName (s : String) : String := writeString (s.toList.map Char.toNat)

/-- A text in which every line ends with a line feed. -/
def withLineFeeds (s : String) : String := String.ofList (go s.toList)
where
  go : List Char → List Char
    | [] => []
    | '\r' :: '\n' :: rest => '\n' :: go rest
    | c :: rest => (if c = '\r' then '\n' else c) :: go rest

/-- Literals in normal form and names in ASCII. -/
def normalStyle (nameOf : SymbolId → String) : Style where
  string text := withoutScriptEnd (normalString text)
  number := normalNumber
  bigInteger := normalNumber
  template part := withoutScriptEnd (normalTemplatePart part)
  taggedTemplate part := withoutScriptEnd (withLineFeeds part)
  regex := withoutScriptEnd
  comment indent text := withoutScriptEnd (indentedComment indent text)
  value := Constant.write
  name := normalName
  isPlainMember := isNarrow
  clauseName name := if isName name && isNarrow name then normalName name else quotedName name
  symbol id := normalName (nameOf id)
  declared d := normalName (nameOf d.symbol)
  importedName e := normalName ((e.symbol.map nameOf).getD e.newName)
  exportedName e := normalName ((e.symbol.map nameOf).getD e.name)

/-- The statements with the directives at their beginning before all comments. -/
def directivesFirst (body : List Stmt) : List Stmt :=
  let opening := body.takeWhile fun s => s.node matches .notice _ | .directive _
  let isDirective (s : Stmt) : Bool := s.node matches .directive _
  opening.filter isDirective ++ opening.filter (fun s => !isDirective s) ++ body.drop opening.length

/-- A source text without its types, in normal form. -/
def stripNormal (elide : Bool) (file text : String) : Except Problem String := do
  let (source, r) ← Resolved.read file text.toList elide
  let names := r.resolution.table.rename r.resolution.topLevel r.resolution.evalScopes
  let style := normalStyle fun id => (names[id]?).getD ""
  return source.interpreter.elim "" (· ++ "\n") ++ writeBody style (directivesFirst r.body)

end Distill.TypeScript
