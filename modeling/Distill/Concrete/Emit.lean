import Distill.Concrete.EmitStatement
import Distill.Concrete.Item

/-!
Writing whole files.
-/
namespace Distill.Concrete.Emit

/-- Writes a part without the comments around it, given how its parts are written. -/
def node (emit : Tree → Emit Unit) (t : Tree) : Emit Unit :=
  match t.node with
  | .name text | .word text => write text
  | .literal kind text => write (literalText kind text)
  | .omitted | .nothing _ => return
  | .series items => seriesOf emit items
  | .array isMultiLine list items => listOf emit (.of t) list items (.arrayItems isMultiLine)
  | .object isMultiLine list members => listOf emit (.of t) list members (.objectMembers isMultiLine)
  | .access owner mark _ name => accessOf emit t owner mark name
  | .index owner mark _ key => indexOf emit t owner mark key
  | .call callee mark _ list args => do
    emit callee
    markOf emit mark
    listOf emit (.of t) list args .arguments
  | .construct callee list args => constructOf emit t callee list args
  | .tagged tag text => do
    emit tag
    space
    emit text
  | .template head spans => do
    emit head
    listOf emit (.of t) ⟨.made, false⟩ spans .templateSpans
  | .span value text => do
    emit value
    emit text
  | .group _ inner => groupOf emit t inner
  | .wrapped inner => do
    write "("
    emit inner
    write ")"
  | .asserted _ inner => assertedOf emit t inner
  | .applied inner => emit inner
  | .unary operator operand => unaryOf emit operator operand
  | .wordUnary operator operand => wordUnaryOf emit t operator operand
  | .suffix operator operand => do
    emit operand
    write operator
  | .binary left operator right => binaryOf emit t left operator right
  | .conditional test question yes colon no => conditionalOf emit t test question yes colon no
  | .spread value => spreadOf emit t value
  | .yielding star value => yieldingOf emit t star value
  | .metaProperty word name => do
    write word
    write "."
    emit name
  | .computed value => do
    write "["
    emit value
    write "]"
  | .function words star name list params body => functionOf emit t words star name list params body
  | .arrow words isPlain list params mark body => arrowOf emit t words isPlain list params mark body
  | .classLike words name heritage list members => classOf emit t words name heritage list members
  | .heritage word list types => heritageOf emit t word list types
  | .entry name value => entryOf emit name value
  | .shorthand name value => shorthandOf emit name value
  | .method kind words star name list params body => methodOf emit t kind words star name list params body
  | .field words name value => fieldOf emit t words name value
  | .staticBlock body => do
    write "static"
    functionBodyOf emit body
  | .emptyMember | .empty => write ";"
  | .parameter _ words _ dots name value => parameterOf emit t words dots name value
  | .objectPattern list items => do
    write "\x7b"
    listOf emit (.of t) list items .objectPattern
    write "\x7d"
  | .arrayPattern list items => do
    write "["
    listOf emit (.of t) list items .arrayPattern
    write "]"
  | .patternItem dots property name value => patternItemOf emit t dots property name value
  | .declarator name type value => declaratorOf emit t name type value
  | .declarators word list items => declaratorsOf emit t word list items
  | .variables words declarators => variablesOf emit t words declarators
  | .store name => storeOf t name
  | .block isMultiLine list body => blockOf emit t isMultiLine list body
  | .expression value => do
    emit value
    write ";"
  | .branch test yes no => branchOf emit t test yes no
  | .loopOnce body test => loopOnceOf emit t body test
  | .loop test body => loopOf emit t test body
  | .count init test post body => countOf emit t init test post body
  | .each isAwait word init source body => eachOf emit t isAwait word init source body
  | .jump word label => wordStatement emit t word label
  | .giveBack value => wordStatement emit t "return" value
  | .withScope source body => withScopeOf emit t source body
  | .switch subject clauses => switchOf emit t subject clauses
  | .clauses list items => clausesOf emit t list items
  | .clause test list body => clauseOf emit t test list body
  | .labeled label body => labeledOf emit t label body
  | .throwing value => wordStatement emit t "throw" (some value)
  | .attempt body handler last => attemptOf emit t body handler last
  | .handler binding body => handlerOf emit t binding body
  | .debugger => do
    write "debugger"
    write ";"
  | .importing clause origin options => importingOf emit t clause origin options
  | .importClause _ name bindings => importClauseOf emit t name bindings
  | .wholeImport name | .wholeExport name => wholeOf emit t name
  | .entries list items => entriesOf emit t list items
  | .specifier _ property name => specifierOf emit t property name
  | .exporting _ clause origin options => exportingOf emit t clause origin options
  | .exportDefault _ value => exportDefaultOf emit t value
  | .importAlias .. => return
  | .importOptions list items => importOptionsOf emit t list items

/-- Writes a part that is nested at most so deeply, with the comments around it. -/
def tree : (depth : Nat) → Tree → Emit Unit
  | 0, _ => return
  | depth + 1, t =>
    let isLeftOut := match t.node with
      | .nothing _ => true
      | _ => false
    let isDeclarators := match t.node with
      | .declarators .. => true
      | _ => false
    withRemarks t.remarks isLeftOut isDeclarators (node (tree depth) t)

/-- Writes a file. Its directives come before all comments that stand apart, and these before the helper for decorators. -/
def file (depth : Nat) (f : File) : Emit Unit := do
  let emit := tree depth
  let page ← page
  if page.openingStop ≠ 0 then
    writeAs true (String.ofList (page.between 0 page.openingStop))
    line
  let rest ← directives emit f.body
  line
  let statements : Emit Unit := do
    if f.isDecorated then
      decorateHelper.forM fun text => do
        write text
        line
    listOf emit ⟨⟨0, page.length, false⟩, true⟩ f.list rest .statements
  if rest.length = f.body.length then bodyWithRemarks f.list.extent statements else statements

end Distill.Concrete.Emit

namespace Distill.Concrete

/-- The text of a file, written again. -/
def File.write (f : File) (text : List Char) : String :=
  let page := Page.of text
  let (_, e) := (Emit.file (8 * page.length + 64) f).run { page }
  String.join e.pieces.reverse

end Distill.Concrete
