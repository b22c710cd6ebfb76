import Distill.Script.Print
import Distill.TypeScript.Outcome
import Distill.TypeScript.Parse

/-!
The text of syntax trees in the layout that is handed on between two stages: lines indented by two blanks, parentheses
where the structure of an expression needs them. A `Style` says how names and literals are written.
-/
namespace Distill.TypeScript

open Script (joined setOff prefixed access)

structure Style where
  string : String → String
  number : String → String
  bigInteger : String → String
  /-- A part of a template. -/
  template : String → String
  /-- A part of a template with a tag. -/
  taggedTemplate : String → String
  regex : String → String
  /-- A comment in lines that are indented. -/
  comment : (indent text : String) → String
  value : Constant → String
  /-- A name that is looked up or that is a member. -/
  name : String → String
  /-- Whether a member can be written by its name. -/
  isPlainMember : String → Bool
  /-- A name in a list of imports or exports. -/
  clauseName : String → String
  symbol : SymbolId → String
  declared : Declared → String
  /-- What an entry of an import list is called here. -/
  importedName : Entry → String
  /-- What an entry of an export list is called here. -/
  exportedName : Entry → String

/-- What stands before an expression and forbids it to start in some ways. -/
inductive Lead where
  | free
  | statement
  | exportDefault
  | arrow
  /-- The head of a loop over items. -/
  | itemHead
  /-- The head of a loop over items that come later. -/
  | awaitHead
deriving DecidableEq, Repr

/-- Whether a function or class cannot start here. -/
def Lead.forbidsFunction (l : Lead) : Bool := l = .statement || l = .exportDefault

/-- Whether an opening brace cannot start an expression here. -/
def Lead.forbidsBrace (l : Lead) : Bool := l = .statement || l = .arrow

/-- Whether a name cannot start an expression here. The word `async` only matters right before `of`. -/
def Lead.forbidsName (l : Lead) (level : Level) (name : String) : Bool :=
  name = "let" && (l = .itemHead || l = .awaitHead) || name = "async" && l = .itemHead && level = Level.lowest

/-- What an expression is for. -/
inductive Role where
  | value
  /-- The left side of an assignment. -/
  | target
  /-- What a declaration binds. -/
  | binding
deriving DecidableEq, Repr

/-- Where an expression is written. -/
structure Spot where
  /-- The level that an expression has to exceed to do without parentheses. -/
  level : Level := Level.lowest
  indent : String
  lead : Lead := .free
  /-- Whether the operator `in` needs parentheses. -/
  forbidsIn : Bool := false
  /-- Whether a call needs parentheses. -/
  forbidsCall : Bool := false
  role : Role := .value
  /-- Whether it is the value of a member. -/
  isMember : Bool := false
  /-- Whether no line may end before it. -/
  isInline : Bool := false

/-- A spot of its own inside of an expression. -/
def Spot.fresh (s : Spot) (level : Level) : Spot := { level, indent := s.indent }

/-- The spot of the first part of an expression. -/
def Spot.first (s : Spot) (wraps : Bool) (level : Level) : Spot :=
  if wraps then s.fresh level else { s with level, forbidsCall := false, role := .value, isMember := false }

/-- The spot of the last part of an expression. -/
def Spot.last (s : Spot) (wraps : Bool) (level : Level) : Spot :=
  { s.fresh level with forbidsIn := s.forbidsIn && !wraps }

/-- One level deeper. -/
def nextIndent (indent : String) : String := indent ++ "  "

/-- A comment whose lines are indented. -/
def indentedComment (indent text : String) : String :=
  joined ("\n" ++ indent) ((linesOf text.toList).map String.ofList)

/-- A comment on one line that can be followed by something else on that line. -/
def inlineComment (text : String) : String :=
  let line := String.join ((linesOf text.toList).map String.ofList)
  match line.toList with
  | '/' :: '/' :: ' ' :: rest => "/* " ++ String.ofList rest ++ " */"
  | '/' :: '/' :: rest => "/*" ++ String.ofList rest ++ "*/"
  | _ => line

/-- Comments before what follows them. Where no line may end, they stay on the line. -/
def writeComments (st : Style) (isInline : Bool) (indent : String) (comments : List String) : String :=
  String.join (comments.map fun c =>
    if isInline then st.comment indent (inlineComment c) ++ " " else st.comment indent c ++ "\n" ++ indent)

/-- Whether a value gets lines of its own in parentheses, because comments stand at its start. -/
def Expr.isSetOff (e : Expr) : Bool := !e.leadingComments.isEmpty

/-- The spot of a value that may have lines of its own. -/
def Expr.spot (e : Expr) (s : Spot) : Spot :=
  if e.isSetOff then { s with indent := nextIndent s.indent } else s

/-- A value, perhaps on lines of its own. -/
def Expr.setOffText (e : Expr) (s : Spot) (text : String) : String :=
  if e.isSetOff then "(\n" ++ nextIndent s.indent ++ text ++ "\n" ++ s.indent ++ ")" else text

/-- The mark of a call without effect. -/
def Layout.callMark (l : Layout) : String := if l.isPure then "/* @__PURE__ */ " else ""

/-- The mark of a function in an expression whose calls have no effect. -/
def Function.mark (f : Function) : String :=
  if f.head.isPure then "/* @__NO_SIDE_EFFECTS__ */ " else ""

/-- The mark of a function statement of which calls have no effect, on a line of its own. -/
def Function.markLine (f : Function) (indent : String) : String :=
  if f.head.isPure then "// @__NO_SIDE_EFFECTS__\n" ++ indent else ""

/-- Lines in braces, one level deeper. -/
def bracedLines (indent : String) (lines : List String) : String :=
  "\x7b\n" ++ String.join (lines.map fun l => nextIndent indent ++ l ++ "\n") ++ indent ++ "\x7d"

/-- Entries in braces on one line. -/
def bracedEntries (entries : List String) : String :=
  if entries = [] then "\x7b\x7d" else "\x7b " ++ joined ", " entries ++ " \x7d"

/-- The indentation of the items of a list. -/
def Layout.itemIndent (l : Layout) (indent : String) : String := if l.isMultiLine then nextIndent indent else indent

/-- A list between its delimiters. -/
def Layout.write (l : Layout) (st : Style) (indent opening closing padding : String) (items : List String) : String :=
  let comments := writeComments st false indent l.closing
  if items.isEmpty && comments = "" then opening ++ closing
  else if l.isMultiLine then
    let inner := nextIndent indent
    opening ++ "\n" ++ inner ++ joined (",\n" ++ inner) items ++ "\n" ++ indent ++ comments ++ closing
  else opening ++ padding ++ joined ", " items ++ padding ++ comments ++ closing

/-- Whether the last element of an array is missing, which takes one more comma. -/
def endsInHole : List Expr → Bool
  | [] => false
  | [e] => (e.node matches .hole)
  | _ :: rest => endsInHole rest

/-- The levels of the operands of a binary operator. -/
def operandLevels (op : String) (own : Level) (left right : Expr) : Level × Level :=
  let isLogical (e : Expr) : Bool := e.node matches .binary "||" _ _ | .binary "&&" _ _
  if assignments.contains op then (own, own - 1)
  else match op with
    | "," => (own - 1, own - 1)
    | "**" =>
      let isSigned := match left.node with
        | .unary op _ => op ≠ "++" && op ≠ "--"
        | .value .undefined | .value (.number ..) => true
        | _ => false
      (if isSigned then Level.call else own, own - 1)
    | "??" => (if isLogical left then Level.unary else own - 1, if isLogical right then Level.unary else own)
    | _ => (own - 1, own)

/-- The level of a binary operator. -/
def levelOf (op : String) : Level :=
  if op = "," then Level.comma else (operatorLevel? op).getD Level.assign

mutual

/-- Whether a statement ends with an `if` that has no other branch. -/
def Stmt.endsOpen : Stmt → Bool
  | .mk _ node => node.endsOpen

def StmtNode.endsOpen : StmtNode → Bool
  | .branch _ _ no => optionEndsOpen no
  | .count _ _ _ _ body | .eachKey _ _ _ body | .eachItem _ _ _ _ body | .loop _ body | .withScope _ _ body
  | .labeled _ _ body => body.endsOpen
  | _ => false

def optionEndsOpen : Option Stmt → Bool
  | none => true
  | some s => s.endsOpen

end

/-- The words before the key of a method. -/
def MethodHead.words (m : MethodHead) (f : Function) : String :=
  (if m.isStatic then "static " else "") ++ (if m.isGetter then "get " else "") ++ (if m.isSetter then "set " else "") ++
    (if f.head.isAsync then "async " else "") ++ (if f.head.isGenerator then "*" else "")

def Attributes.write (st : Style) (a : Attributes) : String :=
  " " ++ a.word ++ " " ++ bracedEntries (a.entries.map fun (k, v) => k ++ ": " ++ st.string v)

def Origin.write (st : Style) (o : Origin) : String :=
  st.string o.text ++ o.attributes.elim "" (Attributes.write st)

/-- A name with another name for it. -/
def writeRenamed (name newName : String) : String := if name = newName then name else name ++ " as " ++ newName

def Import.write (st : Style) (i : Import) : String :=
  let entry (e : Entry) : String := writeRenamed (st.clauseName e.name) (st.importedName e)
  let parts := (i.default.map st.declared).toList ++ (i.star.map fun d => "* as " ++ st.declared d).toList ++
    (i.entries.map fun entries => bracedEntries (entries.map entry)).toList
  "import " ++ (if parts.isEmpty then "" else joined ", " parts ++ " from ") ++ i.origin.write st ++ ";"

mutual

/-- The text of an expression with its comments. -/
def Expr.write (st : Style) (s : Spot) : Expr → String
  | .mk _ comments node => writeComments st s.isInline s.indent comments ++ node.write st s

def Node.write (st : Style) (s : Spot) : Node → String
  | .name text => setOff (s.lead.forbidsName s.level text) (st.name text)
  | .symbol id => setOff (s.lead.forbidsName s.level (st.symbol id)) (st.symbol id)
  | .word text => text
  | .privateName text => st.name text
  | .number text => st.number text
  | .bigInteger text => st.bigInteger text
  | .string text => st.string text
  | .regex text => st.regex text
  | .value c =>
    let isSigned := match c with
      | .undefined => true
      | .number isNegative magnitude => isNegative && magnitude ≠ "NaN"
      | _ => false
    setOff (isSigned && Level.unary ≤ s.level) (st.value c)
  | .template tag head spans =>
    let part := if tag.isNone then st.template else st.taggedTemplate
    writeOption st (s.first false Level.update) "" tag ++ part head ++ writeSpans st part s.indent spans
  | .span value text => value.write st { indent := s.indent } ++ text
  | .array layout items =>
    let inner : Spot := { level := Level.comma, indent := layout.itemIndent s.indent, role := s.role }
    layout.write st s.indent "[" ((if endsInHole items then "," else "") ++ "]") "" (writeAll st inner items)
  | .hole => ""
  | .spread value => "..." ++ value.write st { s.fresh Level.comma with role := s.role }
  | .object layout members =>
    let inner := layout.itemIndent s.indent
    setOff s.lead.forbidsBrace
      (layout.write st s.indent "\x7b" "\x7d" " " (writeMembers st inner s.role members))
  | .computed value => "[" ++ value.write st (s.fresh Level.comma) ++ "]"
  | .function f => setOff s.lead.forbidsFunction (f.mark ++ f.write st s.indent)
  | .classExpr c => setOff s.lead.forbidsFunction (c.write st s.indent)
  | .arrow isConcise f =>
    let wraps := Level.assign ≤ s.level
    setOff wraps (f.mark ++ f.writeArrow st (s.last wraps Level.comma) isConcise)
  | .unary op operand =>
    setOff (Level.unary ≤ s.level) (prefixed op (operand.write st (s.fresh (Level.unary - 1))))
  | .suffix op operand =>
    let wraps := Level.update ≤ s.level
    setOff wraps (operand.write st (s.first wraps (Level.update - 1)) ++ op)
  | .binary op left right =>
    let own := levelOf op
    let isAssignment := assignments.contains op
    let inner := s.fresh Level.comma
    if s.role ≠ .value && op = "=" then
      left.write st { inner with role := s.role } ++ " = " ++
        if s.role = .binding || s.isMember then right.setOffText inner (right.write st (right.spot inner))
        else right.write st inner
    else
      let wraps := own ≤ s.level || op = "in" && s.forbidsIn || s.lead.forbidsBrace && left.node matches .object ..
      let (l, r) := operandLevels op own left right
      let gap := if op = "," then ", " else " " ++ op ++ " "
      setOff wraps
        (left.write st { s.first wraps l with role := if isAssignment then .target else .value } ++ gap ++
          right.write st (s.last wraps r))
  | .conditional test yes no =>
    let wraps := Level.conditional ≤ s.level
    let branch := s.fresh Level.yielding
    let last := s.last wraps Level.yielding
    setOff wraps
      (test.write st (s.first wraps Level.conditional) ++ " ? " ++
        yes.setOffText branch (yes.write st (yes.spot branch)) ++ " : " ++
        no.setOffText last (no.write st (no.spot last)))
  | .call callee isOptional layout args =>
    let mark := layout.callMark
    let wraps := Level.construct ≤ s.level || s.forbidsCall || mark ≠ "" && Level.update ≤ s.level
    let inner : Spot := { level := Level.comma, indent := layout.itemIndent s.indent }
    setOff wraps
      (mark ++ callee.write st (s.first wraps Level.update) ++ (if isOptional then "?." else "") ++
        layout.write st s.indent "(" ")" "" (writeAll st inner args))
  | .construct callee layout args =>
    let inner : Spot := { level := Level.comma, indent := layout.itemIndent s.indent }
    let target := callee.write st { s.fresh Level.construct with forbidsCall := true }
    let mark := layout.callMark
    setOff (Level.call ≤ s.level || mark ≠ "" && Level.update ≤ s.level)
      (mark ++ "new " ++ setOff callee.isChain target ++ layout.write st s.indent "(" ")" "" (writeAll st inner args))
  | .dot object isOptional member =>
    let text := object.write st { s.first false Level.update with forbidsCall := s.forbidsCall }
    let space := if text.toList.all Char.isDigit then " " else ""
    if st.isPlainMember member then text ++ space ++ access isOptional ++ st.name member
    else text ++ (if isOptional then "?." else "") ++ "[" ++ st.clauseName member ++ "]"
  | .index object isOptional key =>
    let text := object.write st { s.first false Level.update with forbidsCall := s.forbidsCall }
    if key.node matches .privateName _ then text ++ access isOptional ++ key.write st (s.fresh Level.lowest)
    else text ++ (if isOptional then "?." else "") ++ "[" ++ key.write st (s.fresh Level.lowest) ++ "]"
  | .yielding delegates operand =>
    setOff (Level.assign ≤ s.level)
      ("yield" ++ (if delegates then "*" else "") ++
        writeValue st { s.fresh Level.yielding with isInline := true } " " operand)
  | .importing source options =>
    setOff (Level.construct ≤ s.level || s.forbidsCall)
      ("import(" ++ source.write st (s.fresh Level.comma) ++ writeOption st (s.fresh Level.comma) ", " options ++ ")")
  | .group inner => "(" ++ inner.write st (s.fresh Level.lowest) ++ ")"
  | .assertion _ inner => inner.write st s

/-- An expression after a word or mark, or nothing. -/
def writeOption (st : Style) (s : Spot) (first : String) : Option Expr → String
  | none => ""
  | some e => first ++ e.write st s

/-- A value after a word or mark, or nothing. -/
def writeValue (st : Style) (s : Spot) (first : String) : Option Expr → String
  | none => ""
  | some e => first ++ e.setOffText s (e.write st (e.spot s))

def writeAll (st : Style) (s : Spot) : List Expr → List String
  | [] => []
  | e :: rest => e.write st s :: writeAll st s rest

/-- The substitutions of a template, with the texts between them. -/
def writeSpans (st : Style) (part : String → String) (indent : String) : List Expr → String
  | [] => ""
  | .mk _ _ (.span value text) :: rest => value.write st { indent } ++ part text ++ writeSpans st part indent rest
  | .mk .. :: rest => writeSpans st part indent rest

/-- The key of a member. -/
def Expr.writeKey (st : Style) (indent : String) : Expr → String
  | .mk _ comments node => writeComments st false indent comments ++ node.writeKey st indent

def Node.writeKey (st : Style) (indent : String) : Node → String
  | .name text => if st.isPlainMember text then st.name text else st.clauseName text
  | .privateName text => st.name text
  | .string text => st.string text
  | .number text => st.number text
  | .bigInteger text => st.bigInteger text
  | .computed value => "[" ++ value.write st { level := Level.comma, indent } ++ "]"
  | _ => ""

def Member.write (st : Style) (indent : String) (role : Role) : Member → String
  | .mk _ comments decorators node =>
    writeComments st false indent comments ++
      String.join ((writeAll st { indent } decorators).map fun d => "@" ++ d ++ "\n" ++ indent) ++
      node.write st indent role

def MemberNode.write (st : Style) (indent : String) (role : Role) : MemberNode → String
  | .entry key value =>
    let k := key.writeKey st indent
    let inner : Spot := { level := Level.comma, indent }
    let target := match value.node with
      | .binary "=" target _ => if role = Role.value then value.node else target.node
      | node => node
    let isShort : Bool := match key.node, target with
      | .name text, .symbol id => st.symbol id = st.name text && st.isPlainMember text
      | .name text, .name text' => text = text'
      | _, _ => false
    let v := if role = .value then value.setOffText inner (value.write st (value.spot inner))
      else value.write st { inner with role, isMember := true }
    if isShort then v else k ++ ": " ++ v
  | .shorthand name init => st.name name ++ writeValue st { level := Level.comma, indent } " = " init
  | .spread value => "..." ++ value.write st { level := Level.comma, indent, role }
  | .method head key f => head.words f ++ key.writeKey st indent ++ f.writeTail st indent
  | .field isStatic isAccessor key init =>
    (if isStatic then "static " else "") ++ (if isAccessor then "accessor " else "") ++ key.writeKey st indent ++
      writeValue st { level := Level.comma, indent } " = " init ++ ";"
  | .staticBlock _ body => "static " ++ bracedLines indent (writeStmts st (nextIndent indent) body)

def writeMembers (st : Style) (indent : String) (role : Role) : List Member → List String
  | [] => []
  | m :: rest => m.write st indent role :: writeMembers st indent role rest

def Function.write (st : Style) (indent : String) : Function → String
  | .mk head params body =>
    (if head.isAsync then "async " else "") ++ "function" ++ (if head.isGenerator then "*" else "") ++
      head.name.elim "" (fun n => " " ++ st.declared n) ++ "(" ++
      joined ", " (writeAll st { level := Level.comma, indent, role := .binding } params) ++ ") " ++
      bracedLines indent (writeStmts st (nextIndent indent) body)

def Function.writeArrow (st : Style) (s : Spot) (isConcise : Bool) : Function → String
  | .mk head params body =>
    (if head.isAsync then "async " else "") ++ "(" ++
      joined ", " (writeAll st { level := Level.comma, indent := s.indent, role := .binding } params) ++ ") => " ++
      if isConcise then writeResult st { s with lead := .arrow } body
      else bracedLines s.indent (writeStmts st (nextIndent s.indent) body)

/-- Parameters and body. -/
def Function.writeTail (st : Style) (indent : String) : Function → String
  | .mk _ params body =>
    "(" ++ joined ", " (writeAll st { level := Level.comma, indent, role := .binding } params) ++ ") " ++
      bracedLines indent (writeStmts st (nextIndent indent) body)

/-- The result of a concise arrow function. -/
def writeResult (st : Style) (s : Spot) : List Stmt → String
  | [] => ""
  | .mk _ (.giveBack value) :: _ => writeValue st s "" value
  | .mk .. :: _ => ""

def Class.write (st : Style) (indent : String) : Class → String
  | .mk head decorators base members =>
    String.join ((writeAll st { indent } decorators).map fun d => "@" ++ d ++ "\n" ++ indent) ++ "class" ++
      head.name.elim "" (fun n => " " ++ st.declared n) ++
      writeOption st { level := Level.construct - 1, indent } " extends " base ++ " " ++
      bracedLines indent (writeMembers st (nextIndent indent) .value members)

/-- The text of a statement; `isHead` drops the semicolon of the head of a `for`. -/
def Stmt.write (st : Style) (isHead : Bool) (indent : String) : Stmt → String
  | .mk _ node => node.write st isHead indent

def StmtNode.write (st : Style) (isHead : Bool) (indent : String) : StmtNode → String
  | .empty => ";"
  | .debugger => "debugger;"
  | .directive text => st.string text ++ ";"
  | .block _ body => bracedLines indent (writeStmts st (nextIndent indent) body)
  | .expression value =>
    value.write st { indent, lead := if isHead then .free else .statement, forbidsIn := isHead } ++
      (if isHead then "" else ";")
  | .declaration head bindings =>
    (if head.isExported then "export " else "") ++ head.binder.keyword ++ " " ++
      joined ", " (writeBindings st { level := Level.comma, indent, forbidsIn := isHead } bindings) ++
      (if isHead then "" else ";")
  | .function isExported f => f.markLine indent ++ (if isExported then "export " else "") ++ f.write st indent
  | .classDecl isExported c => (if isExported then "export " else "") ++ c.write st indent
  | .branch test yes no =>
    let isBlock := yes.node matches .block ..
    let isBraced := yes.endsOpen
    let text := yes.write st false (if isBraced then nextIndent indent else indent)
    "if (" ++ test.write st { indent } ++ ") " ++ (if isBraced then bracedLines indent [text] else text) ++
      writeStmtOption st false indent (if isBlock || isBraced then " else " else "\n" ++ indent ++ "else ") no
  | .loop test body => "while (" ++ test.write st { indent } ++ ") " ++ body.write st false indent
  | .loopOnce body test =>
    "do " ++ body.write st false indent ++ " while (" ++ test.write st { indent } ++ ");"
  | .count _ init test post body =>
    "for (" ++ writeStmtOption st true indent "" init ++ "; " ++ writeOption st { indent } "" test ++ "; " ++
      writeOption st { indent } "" post ++ ") " ++ body.write st false indent
  | .eachKey _ head object body =>
    "for (" ++ head.writeTarget st .free indent ++ " in " ++ object.write st { indent } ++ ") " ++ body.write st false indent
  | .eachItem _ isAwait head object body =>
    let lead : Lead := if isAwait then .awaitHead else .itemHead
    "for " ++ (if isAwait then "await " else "") ++ "(" ++ head.writeTarget st lead indent ++ " of " ++
      object.write st { level := Level.comma, indent } ++ ") " ++ body.write st false indent
  | .switch _ subject clauses =>
    "switch (" ++ subject.write st { indent } ++ ") " ++ bracedLines indent (writeStmts st (nextIndent indent) clauses)
  | .clause test body =>
    (if test.isNone then "default" else writeOption st { indent } "case " test) ++ ":" ++
      String.join ((writeStmts st (nextIndent indent) body).map fun l => "\n" ++ nextIndent indent ++ l)
  | .jump word label => word ++ label.elim "" (fun l => " " ++ st.name l.1) ++ ";"
  | .giveBack value => "return" ++ writeValue st { indent, isInline := true } " " value ++ ";"
  | .throw value =>
    let s : Spot := { indent, isInline := true }
    "throw " ++ value.setOffText s (value.write st (value.spot s)) ++ ";"
  | .attempt _ body handler last =>
    "try " ++ bracedLines indent (writeStmts st (nextIndent indent) body) ++
      writeStmtOption st false indent " " handler ++ writeStmtOption st false indent " finally " last
  | .handler _ _ binding body =>
    "catch " ++ (if binding.isNone then "" else "(" ++ writeOption st { indent, role := .binding } "" binding ++ ") ") ++
      bracedLines indent (writeStmts st (nextIndent indent) body)
  | .labeled _ label body => st.name label ++ ": " ++ body.write st false indent
  | .withScope _ object body => "with (" ++ object.write st { indent } ++ ") " ++ body.write st false indent
  | .notice text => st.comment indent text
  | .typeOnly => ""
  | .importing i => i.write st
  | .exporting entries origin =>
    let entry (e : Entry) : String :=
      if origin.isSome then writeRenamed (st.clauseName e.name) (st.clauseName e.newName)
      else writeRenamed (st.exportedName e) (st.clauseName e.newName)
    "export " ++ bracedEntries (entries.map entry) ++ origin.elim "" (fun o => " from " ++ o.write st) ++ ";"
  | .exportStar name origin =>
    "export *" ++ name.elim "" (fun e => " as " ++ st.clauseName e.name) ++ " from " ++ origin.write st ++ ";"
  | .exportDefault _ value =>
    let mark := match value.node with
      | .function _ f => f.markLine ""
      | _ => ""
    mark ++ "export default " ++ value.writeDefault st
  | .exportWhole value => "module.exports = " ++ value.write st { level := Level.yielding, indent } ++ ";"

/-- A statement after a word or mark, or nothing. -/
def writeStmtOption (st : Style) (isHead : Bool) (indent first : String) : Option Stmt → String
  | none => ""
  | some s => first ++ s.write st isHead indent

def writeStmts (st : Style) (indent : String) : List Stmt → List String
  | [] => []
  | s :: rest => s.write st false indent :: writeStmts st indent rest

/-- The names and patterns of a declaration, each perhaps with a value. -/
def writeBindings (st : Style) (s : Spot) : List Expr → List String
  | [] => []
  | .mk _ comments (.binary _ target value) :: rest =>
    (writeComments st false s.indent comments ++ target.write st { s.fresh Level.comma with role := .binding } ++ " = " ++
      value.setOffText s (value.write st (value.spot s))) :: writeBindings st s rest
  | e :: rest => e.write st { s with role := .binding } :: writeBindings st s rest

/-- The head of a loop over a collection. -/
def Stmt.writeTarget (st : Style) (lead : Lead) (indent : String) : Stmt → String
  | .mk _ (.expression value) => value.write st { indent, lead, forbidsIn := true, role := .target }
  | .mk _ (.declaration head bindings) =>
    head.binder.keyword ++ " " ++ joined ", " (writeBindings st { level := Level.comma, indent, forbidsIn := true } bindings)
  | .mk .. => ""

/-- What a module exports by default. -/
def Stmt.writeDefault (st : Style) : Stmt → String
  | .mk _ (.expression value) => value.write st { level := Level.comma, indent := "", lead := .exportDefault } ++ ";"
  | .mk _ (.function _ f) => f.write st ""
  | .mk _ (.classDecl _ c) => c.write st ""
  | .mk .. => ""

end

/-- Statements as lines. -/
def writeBody (st : Style) (body : List Stmt) : String := String.join ((writeStmts st "" body).map (· ++ "\n"))

end Distill.TypeScript
