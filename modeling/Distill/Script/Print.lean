import Distill.Script.Tree

/-!
The text of syntax trees in the layout of emitted files: a statement a line, blocks indented by four blanks, a blank
around operators. Every function takes the indentation of the line that it starts on.
-/
namespace Distill.Script

/-- Texts with a separator between them. -/
def joined (separator : String) : List String → String
  | [] => ""
  | [s] => s
  | s :: rest => s ++ separator ++ joined separator rest

/-- One level deeper. -/
def deeper (indent : String) : String := indent ++ "    "

/-- Lines in braces, one level deeper. -/
def inBraces (indent : String) (lines : List String) : String :=
  if lines = [] then "\x7b\x7d"
  else "\x7b" ++ String.join (lines.map fun l => "\n" ++ deeper indent ++ l) ++ "\n" ++ indent ++ "\x7d"

/-- The words before the name of a method. -/
def Modifiers.words (m : Modifiers) : List String :=
  [(m.isStatic, "static"), (m.isAsync, "async"), (m.isGenerator, "*"), (m.isGetter, "get"), (m.isSetter, "set")].filterMap
    fun (present, word) => if present then some word else none

/-- An operator before its operand: words and repeated signs are set off by a blank. -/
def prefixed (op operand : String) : String :=
  let isWord := op.toList.all Char.isAlpha
  let repeats := (op = "+" || op = "-") && operand.toList.head? = op.toList.head?
  if isWord || repeats then op ++ " " ++ operand else op ++ operand

/-- A member before its text: `.` or `?.`. -/
def access (isOptional : Bool) : String := if isOptional then "?." else "."

/-- Whether an expression is a number in decimal digits, after which a dot would belong to the number. -/
def isPlainNumber : Expr → Bool
  | .number text =>
    text.toList.all fun c => c.isDigit || c = '.' || c = '_' || c = 'e' || c = 'E' || c = '+' || c = '-' || c = 'n'
  | _ => false

/-- A text in parentheses if `needed`. -/
def setOff (needed : Bool) (text : String) : String := if needed then "(" ++ text ++ ")" else text

/-- Whether the last element of an array is missing, which takes one more comma. -/
def endsInHole : List Expr → Bool
  | [] => false
  | [.hole] => true
  | _ :: rest => endsInHole rest

/-- The elements of an array with commas between. In a pattern a missing one leaves only its comma. -/
def elements (asPattern : Bool) : (first : Bool) → List String → String
  | _, [] => ""
  | first, text :: rest =>
    let comma := if first then "" else if asPattern && text = "" then "," else ", "
    comma ++ text ++ elements asPattern false rest

/-- Where a statement stands: by itself, as the head of a `for`, where it has no semicolon, or as the body of a `for`,
where it is always a block. -/
inductive Place where
  | line
  | head
  | body
deriving DecidableEq, Repr

/-- The text of a statement that is no block. -/
def Place.set (place : Place) (indent text : String) : String :=
  match place with
  | .body => "\x7b\n" ++ deeper indent ++ text ++ "\n" ++ indent ++ "\x7d"
  | _ => text

/-- The indentation inside a statement that is no block. -/
def Place.indentation (place : Place) (indent : String) : String :=
  match place with
  | .body => deeper indent
  | _ => indent

/-- The blank before a body, which an empty one does without. -/
def Stmt.lead : Stmt → String
  | .empty => ""
  | _ => " "

/-- The end of an expression or declaration. -/
def Place.semicolon (place : Place) : String :=
  match place with
  | .head => ""
  | _ => ";"

mutual

/-- The text of an expression or, if it stands for one, of a pattern. -/
def Expr.render (asPattern : Bool) (indent : String) : Expr → String
  | .name text => text
  | .word text => text
  | .number text => text
  | .string text => text
  | .regex text => text
  | .template tag isOptional head spans =>
    renderOption "" "" tag ++ (if isOptional then "?." else "") ++ head ++ String.join (renderAll false "" spans)
  | .span value text => value.render false indent ++ text
  | .array items =>
    "[" ++ elements asPattern true (renderAll asPattern indent items) ++ (if endsInHole items then "," else "") ++ "]"
  | .hole => ""
  | .spread value => "..." ++ value.render asPattern indent
  | .object members => "\x7b" ++ joined ", " (renderMembers asPattern indent members) ++ "\x7d"
  | .computed value => "[" ++ value.render false indent ++ "]"
  | .function f => f.render indent
  | .classExpr c => c.render indent
  | .arrow f => f.renderArrow indent
  | .arrowExpr isAsync params value =>
    (if isAsync then "async " else "") ++ "(" ++ joined ", " (renderAll true indent params) ++ ") => " ++
      inBraces indent ["return " ++ value.render false (deeper indent) ++ ";"]
  | .unary op operand => prefixed op (operand.render false indent)
  | .suffix op operand => operand.render false indent ++ op
  | .binary op left right => left.render asPattern indent ++ " " ++ op ++ " " ++ right.render false indent
  | .conditional test yes no =>
    test.render false indent ++ " ? " ++ yes.render false indent ++ " : " ++ no.render false indent
  | .sequence items => joined "," (renderAll false indent items)
  | .call callee isOptional args =>
    callee.render false indent ++ (if isOptional then "?." else "") ++ "(" ++
      joined ", " (renderAll false indent args) ++ ")"
  | .construct callee args =>
    "new " ++ callee.render false indent ++ "(" ++ joined ", " (renderAll false indent args) ++ ")"
  | .dot object isOptional member =>
    setOff (isPlainNumber object && !isOptional) (object.render false indent) ++ access isOptional ++ member
  | .index object isOptional key =>
    object.render false indent ++ (if isOptional then "?." else "") ++ "[" ++ key.render false indent ++ "]"
  | .yielding delegates operand => "yield" ++ (if delegates then "*" else "") ++ renderOption indent " " operand
  | .group inner => "(" ++ inner.render false indent ++ ")"

/-- An expression after a lead, or nothing. -/
def renderOption (indent lead : String) : Option Expr → String
  | none => ""
  | some e => lead ++ e.render false indent

def renderAll (asPattern : Bool) (indent : String) : List Expr → List String
  | [] => []
  | e :: rest => e.render asPattern indent :: renderAll asPattern indent rest

/-- The text of a member. A name for itself is written once. -/
def Member.render (asPattern : Bool) (indent : String) : Member → String
  | .entry key value =>
    let name := key.render false indent
    let text := value.render asPattern indent
    match key, value with
    | .name _, .name _ => if name = text then name else name ++ ": " ++ text
    | .name _, .binary _ (.name bound) _ => if asPattern && name = bound then text else name ++ ": " ++ text
    | _, _ => name ++ ": " ++ text
  | .shorthand name init => name ++ renderOption indent " = " init
  | .spread value => "..." ++ value.render asPattern indent
  | .method modifiers key f =>
    joined " " (modifiers.words ++ [key.render false indent]) ++ " " ++ f.renderTail indent
  | .field isStatic key init =>
    (if isStatic then "static " else "") ++ key.render false indent ++ renderOption indent " = " init ++ ";"
  | .staticBlock body => "static " ++ inBraces indent (renderStmts (deeper indent) body)
  | .decorated _ member => member.render asPattern indent

def renderMembers (asPattern : Bool) (indent : String) : List Member → List String
  | [] => []
  | m :: rest => m.render asPattern indent :: renderMembers asPattern indent rest

def Function.render (indent : String) : Function → String
  | .mk isAsync isGenerator name params body =>
    (if isAsync then "async " else "") ++ "function" ++ (if isGenerator then "*" else "") ++ name.elim "" (" " ++ ·) ++
      "(" ++ joined ", " (renderAll true indent params) ++ ") " ++ inBraces indent (renderStmts (deeper indent) body)

def Function.renderArrow (indent : String) : Function → String
  | .mk isAsync _ _ params body =>
    (if isAsync then "async " else "") ++ "(" ++ joined ", " (renderAll true indent params) ++ ") => " ++
      inBraces indent (renderStmts (deeper indent) body)

/-- Parameters and body. -/
def Function.renderTail (indent : String) : Function → String
  | .mk _ _ _ params body =>
    "(" ++ joined ", " (renderAll true indent params) ++ ") " ++ inBraces indent (renderStmts (deeper indent) body)

def Class.render (indent : String) : Class → String
  | .mk _ name base members =>
    "class" ++ name.elim "" (" " ++ ·) ++ renderOption indent " extends " base ++ " " ++
      inBraces indent (renderMembers false (deeper indent) members)

def Stmt.render (place : Place) (indent : String) : Stmt → String
  | .block body => inBraces indent (renderStmts (deeper indent) body)
  | .empty => if place = .body then "\x7b\x7d" else ";"
  | .debugger => place.set indent "debugger;"
  | .expression value =>
    let text := value.render false (place.indentation indent)
    place.set indent (setOff (place != .head && "let ".toList.isPrefixOf text.toList) text ++ place.semicolon)
  | .declaration binder bindings =>
    place.set indent
      (binder.keyword ++ " " ++ joined ", " (renderAll true (place.indentation indent) bindings) ++ place.semicolon)
  | .function f => place.set indent (f.render (place.indentation indent))
  | .classDecl c => place.set indent (c.render (place.indentation indent))
  | .branch test yes no =>
    let i := place.indentation indent
    place.set indent
      ("if (" ++ test.render false i ++ ")" ++ yes.lead ++ yes.render .line i ++ renderElse i no)
  | .loop test body =>
    let i := place.indentation indent
    place.set indent ("while (" ++ test.render false i ++ ")" ++ body.lead ++ body.render .line i)
  | .loopOnce body test =>
    let i := place.indentation indent
    place.set indent ("do" ++ body.lead ++ body.render .line i ++ " while (" ++ test.render false i ++ ");")
  | .count init test post body =>
    let i := place.indentation indent
    place.set indent
      ("for (" ++ (if init.isNone then " " else renderStmtOption .head i "" init) ++ "; " ++ renderOption i "" test ++
        "; " ++ renderOption i "" post ++ ") " ++ body.render .body i)
  | .eachKey head object body =>
    let i := place.indentation indent
    place.set indent
      ("for (" ++ head.render .head i ++ " in " ++ object.render false i ++ ") " ++ body.render .body i)
  | .eachItem isAwait head object body =>
    let i := place.indentation indent
    place.set indent
      ("for " ++ (if isAwait then "await " else "") ++ "(" ++ head.render .head i ++ " of " ++ object.render false i ++
        ") " ++ body.render .body i)
  | .switch subject clauses =>
    let i := place.indentation indent
    place.set indent
      ("switch (" ++ subject.render false i ++ ") \x7b" ++
        (if clauses.isEmpty then "" else String.join (renderLines i clauses) ++ "\n" ++ i) ++ "\x7d")
  | .clause test body =>
    (if test.isNone then "default" else renderOption indent "case " test) ++ ":" ++
      String.join (renderLines (deeper indent) body)
  | .jump word label => place.set indent (word ++ label.elim "" (" " ++ ·) ++ ";")
  | .giveBack value => place.set indent ("return" ++ renderOption (place.indentation indent) " " value ++ ";")
  | .throw value => place.set indent ("throw " ++ value.render false (place.indentation indent) ++ ";")
  | .attempt body handler last =>
    let i := place.indentation indent
    place.set indent
      ("try " ++ inBraces i (renderStmts (deeper i) body) ++ renderStmtOption .line i " " handler ++
        renderStmtOption .line i " finally " last)
  | .handler binding body =>
    (if binding.isNone then "catch " else "catch(" ++ renderPattern indent binding ++ ") ") ++
      inBraces indent (renderStmts (deeper indent) body)
  | .labeled label body =>
    place.set indent (label ++ ":" ++ body.lead ++ body.render .line (place.indentation indent))
  | .withScope object body =>
    let i := place.indentation indent
    place.set indent ("with (" ++ object.render false i ++ ")" ++ body.lead ++ body.render .line i)
  | .notice text => text

/-- A statement after a lead, or nothing. -/
def renderStmtOption (place : Place) (indent lead : String) : Option Stmt → String
  | none => ""
  | some s => lead ++ s.render place indent

/-- What is done otherwise. -/
def renderElse (indent : String) : Option Stmt → String
  | none => ""
  | some s => " else" ++ s.lead ++ s.render .line indent

def renderPattern (indent : String) : Option Expr → String
  | none => ""
  | some e => e.render true indent

def renderStmts (indent : String) : List Stmt → List String
  | [] => []
  | s :: rest => s.render .line indent :: renderStmts indent rest

/-- Statements, each after a line break. -/
def renderLines (indent : String) : List Stmt → List String
  | [] => []
  | s :: rest => ("\n" ++ indent ++ s.render .line indent) :: renderLines indent rest

end

end Distill.Script
