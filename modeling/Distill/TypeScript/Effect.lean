import Distill.TypeScript.Global
import Distill.TypeScript.Outcome

/-!
Which expressions can be dropped when their results are not needed, because running them changes nothing and cannot
fail. What is converted to a text or a number might run anything, and so might reading a name that nothing declares.
-/
namespace Distill.TypeScript

/-- The name of a symbol that nothing declares. -/
abbrev Undeclared := SymbolId → Option String

/-- The names on the path from a name that nothing declares to a member. -/
def pathOf? (u : Undeclared) : Expr → Option (List String)
  | .mk _ _ node =>
    match node with
    | .symbol id => (u id).map ([·])
    | .dot object _ member => (pathOf? u object).map (· ++ [member])
    | .index object _ key =>
      match key.node with
      | .value (.text codePoints _) =>
        (pathOf? u object).map (· ++ [String.ofList (codePoints.map Char.ofNat)])
      | _ => none
    | _ => none

/-- The name whose type is looked at, and the text that its type is compared with. -/
def typeTest? (left right : Expr) : Option (SymbolId × List Nat) :=
  match left.node, right.node with
  | .unary "typeof" e, .value (.text codePoints _) =>
    match e.node with
    | .symbol id => some (id, codePoints)
    | _ => none
  | _, _ => none

/-- Whether a name exists where a condition holds, or does not hold, because the condition looks at its type. -/
def isGuarded (name condition : Expr) (holds : Bool) : Bool :=
  match name.node, condition.node with
  | .symbol id, .binary op left right =>
    let undefined := "undefined".toList.map Char.toNat
    if ["===", "!==", "==", "!="].contains op then
      (typeTest? left right <|> typeTest? right left).any fun (tested, text) =>
        tested = id && ((text = undefined) == holds) == (op = "!==" || op = "!=")
    else if ["<", ">", "<=", ">="].contains op then
      let isLess := op = "<" || op = "<="
      let letter := "u".toList.map Char.toNat
      match typeTest? left right, typeTest? right left with
      | some (tested, text), _ => tested = id && text = letter && holds == isLess
      | none, some (tested, text) => tested = id && text = letter && !holds == isLess
      | none, none => false
    else false
  | _, _ => false

/-- Whether the values of two expressions can be compared loosely as well as strictly. -/
def areAlike (left right : Expr) : Bool :=
  match left.primitive? with
  | none | some .mixed => false
  | kind => right.primitive? = kind

/-- Whether two values are ordered without a conversion. -/
def areOrdered (left right : Expr) : Bool :=
  match left.primitive? with
  | some .text | some .number | some .integer => right.primitive? = left.primitive?
  | _ => false

/-- Whether a key is known before anything runs, or is a symbol of the language. -/
def isFixedKey (u : Undeclared) (key : Expr) : Bool :=
  match key.node with
  | .computed value => value.constant?.isSome || (pathOf? u value).any Global.isSymbol
  | _ => true

mutual

/-- Whether an expression can be dropped. -/
def Expr.isDroppable (u : Undeclared) : Expr → Bool
  | .mk place comments node => node.isDroppable u (.mk place comments node)

def Node.isDroppable (u : Undeclared) (whole : Expr) : Node → Bool
  | .value _ | .hole | .regex _ | .function _ | .arrow .. => true
  | .word text => text = "this" || text = "import.meta"
  | .symbol id => (u id).all fun name => Global.isKnown [name]
  | .dot .. | .index .. => (pathOf? u whole).any Global.isKnown
  | .classExpr c => c.isDroppable u
  | .conditional test yes no =>
    test.isDroppable u && (isGuarded yes test true || yes.isDroppable u) &&
      (isGuarded no test false || no.isDroppable u)
  | .array _ items => areDroppable u true items
  | .object _ members => areMembersDroppable u members
  | .call _ _ layout args => layout.isPure && areDroppable u false args
  | .construct _ layout args => layout.isPure && areDroppable u false args
  | .unary op e =>
    match op with
    | "void" | "!" => e.isDroppable u
    | "typeof" => (e.node matches .symbol _) || e.isDroppable u
    | _ => false
  | .binary op left right =>
    match op with
    | "===" | "!==" | "," | "??" => left.isDroppable u && right.isDroppable u
    | "||" => left.isDroppable u && (isGuarded right left false || right.isDroppable u)
    | "&&" => left.isDroppable u && (isGuarded right left true || right.isDroppable u)
    | "==" | "!=" => areAlike left right && left.isDroppable u && right.isDroppable u
    | "<" | ">" | "<=" | ">=" => areOrdered left right && left.isDroppable u && right.isDroppable u
    | _ => false
  | .template none _ spans => areSpansDroppable u spans
  | _ => false

/-- Whether all of some items can be dropped; a spread among them only if it is an array. -/
def areDroppable (u : Undeclared) (inArray : Bool) : List Expr → Bool
  | [] => true
  | .mk _ _ (.spread (.mk _ _ (.array _ items))) :: rest =>
    inArray && areDroppable u true items && areDroppable u inArray rest
  | e :: rest => e.isDroppable u && areDroppable u inArray rest

/-- Whether the values in a template can be dropped with their conversion to texts. -/
def areSpansDroppable (u : Undeclared) : List Expr → Bool
  | [] => true
  | .mk _ _ (.span value _) :: rest => value.isDroppable u && value.primitive?.isSome && areSpansDroppable u rest
  | .mk .. :: _ => false

/-- Whether the members of an object can be dropped. -/
def areMembersDroppable (u : Undeclared) : List Member → Bool
  | [] => true
  | .mk _ _ _ (.entry key value) :: rest => isFixedKey u key && value.isDroppable u && areMembersDroppable u rest
  | .mk _ _ _ (.method _ key _) :: rest => isFixedKey u key && areMembersDroppable u rest
  | .mk .. :: _ => false

/-- Whether a class can be dropped. -/
def Class.isDroppable (u : Undeclared) : Class → Bool
  | .mk _ decorators base members =>
    decorators.isEmpty && optionIsDroppable u base && areClassMembersDroppable u members

/-- Whether an expression that may be missing can be dropped. -/
def optionIsDroppable (u : Undeclared) : Option Expr → Bool
  | none => true
  | some e => e.isDroppable u

/-- Whether the members of a class can be dropped. -/
def areClassMembersDroppable (u : Undeclared) : List Member → Bool
  | [] => true
  | .mk _ _ decorators node :: rest =>
    decorators.isEmpty && node.isDroppable u && areClassMembersDroppable u rest

def MemberNode.isDroppable (u : Undeclared) : MemberNode → Bool
  | .method _ key _ => isFixedKey u key
  | .field isStatic _ key init => isFixedKey u key && (!isStatic || optionIsDroppable u init)
  | .staticBlock _ body => areStmtsDroppable u body
  | _ => false

/-- Whether statements can be dropped. -/
def areStmtsDroppable (u : Undeclared) : List Stmt → Bool
  | [] => true
  | .mk _ node :: rest => node.isDroppable u && areStmtsDroppable u rest

def StmtNode.isDroppable (u : Undeclared) : StmtNode → Bool
  | .function .. | .empty | .notice _ => true
  | .classDecl _ c => c.isDroppable u
  | .expression e => e.isDroppable u
  | .declaration _ bindings => areBindingsDroppable u bindings
  | .attempt _ body _ last => areStmtsDroppable u body && optionStmtIsDroppable u last
  | _ => false

/-- Whether a block that may be missing can be dropped. -/
def optionStmtIsDroppable (u : Undeclared) : Option Stmt → Bool
  | none => true
  | some (.mk _ (.block _ body)) => areStmtsDroppable u body
  | some (.mk ..) => false

/-- Whether declarations of plain names can be dropped. -/
def areBindingsDroppable (u : Undeclared) : List Expr → Bool
  | [] => true
  | .mk _ _ (.binary _ target value) :: rest =>
    (target.node matches .symbol _) && value.isDroppable u && areBindingsDroppable u rest
  | .mk _ _ (.symbol _) :: rest => areBindingsDroppable u rest
  | .mk .. :: _ => false

end

end Distill.TypeScript
