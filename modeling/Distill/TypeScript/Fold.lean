import Distill.TypeScript.Effect
import Distill.TypeScript.Symbol

/-!
Operators on values that are known. Negations, `typeof`, signs, comparisons for equality, choices and sums with a text
are worked out in place. Where it is not sure what an operator gives, the operation stays.
-/
namespace Distill.TypeScript

/-- The number that a sign makes of an expression. -/
def Node.asNumber? : Node → Option Constant
  | .value c => c.asNumber?
  | .regex _ => some (.number false "NaN")
  | .array _ [] => some (.number false "0")
  | .object _ [] => some (.number false "NaN")
  | _ => none

/-- What an operator before an operand gives. -/
def unaryValue? (u : Undeclared) (op : String) (e : Expr) : Option Constant :=
  match op with
  | "!" => (e.truth?.filter fun t => t.isPure || e.isDroppable u).map fun t => .truth !t.value
  | "typeof" => e.node.typeWord?.map .ofString
  | "void" => if e.isDroppable u then some .undefined else none
  | "+" => e.node.asNumber?
  | "-" => e.node.asNumber?.map Constant.negated
  | _ => none

/-- The text of an expression in a sum with a text, where that is sure. -/
def Node.asText (e : Node) : Node :=
  match e with
  | .value c => .value (c.asText?.getD c)
  | .regex text => .value (.ofString text)
  | .dot target _ "constructor" =>
    match target.node with
    | .value (.text ..) => .value (.ofString "function String() \x7b [native code] \x7d")
    | .regex _ => .value (.ofString "function RegExp() \x7b [native code] \x7d")
    | _ => e
  | e => e

/-- The text of an item of an array. -/
def itemText? (item : Node) : Option (List Nat) :=
  match item with
  | .value .null | .value .undefined => some []
  | _ =>
    match item.asText with
    | .value (.text codePoints _) => some codePoints
    | _ => none

/-- The texts of items with commas between them. -/
def itemsText? : List Expr → Option (List Nat)
  | [] => some []
  | [e] => itemText? e.node
  | e :: rest => do return (← itemText? e.node) ++ ','.toNat :: (← itemsText? rest)

/-- An operand of a sum: an array of plain values and an empty object count as texts. -/
def Node.asOperand (e : Node) : Node :=
  match e with
  | .array _ items => ((itemsText? items).map fun codePoints => Node.value (.text codePoints false)).getD e
  | .object _ [] => .value (.ofString "[object Object]")
  | _ => e

/-- The code points of a part of a template. -/
def templateContent (part : String) : List Nat :=
  let cs := part.toList
  let tail := if cs.getLast? = some '\x60' then 1 else 2
  decodeLiteral ((cs.drop 1).take (cs.length - 1 - tail))

/-- A part of a template with other content. -/
def withContent (part : String) (content : List Nat) : String :=
  let cs := part.toList
  let tail := if cs.getLast? = some '\x60' then 1 else 2
  String.ofList (cs.take 1) ++ writeCodePoints '\x60' content ++ String.ofList (cs.drop (cs.length - tail))

/-- The parts of a template with text after the last of them. -/
def appendText (content : List Nat) : List Expr → List Expr
  | [] => []
  | [last] =>
    match last.node with
    | .span value part => [last.replace (.span value (withContent part (templateContent part ++ content)))]
    | _ => [last]
  | e :: rest => e :: appendText content rest

/-- The parts of a template with those of another template after them. -/
def appendTemplate (head : String) (more : List Expr) : List Expr → List Expr
  | [] => []
  | [last] =>
    match last.node with
    | .span value part =>
      let content := templateContent part ++ templateContent head
      let opened := "\x7d" ++ writeCodePoints '\x60' content ++ (if more.isEmpty then "\x60" else "$\x7b")
      last.replace (.span value opened) :: more
    | _ => last :: more
  | e :: rest => e :: appendTemplate head more rest

/-- An expression in the place of another one, with the comments at its start. -/
def Expr.inPlaceOf (e : Expr) (node : Node) : Expr := .mk e.place e.leadingComments node

/-- What a sum gives in which one side is surely a text. The left side of a longer sum is left as it is. -/
def sum? (left right : Expr) (isNested : Bool) : Option Expr :=
  let l := left.node.asOperand
  let r := right.node.asOperand
  let isString (n : Node) : Bool := n matches .value (.text ..) | .template ..
  let start := if !isNested && isString r then l.asText else l
  let isEmpty (n : Node) : Bool := n matches .value (.text [] _)
  if isEmpty start && r.primitive? = some .text then some (right.inPlaceOf r)
  else
    let folded : Option Node := match start, r.asText with
      | .value (.text a isTemplate), .value (.text b isTemplate') =>
        some (.value (.text (a ++ b) (isTemplate || isTemplate')))
      | .value (.text a _), .template none head spans =>
        some (.template none (withContent head (a ++ templateContent head)) spans)
      | .template none head spans, .value (.text b _) => some (.template none head (appendText b spans))
      | .template none head spans, .template none head' spans' =>
        some (.template none head (appendTemplate head' spans' spans))
      | _, _ => none
    match folded with
    | some node => some (left.inPlaceOf node)
    | none => if isEmpty r && l.primitive? = some .text then some left else none

/-- Whether a call of an expression would pass it the object that it is a member of. -/
def hasReceiver (e : Expr) : Bool := e.node matches .dot .. | .index ..

/-- An expression with a zero before it, so that it is only a value. -/
def valueOnly (e : Expr) : Expr :=
  .mk e.place [] (.binary "," (.mk e.place [] (.value (.number false "0"))) e)

/-- Whether an operator would mean something else for an expression than for what stood there: `typeof` forgives a name
that nothing declares, and `delete` deletes members. -/
def changesMeaning (u : Undeclared) (op : String) (before after : Node) : Bool :=
  match op with
  | "typeof" =>
    match before, after with
    | .name _, _ => false
    | _, .symbol id => (u id).isSome
    | _, _ => false
  | "delete" =>
    !(before matches .name _ | .dot .. | .index ..) && (after matches .symbol _ | .dot .. | .index ..)
  | _ => false

/-- Whether a call has no effect: of a function of which that is said, or one that makes an empty object. -/
def isPureCall (u : Undeclared) (table : SymbolTable) (callee : Expr) (isOptional : Bool) (args : List Expr) : Bool :=
  match callee.node with
  | .symbol id => (table.symbol? id).any (·.isPure)
  | .dot _ false _ =>
    let isPlain := match args with
      | [e] => (e.node matches .value .null | .object ..)
      | _ => false
    !isOptional && isPlain && pathOf? u callee = some ["Object", "create"]
  | _ => false

/-- Whether an item is an array. -/
def isArray (e : Expr) : Bool := e.node matches .array ..

/-- Whether an expression is an array of arrays. -/
def holdsArrays (e : Expr) : Bool :=
  match e.node with
  | .array _ items => items.all isArray
  | _ => false

/-- Whether a date is made of a value without running code of that value. -/
def isMoment (e : Expr) : Bool :=
  match e.primitive? with
  | some .null | some .undefined | some .truth | some .number | some .text => true
  | _ => false

/-- Whether making an object has no effect: a collection that is empty or made of arrays, or a date. -/
def isPureConstruct (u : Undeclared) (callee : Expr) (args : List Expr) : Bool :=
  let isNothing (e : Expr) : Bool := (e.node matches .value .null | .value .undefined)
  let alone (test : Expr → Bool) : Bool := match args with
    | [] => true
    | [e] => test e
    | _ => false
  match callee.node with
  | .symbol id =>
    match u id with
    | some "WeakSet" | some "WeakMap" => alone fun e => isNothing e || (e.node matches .array _ [])
    | some "Set" => alone fun e => isNothing e || isArray e
    | some "Map" => alone fun e => isNothing e || holdsArrays e
    | some "Date" => alone isMoment
    | _ => false
  | _ => false

/-- One of two operands, when it is sure which one is the result and nothing happens in the other. The right one does not
get a receiver that it did not have. -/
def choice? (sure : Option Sure) (picksLeft : Bool) (isCalled : Bool) (left right : Expr) : Option Expr :=
  match sure with
  | none => none
  | some s =>
    if s.value = picksLeft then some left
    else if !s.isPure then none
    else some (if isCalled && hasReceiver right then valueOnly right else right)

/-- What an operator between two operands gives. A text is also added to a text at the end of a longer sum. -/
def binaryValue? (isCalled : Bool) (op : String) (left right : Expr) : Option Expr :=
  let equality (strictly wanted : Bool) : Option Expr := do
    let b ← (← left.constant?).equal? strictly (← right.constant?)
    return left.inPlaceOf (.value (.truth (b = wanted)))
  match op with
  | "+" =>
    sum? left right false <|> match left.node with
      | .binary "+" before last => (sum? last right true).map fun e => left.replace (.binary "+" before e)
      | _ => none
  | "==" => equality false true
  | "!=" => equality false false
  | "===" => equality true true
  | "!==" => equality true false
  | "&&" => choice? left.truth? false isCalled left right
  | "||" => choice? left.truth? true isCalled left right
  | "??" => choice? left.nullish? false isCalled left right
  | _ => none

end Distill.TypeScript
