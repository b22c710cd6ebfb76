import Distill.TypeScript.Constant

/-!
What is sure of the result of an expression: whether it counts as true, whether it is `null` or `undefined`, and which
kind of primitive value it is.
-/
namespace Distill.TypeScript

/-- What is sure of an expression, and whether nothing happens on the way to it. -/
structure Sure where
  value : Bool
  isPure : Bool
deriving DecidableEq, Repr

/-- The value of an expression that is one. -/
def Expr.constant? (e : Expr) : Option Constant :=
  match e.node with
  | .value c => some c
  | _ => none

mutual

/-- Whether an expression counts as true. -/
def Expr.truth? : Expr → Option Sure
  | .mk _ _ node => node.truth?

def Node.truth? : Node → Option Sure
  | .value c => c.isTrue?.map fun b => ⟨b, true⟩
  | .function _ | .arrow .. | .regex _ => some ⟨true, true⟩
  | .object .. | .array .. | .classExpr _ => some ⟨true, false⟩
  | .unary op e =>
    match op with
    | "void" => some ⟨false, false⟩
    | "typeof" => some ⟨true, e.node matches .symbol _⟩
    | "!" => e.truth?.map fun t => { t with value := !t.value }
    | _ => none
  | .binary op _ right =>
    match op with
    | "||" => (right.truth?.filter (·.value)).map fun _ => ⟨true, false⟩
    | "&&" => (right.truth?.filter fun t => !t.value).map fun _ => ⟨false, false⟩
    | "," => right.truth?.map fun t => { t with isPure := false }
    | _ => none
  | _ => none

end

/-- Operators that never give `null` or `undefined`. -/
def alwaysSomething : List String := [
  "+", "-", "*", "/", "%", "**", "<<", ">>", ">>>", "|", "^", "&", "<", ">", "<=", ">=", "in", "instanceof", "==", "!=",
  "===", "!==", "+=", "-=", "*=", "/=", "%=", "**=", "<<=", ">>=", ">>>=", "|=", "^=", "&="]

mutual

/-- Whether an expression gives `null` or `undefined`. -/
def Expr.nullish? : Expr → Option Sure
  | .mk _ _ node => node.nullish?

def Node.nullish? : Node → Option Sure
  | .value .undefined | .value .null => some ⟨true, true⟩
  | .value _ | .function _ | .arrow .. | .regex _ => some ⟨false, true⟩
  | .object .. | .array .. | .classExpr _ | .suffix .. => some ⟨false, false⟩
  | .unary op _ => if op = "void" then some ⟨true, false⟩ else if op = "await" then none else some ⟨false, false⟩
  | .binary op _ right =>
    if op = "," then right.nullish?.map fun n => { n with isPure := false }
    else if alwaysSomething.contains op then some ⟨false, false⟩
    else none
  | _ => none

end

/-- The kinds of primitive values. -/
inductive Primitive where
  | null
  | undefined
  | truth
  | number
  | integer
  | text
  /-- One of several kinds. -/
  | mixed
deriving DecidableEq, Repr

namespace Primitive

def ofConstant : Constant → Primitive
  | .undefined => undefined
  | .null => null
  | .truth _ => truth
  | .number .. => number
  | .integer _ => integer
  | .text .. => text

/-- The kind of what is one of two values. -/
def either (a b : Option Primitive) : Option Primitive := do
  let x ← a
  let y ← b
  return if x = y then x else mixed

/-- The kind of a value that takes the place of another if that is `null` or `undefined`. -/
def coalesced (a b : Option Primitive) : Option Primitive :=
  match a with
  | none => none
  | some null | some undefined => b
  | some mixed => b.map fun _ => mixed
  | some kind => some kind

/-- Whether a sign or a sum surely makes a number of a value of a kind that is no text. -/
def isNumeric : Option Primitive → Bool
  | none | some mixed | some integer => false
  | _ => true

/-- The kind of a sum. -/
def sum (a b : Option Primitive) : Primitive :=
  if a = some text || b = some text then text
  else if a = some integer && b = some integer then integer
  else if isNumeric a && isNumeric b then number
  else mixed

end Primitive

/-- Operators that give a number or an integer of any size. -/
def numericOperators : List String := [
  "-", "*", "/", "%", "**", "&", "|", "^", "<<", ">>", ">>>", "-=", "*=", "/=", "%=", "**=", "&=", "|=", "^=", "<<=",
  ">>=", ">>>="]

mutual

/-- The kind of the primitive value that an expression gives; nothing if it may give something else. -/
def Expr.primitive? : Expr → Option Primitive
  | .mk _ _ node => node.primitive?

def Node.primitive? : Node → Option Primitive
  | .value c => some (.ofConstant c)
  | .template none _ _ => some .text
  | .conditional _ yes no => Primitive.either yes.primitive? no.primitive?
  | .suffix .. => some .mixed
  | .unary op e =>
    match op with
    | "void" => some .undefined
    | "typeof" => some .text
    | "!" | "delete" => some .truth
    | "+" => some .number
    | "-" | "~" =>
      match e.primitive? with
      | some .integer => some .integer
      | kind => some (if Primitive.isNumeric kind then .number else .mixed)
    | "++" | "--" => some .mixed
    | _ => none
  | .binary op left right =>
    if ["===", "!==", "==", "!=", "<", ">", "<=", ">=", "instanceof", "in"].contains op then some .truth
    else if numericOperators.contains op then some .mixed
    else match op with
      | "||" | "&&" => Primitive.either left.primitive? right.primitive?
      | "??" => Primitive.coalesced left.primitive? right.primitive?
      | "+" => some (.sum left.primitive? right.primitive?)
      | "+=" => some (if right.primitive? = some .text then .text else .mixed)
      | "=" | "," => right.primitive?
      | _ => none
  | _ => none

end

/-- The word for the type of an expression, if that is sure and nothing happens on the way. -/
def Node.typeWord? : Node → Option String
  | .function _ | .arrow .. => some "function"
  | .value c => some c.typeWord
  | _ => none

/-- Whether a chain of members and calls stops at its start, because it starts with an optional step from `null` or
`undefined`. -/
def nothingToGoOn : Expr → Bool
  | .mk _ _ node =>
    match node with
    | .dot object isOptional _ | .index object isOptional _ | .call object isOptional _ _ =>
      isOptional && (object.node matches .value .null | .value .undefined) || nothingToGoOn object
    | _ => false

/-- The comments at the start of an expression. -/
def Expr.leadingComments : Expr → List String
  | .mk _ comments node =>
    match node with
    | .binary _ left _ => left.leadingComments
    | .conditional test _ _ => test.leadingComments
    | .suffix _ operand => operand.leadingComments
    | .call callee _ _ _ => callee.leadingComments
    | .dot object _ _ | .index object _ _ => object.leadingComments
    | .template (some tag) _ _ => tag.leadingComments
    | .group inner | .assertion _ inner => comments ++ inner.leadingComments
    | _ => comments

/-- An expression with more comments at its start. -/
def Expr.remarked (more : List String) : Expr → Expr
  | .mk place comments node =>
    match node with
    | .binary op left right => .mk place comments (.binary op (left.remarked more) right)
    | .conditional test yes no => .mk place comments (.conditional (test.remarked more) yes no)
    | .suffix op operand => .mk place comments (.suffix op (operand.remarked more))
    | .call callee isOptional layout args => .mk place comments (.call (callee.remarked more) isOptional layout args)
    | .dot object isOptional member => .mk place comments (.dot (object.remarked more) isOptional member)
    | .index object isOptional key => .mk place comments (.index (object.remarked more) isOptional key)
    | .template (some tag) head spans => .mk place comments (.template (some (tag.remarked more)) head spans)
    | node => .mk place (more ++ comments) node

end Distill.TypeScript
