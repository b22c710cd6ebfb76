import Distill.Concrete.Reader

/-!
Parentheses where a part needs them. What is written in a text has the parentheses it needs; but without a type that it
was claimed to have, an expression can stand right inside another one where it could not stand before. So the parts of a
changed node are wrapped as their places demand, changed or not.
-/
namespace Distill.Concrete

/-- How tightly an expression holds together. -/
abbrev Strength := Nat

namespace Strength

def none : Strength := 0
def comma : Strength := 1
def spread : Strength := 2
def yielding : Strength := 3
def assignment : Strength := 4
/-- The strength of a choice, and of `??`. -/
def choice : Strength := 5
def unary : Strength := 17
def update : Strength := 18
def operand : Strength := 19
def member : Strength := 20
def primary : Strength := 21

/-- The strength of a binary expression. -/
def ofOperator : String → Strength
  | "," => comma
  | "??" => choice
  | "||" => 6
  | "&&" => 7
  | "|" => 8
  | "^" => 9
  | "&" => 10
  | "==" | "!=" | "===" | "!==" => 11
  | "<" | ">" | "<=" | ">=" | "in" | "instanceof" => 12
  | "<<" | ">>" | ">>>" => 13
  | "+" | "-" => 14
  | "*" | "/" | "%" => 15
  | "**" => 16
  | _ => assignment

end Strength

/-- Whether operators of a kind group from the right. -/
def groupsRight (operator : String) : Bool := operator = "**" || Strength.ofOperator operator = .assignment

/-- The expression without the marks that a type was asserted. -/
def Tree.bare : Tree → Tree
  | .mk extent isChanged node =>
    match node with
    | .asserted _ inner => inner.bare
    | node => .mk extent isChanged node

/-- How tightly an expression holds together. -/
def Node.strength : Node → Strength
  | .spread _ => .spread
  | .yielding .. => .yielding
  | .conditional .. => .choice
  | .binary _ operator _ => .ofOperator operator.text
  | .unary .. | .wordUnary .. => .unary
  | .suffix .. => .update
  | .call .. => .operand
  | .construct _ list _ => if list.isSome then .member else .operand
  | .tagged .. | .access .. | .index .. | .metaProperty .. => .member
  | .applied _ => .none
  | _ => .primary

/-- Whether an expression can be called or have members. -/
def Node.isOperand : Node → Bool
  | .access .. | .index .. | .construct .. | .call .. | .tagged .. | .array .. | .group .. | .wrapped _ | .object ..
  | .classLike .. | .function .. | .name _ | .word _ | .literal .. | .template .. | .applied _ | .metaProperty .. => true
  | _ => false

/-- Whether an expression is written like one that can be assigned to. -/
def Tree.isTarget (t : Tree) : Bool :=
  match t.node with
  | .asserted kind _ => kind = .groupedClaim || kind = .presence
  | node => node.isOperand

/-- Whether an expression can stand after an operator with one operand. -/
def Node.isUnary (n : Node) : Bool :=
  match n with
  | .unary .. | .wordUnary .. | .suffix .. => true
  | _ => n.isOperand

/-- Whether an expression is part of a chain that may end early. -/
def Node.isChain : Node → Bool
  | .access _ _ isChain _ | .index _ _ isChain _ | .call _ _ isChain _ _ => isChain
  | _ => false

/-- Whether an expression is a sequence. -/
def Node.isSequence : Node → Bool
  | .binary _ operator _ => operator.text = ","
  | _ => false

/-- The expression that an expression starts with. With `stops`, a call counts as such. -/
def Tree.leftmost (stops : Bool) : Tree → Tree
  | .mk extent isChanged node =>
    match node with
    | .suffix _ operand => operand.leftmost stops
    | .binary left _ _ => left.leftmost stops
    | .conditional test _ _ _ _ => test.leftmost stops
    | .tagged tag _ => tag.leftmost stops
    | .call callee _ _ _ _ => if stops then .mk extent isChanged node else callee.leftmost stops
    | .index owner _ _ _ => owner.leftmost stops
    | .access owner _ _ _ => owner.leftmost stops
    | .asserted _ inner => inner.leftmost stops
    | node => .mk extent isChanged node

/-- An expression in parentheses that take its place. -/
def Tree.wrapped (t : Tree) : Tree := .mk t.extent true (.wrapped t)

/-- An expression in parentheses that stand nowhere. -/
def Tree.wrappedInside (t : Tree) : Tree := .mk .made true (.wrapped t)

/-- Operators for which the grouping of operands does not matter. -/
def isAssociative (operator : String) : Bool := ["*", "|", "&", "^", ","].contains operator

/-- The kind of literal that a sum is made of, if all its operands are of one kind. -/
def Tree.addedKind? : Tree → Option LiteralKind
  | .mk _ _ node =>
    match node with
    | .literal kind _ => some kind
    | .asserted _ inner => inner.addedKind?
    | .binary left operator right =>
      if operator.text ≠ "+" then none
      else match left.addedKind? with
        | some kind => if right.addedKind? = some kind then some kind else none
        | none => none
    | _ => none

namespace Tree

/-- Whether an operand has to be wrapped. -/
def needsWrapAsOperand (operator : String) (t : Tree) (left : Option Tree) : Bool :=
  let own := Strength.ofOperator operator
  let bare := t.bare
  let isLeft := left.isNone
  let isArrow := match t.node with
    | .arrow .. => true
    | _ => false
  let isYield := match t.node with
    | .yielding .. => true
    | _ => false
  if !isLeft && isArrow && .assignment < own then true
  else if bare.node.strength < own then !(!isLeft && groupsRight operator && isYield)
  else if own < bare.node.strength then false
  else if isLeft then groupsRight operator
  else match bare.node with
    | .binary _ inner _ =>
      if inner.text = operator && isAssociative operator then false
      else if inner.text = operator && operator = "+" &&
        ((left.bind addedKind?).isSome && left.bind addedKind? = bare.addedKind?) then false
      else !groupsRight inner.text
    | .conditional .. | .yielding .. => false
    | _ => true

/-- An operand of a binary operator; `left` is the one before it. -/
def asOperand (operator : String) (left : Option Tree) (t : Tree) : Tree :=
  match t.bare.node with
  | .group .. | .wrapped _ => t
  | _ => if t.needsWrapAsOperand operator left then t.wrappedInside else t

/-- What has members or is called. -/
def asObject (inChain : Bool) (t : Tree) : Tree :=
  let bare := t.bare.node
  let isBareNew := match bare with
    | .construct _ none _ => true
    | _ => false
  if bare.isOperand && !isBareNew && (inChain || !bare.isChain) then t else t.wrapped

/-- What is constructed. -/
def asConstructed (t : Tree) : Tree :=
  match (t.leftmost true).node with
  | .call .. | .construct _ none _ => t.wrappedInside
  | _ => t.asObject false

def asSuffixed (t : Tree) : Tree := if t.bare.node.isOperand then t else t.wrapped

def asUnary (t : Tree) : Tree := if t.bare.node.isUnary then t else t.wrapped

/-- An entry of a list with commas. -/
def asEntry (t : Tree) : Tree := if .comma < t.bare.node.strength then t else t.wrapped

/-- A key in brackets. -/
def asKey (t : Tree) : Tree := if t.node.isSequence then t.wrappedInside else t

/-- What a choice depends on. -/
def asTest (t : Tree) : Tree := if .choice < t.bare.node.strength then t else t.wrappedInside

/-- What is chosen. -/
def asBranch (t : Tree) : Tree := if t.bare.node.isSequence then t.wrappedInside else t

/-- What a module gives by default. -/
def asDefault (t : Tree) : Tree :=
  if t.bare.node.isSequence then t.wrappedInside
  else match (t.bare.leftmost false).node with
    | .classLike .. | .function .. => t.wrappedInside
    | _ => t

/-- An expression as a statement: one that starts like another statement is wrapped. -/
def asStatement : Tree → Tree
  | .mk extent isChanged node =>
    let whole (t : Tree) : Tree := match (t.bare.leftmost false).node with
      | .object .. | .function .. => t.wrapped
      | _ => t
    match node with
    | .asserted kind inner =>
      match inner.bare.node with
      | .call callee _ _ _ _ =>
        match callee.bare.node with
        | .function .. | .arrow .. => .mk extent isChanged (.asserted kind inner.asStatement)
        | _ => whole (.mk extent isChanged node)
      | _ => whole (.mk extent isChanged node)
    | .call callee mark isChain list args =>
      match callee.bare.node with
      | .function .. | .arrow .. => .mk extent isChanged (.call callee.wrapped mark isChain list args)
      | _ => whole (.mk extent isChanged node)
    | node => whole (.mk extent isChanged node)

/-- What a concise function gives back. -/
def asResult (t : Tree) : Tree :=
  match t.node, (t.leftmost false).node with
  | .block .., _ => t
  | _, .object .. => t.wrapped
  | node, _ => if node.isSequence then t.wrapped else t

end Tree

/-- A changed node whose parts are wrapped where they need it. -/
def Node.regrouped : Node → Node
  | .array isMultiLine list items => .array isMultiLine list (items.map Tree.asEntry)
  | .access owner mark isChain key => .access (owner.asObject isChain) mark isChain key
  | .index owner mark isChain key => .index (owner.asObject isChain) mark isChain key
  | .call callee mark isChain list args => .call (callee.asObject isChain) mark isChain list (args.map Tree.asEntry)
  | .construct callee list args => .construct callee.asConstructed list (args.map Tree.asEntry)
  | .tagged tag text => .tagged (tag.asObject false) text
  | .applied inner => .applied (inner.asObject false)
  | .unary operator operand => .unary operator operand.asUnary
  | .wordUnary operator operand => .wordUnary operator operand.asUnary
  | .suffix operator operand => .suffix operator operand.asSuffixed
  | .binary left operator right =>
    let left := left.asOperand operator.text none
    .binary left operator (right.asOperand operator.text (some left))
  | .conditional test question yes colon no => .conditional test.asTest question yes.asBranch colon no.asBranch
  | .spread value => .spread value.asEntry
  | .yielding star value => .yielding star (value.map Tree.asEntry)
  | .computed value => .computed value.asKey
  | .arrow modifiers isPlain list params mark body => .arrow modifiers isPlain list params mark body.asResult
  | .entry key value => .entry key value.asEntry
  | .shorthand key value => .shorthand key (value.map Tree.asEntry)
  | .parameter comments modifiers isField dots target value =>
    .parameter comments modifiers isField dots target (value.map Tree.asEntry)
  | .patternItem dots property target value => .patternItem dots property target (value.map Tree.asEntry)
  | .declarator target type value => .declarator target type (value.map Tree.asEntry)
  | .expression value => .expression value.asStatement
  | .clause test list body => .clause (test.map Tree.asEntry) list body
  | .each isAwait keyword init source body =>
    .each isAwait keyword init (if keyword = "of" then source.asEntry else source) body
  | .exportDefault isEquals value =>
    .exportDefault isEquals (if isEquals then value.asOperand "=" none else value.asDefault)
  | node => node

/-- The part that begins at a place and ends before the current token. If it is changed, its parts are wrapped. -/
def build (from_ : Start) (node : Node) : Read Tree := do
  if ← isChangedSince from_ then finish from_ node.regrouped else finish from_ node

end Distill.Concrete
