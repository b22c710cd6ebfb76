import Distill.Concrete.Binding

/-!
Expressions. Where a type was claimed, the expression stays; parentheses around nothing but such an expression go, unless
a comment on a line of its own stands right inside of them.
-/
namespace Distill.Concrete

namespace Grammar

variable (g : Grammar)

/-- The longest mark that starts with `>` is taken as one token. -/
def joinGreater : Read Unit := modify fun s =>
  if s.token.is ">" then
    match [">>>=", ">>>", ">>=", ">>", ">="].find? fun mark => Script.startsWith mark ('>' :: s.rest) with
    | some mark =>
      let more := mark.length - 1
      let token := { s.token with text := mark, raw := mark, stop := s.token.stop + more }
      { s with token, rest := s.rest.drop more, left := s.left - more }
    | none => s
  else s

/-- Takes a regular expression from its first slash on, as one token; tells whether there is one. -/
def joinRegex : Read Bool := do
  let s ← get
  let from_ := s.token.raw.toList ++ s.rest
  match TypeScript.scanRegex (s.left + s.token.raw.length) from_ with
  | .ok (found, _) =>
    let written := (from_.drop found.length).takeWhile Text.isIdentifierPart
    let length := found.length + written.length
    let raw := String.ofList (from_.take length)
    let token := { s.token with kind := .regex, text := raw, raw, stop := s.token.start + length }
    set { s with token, rest := from_.drop length, left := s.left + s.token.raw.length - length }
    return true
  | .error _ => return false

/-- A word as an expression. -/
def wordOf : Read Tree := do
  let from_ ← start
  let t ← token
  next
  build from_ (.word t.raw)

/-- An expression in parentheses. -/
def groupOf : Read Tree := do
  let from_ ← start
  next
  let isRemarked := (← token).isRemarked
  let inner ← allowingIn g.expression
  expect ")"
  let isClaim := match inner.node with
    | .asserted kind _ => kind = .claim || kind = .groupedClaim
    | .group isClaim _ => isClaim
    | _ => false
  if isClaim && !isRemarked then build from_ (.asserted .groupedClaim inner) else build from_ (.group isClaim inner)

/-- An entry of an array or a list of arguments. -/
def item : Read Tree := do
  let from_ ← start
  if ← optional "..." then
    let value ← g.assignment true
    build from_ (.spread value)
  else if ← sees "," then finish from_ .omitted
  else g.assignment true

/-- The setting outside of what forbids `in` and what a decorator forbids. -/
def freely (p : Read α) : Read α := within (fun s => { s with withoutIn := false, inDecorator := false }) p

/-- The arguments of a call. -/
def arguments : Read (Listing × List Tree) := do
  expect "("
  let list ← readDivided .arguments (freely (item g))
  expect ")"
  return list

/-- The substitutions of a template. -/
def templateSpans : (fuel : Nat) → Read (List Tree)
  | 0 => return []
  | fuel + 1 => do
    let from_ ← start
    let value ← allowingIn g.expression
    if ← sees "\x7d" then
      rescanTemplate
      let t ← token
      let literalFrom ← start
      next
      let text ← finish literalFrom (.literal .template t.raw)
      let span ← build from_ (.span value text)
      if t.kind = .templateMiddle then return span :: (← templateSpans fuel) else return [span]
    else
      fault
      let literalFrom ← start
      let text ← finish literalFrom (.literal .template "")
      return [← build from_ (.span value text)]

/-- A template, with substitutions or without. -/
def templateOf : Read Tree := do
  let from_ ← start
  if ← seesKind .template then literalOf .template
  else
    let head ← literalOf .template
    let spans ← templateSpans g (← plenty)
    build from_ (.template head spans)

def seesTemplate : Read Bool := do
  let t ← token
  return t.kind = .template || t.kind = .templateHead

/-- Whether an expression is part of a chain that may end early. -/
def isInChain : Tree → Bool
  | .mk _ _ node =>
    match node with
    | .asserted .presence inner => isInChain inner
    | node => node.isChain

/-- Whether what follows shows that a list in angle brackets is one of types. -/
def canFollowTypes : Read Bool := do
  let t ← token
  if t.is "(" || t.kind = .template || t.kind = .templateHead then return true
  if t.isOneOf ["<", ">", "+", "-"] then return false
  if t.newline then return true
  if ← seesOperator then return true
  return !(← seesExpression)

/-- Types in angle brackets after an expression, if they cannot be anything else. -/
def typeArguments : Read (Option Unit) := attempt do
  splitLess
  if !(← optional "<") then return none
  discard (readDivided .typeArguments g.type)
  joinGreater
  if !(← optional ">") then return none
  if ← canFollowTypes then
    erase
    return some ()
  return none

/-- The expression that is called or constructed with types, without the parentheses it would need if it were not. -/
def absorbed (t : Tree) : Tree :=
  match t.node with
  | .applied inner =>
    match inner.node with
    | .wrapped inner => inner
    | _ => inner
  | _ => t

/-- The key in brackets, after the first bracket. -/
def bracketKey : Read Tree := do
  let key ← if ← sees "]" then missingName else allowingIn g.expression
  expect "]"
  return key

/-- A member of an expression by its name. -/
def accessOf (from_ : Start) (owner : Tree) (mark : Option Leaf) : Read Tree := do
  let name ← nameAfterPoint true true
  build from_ (.access owner mark (mark.isSome || isInChain owner) name)

/-- The members, templates and assertions after an expression. -/
def memberRest (from_ : Start) (mayChain : Bool) : (fuel : Nat) → Tree → Read Tree
  | 0, t => return t
  | fuel + 1, t => do
    let startsChain ← if mayChain && (← sees "?.") then
        nextIs false fun t => t.isMemberName || t.is "[" || t.kind = .template || t.kind = .templateHead
      else pure false
    let mark ← if startsChain then some <$> leaf else pure none
    let isAccess ← if mark.isSome then pure (← token).isMemberName else optional "."
    if isAccess then memberRest from_ mayChain fuel (← accessOf from_ t mark)
    else if (← sees "[") && (mark.isSome || !(← get).setting.inDecorator) then
      next
      let key ← bracketKey g
      memberRest from_ mayChain fuel (← build from_ (.index t mark (mark.isSome || isInChain t) key))
    else if ← seesTemplate then
      let text ← templateOf g
      let tag := if mark.isNone then absorbed t else t
      memberRest from_ mayChain fuel (← build from_ (.tagged tag text))
    else if mark.isSome then return t
    else if (← sees "!") && !(← token).newline then
      next
      erase
      memberRest from_ mayChain fuel (← build from_ (.asserted .presence t))
    else if (← typeArguments g).isSome then memberRest from_ mayChain fuel (← build from_ (.applied t))
    else return t

/-- The calls and members after an expression. -/
def callRest (from_ : Start) : (fuel : Nat) → Tree → Read Tree
  | 0, t => return t
  | fuel + 1, t => do
    let t ← memberRest g from_ true fuel t
    let mark ← optionalLeaf "?."
    let hasTypes ← if mark.isSome then pure (← typeArguments g).isSome else pure false
    if mark.isSome && (← seesTemplate) then
      let text ← templateOf g
      callRest from_ fuel (← build from_ (.tagged t text))
    else if hasTypes || (← sees "(") then
      let callee := if mark.isNone then absorbed t else t
      let (list, args) ← arguments g
      callRest from_ fuel (← build from_ (.call callee mark (mark.isSome || isInChain callee) list args))
    else if mark.isSome then
      let name ← missingName
      build from_ (.access t mark true name)
    else return t

/-- What comes after the word `new`. -/
def construct (primary : Read Tree) : Read Tree := do
  let from_ ← start
  next
  if ← optional "." then
    let name ← readMemberName
    build from_ (.metaProperty "new" name)
  else
    let innerFrom ← start
    let inner ← memberRest g innerFrom false (← plenty) (← primary)
    let callee := absorbed inner
    if ← sees "(" then
      let (list, args) ← arguments g
      build from_ (.construct callee (some list) args)
    else build from_ (.construct callee none [])

/-- An array. -/
def arrayOf : Read Tree := do
  let from_ ← start
  next
  let isMultiLine := (← token).newline
  let (list, items) ← readDivided .arrayItems (item g)
  expect "]"
  build from_ (.array isMultiLine list items)

/-- An object. -/
def objectOf : Read Tree := do
  let from_ ← start
  next
  let isMultiLine := (← token).newline
  let (list, members) ← readDivided .objectMembers g.objectMember
  expect "\x7d"
  build from_ (.object isMultiLine list members)

/-- A name that is used. A decorated class has another name inside of it. -/
def usedName : Read Tree := do
  let t ← readName
  match t.node with
  | .name text =>
    match (← get).setting.aliases.lookup text with
    | some name =>
      modify fun s => { s with usedNames := name :: s.usedNames }
      return .mk t.extent t.isChanged (.name name)
    | none => return t
  | _ => return t

/-- An expression without anything after it. -/
def primary : (fuel : Nat) → Read Tree
  | 0 => missingName
  | fuel + 1 => do
    let t ← token
    match t.kind with
    | .number => literalOf .number
    | .bigInteger => literalOf .bigInteger
    | .string => literalOf .string
    | .template | .templateHead => templateOf g
    | _ =>
      if t.isOneOf ["this", "super", "null", "true", "false"] then wordOf
      else if t.is "(" then groupOf g
      else if t.is "[" then arrayOf g
      else if t.is "\x7b" then objectOf g
      else if t.is "function" then g.functionExpression
      else if t.is "class" then g.classExpression
      else if t.is "new" then construct g (primary fuel)
      else if t.is "/" || t.is "/=" then
        if ← joinRegex then literalOf .regex else usedName
      else if t.is "async" then
        if ← nextIs true (·.is "function") then g.functionExpression else usedName
      else if t.is "@" then
        discard (readDecorators g (← plenty))
        if ← sees "class" then g.classExpression else missingName
      else usedName

/-- The word `super` with what has to follow it. -/
def superOf : Read Tree := do
  let from_ ← start
  let word ← wordOf
  if ← sees "<" then discard (typeArguments g)
  if ← seesOneOf ["(", ".", "["] then return word
  expect "."
  let name ← nameAfterPoint true true
  build from_ (.access word none false name)

/-- An expression that can be called, with its calls. -/
def readOperand : Read Tree := do
  let from_ ← start
  let fuel ← plenty
  let member : Read Tree := do memberRest g from_ true fuel (← primary g fuel)
  let t ←
    if ← sees "import" then
      if ← nextIs false fun t => t.isOneOf ["(", "<"] then wordOf
      else if ← nextIs false (·.is ".") then
        next
        next
        if ← sees "meta" then modify fun s => { s with hasMeta := true }
        let name ← readMemberName
        build from_ (.metaProperty "import" name)
      else member
    else if ← sees "super" then superOf g
    else member
  callRest g from_ fuel t

/-- An expression with `++` or `--`. -/
def update : Read Tree := do
  let from_ ← start
  let t ← token
  if t.isOneOf ["++", "--"] then
    next
    let operand ← readOperand g
    build from_ (.unary t.text operand)
  else
    let operand ← readOperand g
    let t ← token
    if t.isOneOf ["++", "--"] && !t.newline then
      next
      build from_ (.suffix t.text operand)
    else return operand

/-- Whether the word `await` is an operator here. -/
def seesAwait : Read Bool := do
  if (← get).setting.inAwait then return true
  nextIs true fun t => t.isMemberName || t.kind = .number || t.kind = .bigInteger || t.kind = .string

/-- An expression with the operators before it. -/
def simpleUnary : (fuel : Nat) → Read Tree
  | 0 => missingName
  | fuel + 1 => do
    let from_ ← start
    let t ← token
    if t.isOneOf ["+", "-", "~", "!"] then
      next
      let operand ← simpleUnary fuel
      build from_ (.unary t.text operand)
    else if t.isOneOf ["delete", "typeof", "void"] then
      next
      let operand ← simpleUnary fuel
      build from_ (.wordUnary t.text operand)
    else if t.is "<" then
      next
      discard g.erasedType
      expect ">"
      let inner ← simpleUnary fuel
      build from_ (.asserted .claim inner)
    else if t.is "await" then
      if ← seesAwait then
        next
        let operand ← simpleUnary fuel
        build from_ (.wordUnary "await" operand)
      else update g
    else update g

/-- The binary operators after an expression that bind more tightly than some level. -/
def binaryRest : (fuel level : Nat) → (from_ : Start) → (left : Tree) → Read Tree
  | 0, _, _, left => return left
  | fuel + 1, level, from_, left => do
    joinGreater
    let t ← token
    let strength := if t.kind = .mark || t.kind = .word then strength? t.text else none
    match strength with
    | none => return left
    | some own =>
      if !(if t.is "**" then level ≤ own else level < own) then return left
      if t.is "in" && (← get).setting.withoutIn then return left
      if t.is "as" || t.is "satisfies" then
        if t.newline then return left
        next
        discard g.erasedType
        let whole ← build from_ (.asserted (if t.is "as" then .claim else .check) left)
        binaryRest fuel level from_ whole
      else
        let operator ← leaf
        let rightFrom ← start
        let operand ← g.unary
        let right ← binaryRest fuel own rightFrom operand
        let whole ← build from_ (.binary left operator right)
        binaryRest fuel level from_ whole

/-- An expression with operators for one operand, and with powers of it. -/
def readUnary : Read Tree := do
  let t ← token
  let fuel ← plenty
  if t.isOneOf ["+", "-", "~", "!", "delete", "typeof", "void", "await", "<"] then simpleUnary g fuel
  else
    let from_ ← start
    let operand ← update g
    if ← sees "**" then binaryRest g fuel TypeScript.Level.power from_ operand else return operand

/-- An expression with binary operators. -/
def binaryOf : Read Tree := do
  let from_ ← start
  let operand ← readUnary g
  binaryRest g (← plenty) TypeScript.Level.lowest from_ operand

end Grammar

end Distill.Concrete
