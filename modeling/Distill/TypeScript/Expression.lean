import Distill.TypeScript.Member

/-!
The grammar of expressions. What stands in parentheses, brackets or braces may turn out to be a pattern; until that is
known, errors that count only for one of the two are deferred.
-/
namespace Distill.TypeScript.Grammar

open Parse

/-- Runs a parser with deferred errors of its own, which are given back. -/
def collecting {α : Type} (p : Parse α) : Parse (α × Deferred) := do
  let before := (← get).deferred
  modify fun s => { s with deferred := {} }
  let a ← p
  let own := (← get).deferred
  modify fun s => { s with deferred := before }
  return (a, own)

/-- Notes the deferred errors of an expression. -/
def noteDeferred (d : Deferred) : Parse Unit := do
  if let some at_ := d.default then note at_ "Unexpected \"=\""
  if let some e := d.question then note e.remaining e.message

/-- Whether what was just read has to be a pattern. -/
def willBePattern : Parse Bool := do
  if ← sees "=" then return true
  if (← get).allowIn then return false
  return (← seesKeyword "in") || (← seesWord "of")

/-- Decides on the deferred errors of an array or object. -/
def settle (aim : Aim) (own : Deferred) : Parse Unit := do
  if ← willBePattern then return
  if aim.maybePattern then modify fun s => { s with deferred := s.deferred.join own }
  else noteDeferred own

/-- The comma after a rest element, if there is one. -/
def commaHere : Parse (Option Place) := do
  if ← sees "," then return some (← place) else return none

/-- An array from the opening bracket on. -/
def arrayFirst (g : Grammar) (start : Place) (comments : List String) (aim : Aim) : Parse Expr := do
  expect "["
  let item : Parse (Expr × Option Place) := do
    let at_ ← place
    if ← sees "," then return (.plain at_ .hole, none)
    let comments ← commentsHere
    if ← eat "..." then
      let e ← g.expression Level.comma { maybePattern := true }
      return (.mk at_ comments (.spread e), ← commaHere)
    return (← g.expression Level.comma { maybePattern := true }, none)
  let ((items, isMultiLine), own) ← collecting <| allowingIn true <| listed "]" item
  let closing ← commentsHere
  expect "]"
  settle aim own
  let commaAfterRest := (items.filterMap (·.2)).getLast?
  return .mk start comments (.array { isMultiLine, commaAfterRest, closing } (items.map (·.1)))

/-- An object from the opening brace on. -/
def objectFirst (g : Grammar) (start : Place) (comments : List String) (aim : Aim) : Parse Expr := do
  expect "\x7b"
  let item : Parse (Option Member × Option Place) := do
    let at_ ← place
    let comments ← commentsHere
    if ← eat "..." then
      let e ← g.expression Level.comma { maybePattern := true }
      return (some (.mk at_ comments [] (.spread e)), ← commaHere)
    let node ← g.member (at_ + 1) { maybePattern := true }
    return (node.map (.mk at_ comments []), none)
  let ((items, isMultiLine), own) ← collecting <| allowingIn true <| listed "\x7d" item
  let closing ← commentsHere
  expect "\x7d"
  settle aim own
  let commaAfterRest := (items.filterMap (·.2)).getLast?
  return .mk start comments (.object { isMultiLine, commaAfterRest, closing } (items.filterMap (·.1)))

/-- What stands in parentheses. -/
structure Parens where
  items : List Expr := []
  /-- The last spread. -/
  spread : Option Place := none
  commaAfterSpread : Option Place := none
  /-- The colon of the last type. -/
  colon : Option Place := none

/-- The items in parentheses up to the closing one, be they arguments, parameters or operands. -/
def parenItems (g : Grammar) : (fuel : Nat) → Parens → Parse Parens
  | 0, p => return p
  | fuel + 1, p => do
    if ← sees ")" then return p
    let start ← place
    let isSpread ← eat "..."
    let at_ ← place
    modify fun s => { s with latestItem := some at_ }
    let e ← g.expression Level.comma { maybePattern := true }
    let e := if isSpread then .plain start (.spread e) else e
    let colonPlace ← place
    let hasColon ← eat ":"
    if hasColon then g.plainType
    let e ← if (← sees "=") && (← get).afterAssertion ≠ some (← place) then g.withDefault e else pure e
    let p := { p with
      items := p.items ++ [e], spread := if isSpread then some start else p.spread
      colon := if hasColon then some colonPlace else p.colon }
    if !(← sees ",") then return p
    let comma ← place
    advance
    parenItems g fuel (if isSpread then { p with commaAfterSpread := some comma } else p)

/-- The place of the equals sign before a value. -/
def equalsBefore (value : Place) : Parse Place := do
  let s ← get
  let before := (s.text.take (s.length - value)).reverse
  return value + (before.takeWhile (· ≠ '=')).length + 1

/-- Notes what parameters must not hold and stops if they are no patterns. -/
def checkParameters (p : Parens) (own : Deferred) (faults : PatternFaults) (awaitPlace yieldPlace : Option Place) :
    Parse Unit := do
  if let some at_ := p.commaAfterSpread then note at_ "Unexpected \",\" after rest pattern"
  if let some at_ := awaitPlace then note at_ "Cannot use an \"await\" expression here:"
  if let some at_ := yieldPlace then note at_ "Cannot use a \"yield\" expression here:"
  own.parens.forM (note · "Invalid binding pattern")
  match faults.invalid.reverse with
  | [] => return
  | last :: others =>
    others.forM (note · "Invalid binding pattern")
    failAt last "Invalid binding pattern"

/-- Reads a result type that an arrow follows, if that is what comes. -/
def arrowResult? (g : Grammar) : Parse Bool := do
  let found ← attempt do
    expect ":"
    g.resultType
    if !(← sees "=>") then unexpected
  return found.isSome

/-- Operands with commas between. -/
def joined : List Expr → Option Expr
  | [] => none
  | e :: rest => some (rest.foldl (fun left right => .plain left.place (.binary "," left right)) e)

/-- A group, an arrow function or a call of `async`, after the opening parenthesis. -/
def parenthesised (g : Grammar) (start : Place) (comments : List String) (level : Level) (isAsync isForced : Bool) :
    Parse Expr := do
  let before ← get
  let _ ← openScope .params
  modify fun s => { s with awaitInParams := none, yieldInParams := none }
  let (p, own) ← collecting <| allowingIn true <| inSetting (fun s => { s with inParams := true }) do
    let p ← g.parenItems ((← place) + 1) {}
    expect ")"
    return p
  let s ← get
  let (awaitPlace, yieldPlace) := (s.awaitInParams, s.yieldInParams)
  modify fun s => { s with awaitInParams := before.awaitInParams, yieldInParams := before.yieldInParams }
  if (← sees "=>") || isForced || (← sees ":") then
    if Level.assign < level then unexpected
    let faults := faultsInItems p.items
    for value in faults.restDefaults do
      note (← equalsBefore value) "A rest argument cannot have a default initializer"
    let isArrow ← if ← sees "=>" then pure true
      else if faults.invalid.isEmpty then pure ((← g.arrowResult?) || isForced)
      else pure isForced
    if isArrow then
      checkParameters p own faults awaitPlace yieldPlace
      let e ← g.arrowBody start comments isAsync p.items
      closeScope
      return e
  closeScope
  if let some at_ := p.colon then failAt at_ "Unexpected \":\""
  if isAsync then
    noteDeferred own
    return .mk start comments (.call (.plain start (.name "async")) false {} p.items)
  match joined p.items with
  | none => refuseMark "=>"
  | some e =>
    noteDeferred own
    if let some at_ := p.spread then failAt at_ "Unexpected \"...\""
    return .mk e.place comments (.group e)

/-- The start of an expression after an opening parenthesis that is the current token. -/
def parenthesisFirst (g : Grammar) (start : Place) (comments : List String) (level : Level) (aim : Aim) :
    Parse Expr := do
  if aim.maybePattern then
    modify fun s => { s with deferred := { s.deferred with parens := s.deferred.parens ++ [start] } }
  expect "("
  if level ≤ Level.assign then return ← g.parenthesised start comments level false false
  let e ← g.inner Level.lowest
  expect ")"
  return .mk e.place comments (.group e)

/-- Type parameters that an opening parenthesis follows, which is taken; the result tells whether they can be nothing
else. -/
def typeParametersThenParen? (g : Grammar) : Parse (Option Bool) := do
  let found ← attempt do
    let isSure ← g.typeParameters {}
    if !(← eat "(") then unexpected
    return isSure
  return found.bind id

/-- An arrow function with type parameters, or an assertion in front of its operand. -/
def angleFirst (g : Grammar) (start : Place) (comments : List String) (level : Level) (aim : Aim) : Parse Expr := do
  if let some isSure ← g.typeParametersThenParen? then
    let e ← g.parenthesised start comments level false isSure
    return match e.node with
      | .group _ => .plain e.place (.assertion .claim e)
      | _ => e
  expect "<"
  g.plainType
  expectStart ">"
  let e ← g.first level aim
  return .plain e.place (.assertion .claim e)

/-- The operand of a unary operator, which no power may follow. -/
def operand (g : Grammar) : Parse Expr := do
  let e ← g.value Level.unary
  if ← sees "**" then unexpected
  return e

/-- A unary operator with its operand. -/
def unaryFirst (g : Grammar) (start : Place) (comments : List String) (op : String) : Parse Expr := do
  advance
  let e ← g.operand
  if op = "delete" then
    if let .index _ _ key := e.core.node then
      if let .privateName name := key.node then
        note key.place ("Deleting the private name " ++ Text.quoted name ++ " is forbidden")
  return .mk start comments (.unary op e)

/-- What follows the word `yield` as an operator. -/
def yieldTail (g : Grammar) (start : Place) (comments : List String) : Parse Expr := do
  let isBroken ← newlineBefore
  if ← sees "*" then
    if isBroken then unexpected
    advance
    return .mk start comments (.yielding true (some (← g.value Level.yielding)))
  if isBroken || (← seesAny ["\x7d", "]", ")", ":", ",", ";"]) then return .mk start comments (.yielding false none)
  return .mk start comments (.yielding false (some (← g.value Level.yielding)))

/-- Whether an arrow follows the current token. -/
def arrowFollows : Parse Bool := do
  let before ← get
  let found ← attempt do
    advance
    if !(← sees "=>") then unexpected
  set before
  return found.isSome

/-- An expression after the word `async`. -/
def asyncTail (g : Grammar) (start : Place) (comments : List String) (level : Level) (aim : Aim) : Parse Expr := do
  if !(← newlineBefore) then
    if ← eatKeyword "function" then return ← g.functionExpression start comments true
    if level < Level.member then
      if (← sees "=>") && level ≤ Level.assign then return ← g.arrowOfName start comments false "async" start
      if (← seesName) && level ≤ Level.assign then
        let t ← token
        if ← arrowFollows then
          advance
          return ← g.arrowOfName start comments true t.text t.place
        if aim.inHead && t.raw = "of" && !aim.inAwaitHead then
          failAt start "For loop initializers cannot start with \"async of\""
      if ← eat "(" then return ← g.parenthesised start comments level true false
      if ← sees "<" then
        if let some isSure ← g.typeParametersThenParen? then
          return ← g.parenthesised start comments level true isSure
  return .mk start comments (.name "async")

/-- The word `await`, which is a name, an operator or neither; nothing if it is a name. -/
def awaitTail? (g : Grammar) (start : Place) (comments : List String) (raw : String) : Parse (Option Expr) := do
  match (← get).setting.await with
  | .forbidden =>
    note start "The keyword \"await\" cannot be used here:"
    return none
  | .name =>
    modify fun s => { s with awaitName := some start }
    return none
  | .operator =>
    if raw ≠ "await" then
      note start "The keyword \"await\" cannot be escaped"
      return none
    modify fun s => { s with
      hasExport := s.hasExport || s.setting.isTopLevel
      awaitInParams := if s.setting.inParams then some start else s.awaitInParams }
    return some (.mk start comments (.unary "await" (← g.operand)))

/-- The word `yield`, which is a name, an operator or neither; nothing if it is a name. -/
def yieldTail? (g : Grammar) (start : Place) (comments : List String) (level : Level) (raw : String) :
    Parse (Option Expr) := do
  match (← get).setting.yield with
  | .forbidden =>
    note start "The keyword \"yield\" cannot be used here:"
    return none
  | .operator =>
    if raw ≠ "yield" then
      note start "The keyword \"yield\" cannot be escaped"
      return none
    if Level.assign < level then note start "Cannot use a \"yield\" expression here without parentheses:"
    modify fun s => { s with yieldInParams := if s.setting.inParams then some start else s.yieldInParams }
    return some (← g.yieldTail start comments)
  | .name =>
    let t ← token
    let isOperand := t.kind matches .name | .number | .bigInteger | .string ||
      t.kind = .keyword && ["null", "true", "false"].contains t.text
    if t.newline || !isOperand then return none
    note start "Cannot use \"yield\" outside a generator function"
    return some (← g.yieldTail start comments)

/-- An expression that starts with a name. -/
def nameFirst (g : Grammar) (comments : List String) (level : Level) (aim : Aim) : Parse Expr := do
  let t ← token
  advance
  if t.raw = "async" then return ← g.asyncTail t.place comments level aim
  if t.text = "await" then
    if let some e ← g.awaitTail? t.place comments t.raw then return e
  if t.text = "yield" then
    if let some e ← g.yieldTail? t.place comments level t.raw then return e
  if (← sees "=>") && level ≤ Level.assign then return ← g.arrowOfName t.place comments false t.text t.place
  return .mk t.place comments (.name t.text)

/-- A template without its tag; the current token is its first part. Without a tag its escapes have to be right. -/
def templateOf (g : Grammar) (start : Place) (comments : List String) (tag : Option Expr) : Parse Expr := do
  let t ← token
  if tag.isNone then checkEscapes 1 (if t.kind = .template then 1 else 2)
  advance
  let spans ← if t.kind = .template then pure [] else go (t.place + 1)
  return .mk start comments (.template tag t.text spans)
where
  go : (fuel : Nat) → Parse (List Expr)
    | 0 => return []
    | fuel + 1 => do
      let value ← g.inner Level.lowest
      asTemplate
      let t ← token
      if tag.isNone then checkEscapes 1 (if t.kind = .templateTail then 1 else 2)
      advance
      let span : Expr := .plain t.place (.span value t.text)
      if t.kind = .templateTail then return [span] else return span :: (← go fuel)

/-- An expression after the word `new`. -/
def newTail (g : Grammar) (start : Place) (comments : List String) (aim : Aim) : Parse Expr := do
  if ← eat "." then
    if !(← seesWord "target") then unexpected
    advance
    return .mk start comments (.word "new.target")
  let callee ← g.expression Level.member { aim with maybePattern := false }
  let callee := match callee.node with
    | .assertion .application inner => inner
    | _ => callee
  let (args, layout) ← if ← sees "(" then g.arguments else pure ([], {})
  return .mk start comments (.construct callee layout args)

/-- An expression after the word `import`. -/
def importTail (g : Grammar) (start : Place) (comments : List String) (level : Level) : Parse Expr := do
  if ← eat "." then
    modify fun s => { s with hasExport := true }
    expectWord "meta"
    return .mk start comments (.word "import.meta")
  if Level.call < level then note start "Cannot use an \"import\" expression here without parentheses:"
  expect "("
  let (source, options) ← allowingIn true do
    let source ← g.value Level.comma
    if !(← eat ",") then return (source, none)
    if ← sees ")" then return (source, none)
    let options ← g.value Level.comma
    let _ ← eat ","
    return (source, some options)
  expect ")"
  return .mk start comments (.importing source options)

/-- The word `super`. -/
def superFirst (start : Place) (comments : List String) (level : Level) : Parse Expr := do
  advance
  let setting := (← get).setting
  let isRight ← if ← sees "(" then pure (level < Level.call && setting.allowsSuperCall)
    else pure ((← seesAny [".", "["]) && setting.allowsSuperMember)
  if !isRight then note start "Unexpected \"super\""
  return .mk start comments (.word "super")

/-- An expression that starts with a keyword. -/
def keywordFirst (g : Grammar) (comments : List String) (level : Level) (aim : Aim) : Parse Expr := do
  let t ← token
  match t.text with
  | "this" | "null" | "true" | "false" =>
    advance
    return .mk t.place comments (.word t.text)
  | "typeof" | "void" | "delete" => g.unaryFirst t.place comments t.text
  | "function" =>
    advance
    g.functionExpression t.place comments false
  | "class" =>
    advance
    g.classExpression t.place comments []
  | "super" => superFirst t.place comments level
  | "import" =>
    advance
    g.importTail t.place comments level
  | "new" =>
    advance
    g.newTail t.place comments aim
  | _ => unexpected

/-- A private name in front of `in`. -/
def privateFirst (comments : List String) (level : Level) : Parse Expr := do
  let t ← token
  let s ← get
  if !s.allowPrivate || !s.allowIn || Level.compare ≤ level then unexpected
  advance
  if !(← seesKeyword "in") then refuseMark "in"
  return .mk t.place comments (.privateName t.text)

/-- An expression that starts with a mark. -/
def markFirst (g : Grammar) (comments : List String) (level : Level) (aim : Aim) : Parse Expr := do
  let t ← token
  match t.text with
  | "(" => g.parenthesisFirst t.place comments level aim
  | "[" => g.arrayFirst t.place comments aim
  | "\x7b" => g.objectFirst t.place comments aim
  | "!" | "~" | "+" | "-" => g.unaryFirst t.place comments t.text
  | "++" | "--" =>
    advance
    return .mk t.place comments (.unary t.text (← g.value Level.unary))
  | "/" | "/=" =>
    asRegex
    return .mk t.place comments (.regex (← take))
  | "<" => g.angleFirst t.place comments level aim
  | "@" =>
    let decorators ← g.decorators
    expectKeyword "class"
    g.classExpression t.place comments decorators
  | _ => unexpected

/-- The start of an expression up to where operators and members follow. -/
def firstOf (g : Grammar) (level : Level) (aim : Aim) : Parse Expr := do
  let t ← token
  let comments ← commentsHere
  match t.kind with
  | .name => g.nameFirst comments level aim
  | .keyword => g.keywordFirst comments level aim
  | .privateName => privateFirst comments level
  | .number =>
    advance
    return .mk t.place comments (.number t.text)
  | .bigInteger =>
    advance
    return .mk t.place comments (.bigInteger t.text)
  | .string => stringLiteral
  | .template | .templateHead => g.templateOf t.place comments none
  | .mark => g.markFirst comments level aim
  | _ => unexpected

/-- Whether the current token can be a binary operator that is no assignment. -/
def seesOperator : Parse Bool := do
  let t ← token
  match t.kind with
  | .mark => return (operatorLevel? t.text).isSome
  | .keyword => return t.text = "instanceof" || t.text = "in" && (← get).allowIn
  | .name => return t.raw = "as" || t.raw = "satisfies"
  | _ => return false

/-- Whether an expression can start at the current token. -/
def seesExpression : Parse Bool := do
  let t ← token
  match t.kind with
  | .name | .number | .bigInteger | .string | .template | .templateHead | .privateName => return true
  | .keyword =>
    return ["this", "super", "null", "true", "false", "function", "class", "new", "import", "typeof", "void",
      "delete"].contains t.text
  | .mark =>
    return ["(", "[", "\x7b", "!", "~", "+", "-", "++", "--", "/", "/=", "<", "@"].contains t.text || (← seesOperator)
  | _ => return false

/-- Type arguments in an expression, if they are that and not a comparison. -/
def typeArguments? (g : Grammar) : Parse Bool := do
  let found ← attempt do
    g.typeArguments true
    if (← seesKind .template) || (← seesKind .templateHead) || (← sees "(") then return
    if ← seesAny ["<", ">", "+", "-", ">=", ">>", ">>=", ">>>", ">>>="] then unexpected
    if !((← newlineBefore) || (← seesOperator) || !(← seesExpression)) then unexpected
  return found.isSome

/-- A member by its name after a point. -/
def pointTail (left : Expr) (isOptional : Bool) : Parse Expr := do
  let t ← token
  if t.kind = .privateName && (← get).allowPrivate then
    if left.node matches .word "super" then refuse "identifier"
    advance
    return .plain left.place (.index left isOptional (.plain t.place (.privateName t.text)))
  if !(← seesMemberName) then refuse "identifier"
  advance
  return .plain left.place (.dot left isOptional t.text)

/-- A member by its key in brackets. -/
def bracketTail (g : Grammar) (left : Expr) (isOptional : Bool) : Parse Expr := do
  expect "["
  let key ← g.inner Level.lowest
  expect "]"
  return .plain left.place (.index left isOptional key)

/-- A call with its arguments. Type arguments in front of them do not count. -/
def callTail (g : Grammar) (left : Expr) (isOptional : Bool) : Parse Expr := do
  let (args, layout) ← g.arguments
  let callee := match left.node with
    | .assertion .application inner => inner
    | _ => left
  return .plain left.place (.call callee isOptional layout args)

/-- What one step after the start of an expression gives. -/
inductive Suffix where
  /-- Nothing more belongs to the expression. -/
  | none
  /-- More may follow; the flag tells whether this is part of an optional chain. -/
  | more (e : Expr) (inChain : Bool)
  /-- The expression ends here. -/
  | last (e : Expr)

/-- What follows a question mark with a point. -/
def chainTail (g : Grammar) (level : Level) (left : Expr) : Parse Suffix := do
  advance
  if ← sees "[" then return .more (← g.bracketTail left true) true
  if ← sees "(" then
    if Level.call ≤ level then return .last left
    return .more (← g.callTail left true) true
  if ← seesAny ["<", "<<"] then
    g.typeArguments false
    if !(← sees "(") then refuseMark "("
    if Level.call ≤ level then return .last left
    return .more (← g.callTail left true) true
  return .more (← pointTail left true) true

/-- A condition after its question mark, unless that mark belongs to a parameter. -/
def questionTail (g : Grammar) (aim : Aim) (left : Expr) : Parse Suffix := do
  advance
  if (← get).latestItem = some left.place && (← seesAny [":", ")", ","]) then
    if !aim.maybePattern then unexpected
    let fault : Script.SyntaxError := ⟨← place, "Unexpected " ++ (← found)⟩
    modify fun s => { s with deferred := { s.deferred with question := some fault } }
    return .last left
  let yes ← g.inner Level.comma
  expect ":"
  let no ← g.value Level.comma
  return .more (.plain left.place (.conditional left yes no)) false

/-- A binary operator with its right side. -/
def operatorTail (g : Grammar) (level : Level) (aim : Aim) (left : Expr) (op : String) (own : Level) : Parse Suffix := do
  if own ≤ level then return .last left
  let isLogical := op = "||" || op = "&&"
  if isLogical && level = Level.coalesce then unexpected
  advance
  let right ← g.value (if op = "**" then own - 1 else own)
  let e : Expr := .plain left.place (.binary op left right)
  if isLogical && level < Level.coalesce then
    let e ← g.suffixes (Level.coalesce + 1) { aim with maybePattern := false } e
    if ← sees "??" then unexpected
    return .more e false
  return .more e false

/-- A type after the word `as` or `satisfies`. -/
def assertionTail (g : Grammar) (left : Expr) : Parse Suffix := do
  advance
  g.plainType
  let e : Expr := .plain left.place (.assertion .claim left)
  if (← seesKind .template) || (← seesKind .templateHead) || (← seesAny (["++", "--", "(", "[", "?."] ++ assignments)) then
    let stop ← place
    modify fun s => { s with afterAssertion := some stop }
    return .last e
  return .more e false

/-- What follows an expression at a mark. -/
def markSuffix (g : Grammar) (level : Level) (aim : Aim) (inChain : Bool) (left : Expr) : Parse Suffix := do
  let t ← token
  match t.text with
  | "." =>
    advance
    return .more (← pointTail left false) inChain
  | "?." => g.chainTail level left
  | "[" => if aim.isDecorator then return .last left else return .more (← g.bracketTail left false) inChain
  | "(" => if Level.call ≤ level then return .last left else return .more (← g.callTail left false) inChain
  | "?" => if Level.conditional ≤ level then return .last left else g.questionTail aim left
  | "!" =>
    if t.newline then return .last left
    advance
    return .more (.plain left.place (.assertion .claim left)) inChain
  | "++" | "--" =>
    if t.newline || Level.update ≤ level then return .last left
    advance
    return .more (.plain left.place (.suffix t.text left)) false
  | "," =>
    if Level.comma ≤ level then return .last left
    advance
    return .more (.plain left.place (.binary "," left (← g.value Level.comma))) false
  | text =>
    if text = "<" || text = "<<" then
      if ← g.typeArguments? then return .more (.plain left.place (.assertion .application left)) inChain
    if assignments.contains text then
      if Level.assign ≤ level then return .last left
      advance
      return .more (.plain left.place (.binary text left (← g.value (Level.assign - 1)))) false
    match operatorLevel? text with
    | some own => g.operatorTail level aim left text own
    | none => return .last left

/-- One step after the start of an expression. -/
def suffixStep (g : Grammar) (level : Level) (aim : Aim) (inChain : Bool) (left : Expr) : Parse Suffix := do
  let s ← get
  let t := s.token
  if s.afterArrow = some t.place then
    if (← sees ",") && level < Level.comma then
      advance
      return .more (.plain left.place (.binary "," left (← g.value Level.comma))) false
    return .none
  if s.afterAssertion = some t.place then return .none
  match t.kind with
  | .mark => g.markSuffix level aim inChain left
  | .template | .templateHead =>
    if inChain then note t.place "Template literals cannot have an optional chain as a tag"
    let tag := match left.node with
      | .assertion .application inner => inner
      | _ => left
    return .more (← g.templateOf left.place [] (some tag)) false
  | .keyword =>
    if t.text = "instanceof" || t.text = "in" && s.allowIn then
      g.operatorTail level aim left t.text Level.compare
    else return .none
  | .name =>
    if (t.raw = "as" || t.raw = "satisfies") && level < Level.compare && !t.newline then g.assertionTail left
    else return .none
  | _ => return .none

/-- All that follows the start of an expression. -/
def suffixesOf (g : Grammar) (level : Level) (aim : Aim) : (fuel : Nat) → (inChain : Bool) → Expr → Parse Expr
  | 0, _, left => return left
  | fuel + 1, inChain, left => do
    match ← g.suffixStep level aim inChain left with
    | .none => return left
    | .last e => return e
    | .more e inChain => suffixesOf g level aim fuel inChain e

/-- A function whose calls have no effect. -/
def asPureFunction : Expr → Expr
  | .mk place comments node =>
    match node with
    | .function (.mk head params body) => .mk place comments (.function (.mk { head with isPure := true } params body))
    | .arrow isConcise (.mk head params body) =>
      .mk place comments (.arrow isConcise (.mk { head with isPure := true } params body))
    | .group inner => .mk place comments (.group (asPureFunction inner))
    | .assertion kind inner => .mk place comments (.assertion kind (asPureFunction inner))
    | _ => .mk place comments node

/-- A call without effect. -/
def asPureCall : Expr → Expr
  | .mk place comments node =>
    match node with
    | .call callee isOptional layout args =>
      .mk place comments (.call callee isOptional { layout with isPure := true } args)
    | .construct callee layout args => .mk place comments (.construct callee { layout with isPure := true } args)
    | .group inner => .mk place comments (.group (asPureCall inner))
    | .assertion kind inner => .mk place comments (.assertion kind (asPureCall inner))
    | _ => .mk place comments node

/-- An expression that takes what binds more tightly than `level`. What a comment in front of it says about a call holds
for the members and calls that follow directly. -/
def expressionOf (g : Grammar) (level : Level) (aim : Aim) : Parse Expr := do
  let fuel := (← place) + 1
  let promise := (← token).promise
  let e ← g.firstOf level aim
  let e := if promise.ofFunction then asPureFunction e else e
  let e ← if promise.ofCall && level < Level.call then
      asPureCall <$> g.suffixesOf (Level.call - 1) aim fuel false e
    else pure e
  g.suffixesOf level aim fuel false e

end Distill.TypeScript.Grammar
