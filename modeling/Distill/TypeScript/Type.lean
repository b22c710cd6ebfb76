import Distill.TypeScript.Grammar

/-!
The grammar of types. Types are read and dropped, so every production gives nothing.
-/
namespace Distill.TypeScript.Grammar

open Parse

def plainType (g : Grammar) : Parse Unit := g.type {} Level.lowest

def resultType (g : Grammar) : Parse Unit := g.type { isResult := true } Level.lowest

/-- A type after a colon, if there is one. -/
def annotation (g : Grammar) : Parse Unit := do
  if ← eat ":" then g.plainType

/-- A result type after a colon, if there is one. -/
def resultAnnotation (g : Grammar) : Parse Unit := do
  if ← eat ":" then g.resultType

/-- Types with commas between. -/
def typeList (g : Grammar) : Parse Unit := do
  g.plainType
  let _ ← many do
    if ← eat "," then
      g.plainType
      return some ()
    return none

/-- Arguments of a type, if there are any. In an expression only a mark of its own ends them. -/
def typeArguments (g : Grammar) (inExpression : Bool) : Parse Unit := do
  if ← seesAny ["<", "<=", "<<", "<<="] then
    expectStart "<"
    g.typeList
    if inExpression then expect ">" else expectStart ">"

/-- What parameters of a type may look like. -/
structure TypeParameterPlace where
  allowsConst : Bool := true
  allowsVariance : Bool := false
  allowsNone : Bool := false
deriving DecidableEq, Repr

/-- The words before a parameter of a type: whether one of them is `const`, and whether a name must follow. -/
def varianceWords (p : TypeParameterPlace) : Parse (Bool × Bool) := do
  let (hasConst, needsName, invalid) ← go ((← place) + 1) false false false true none
  if let some (at_, word) := invalid then note at_ ("The modifier " ++ Text.quoted word ++ " is not valid here:")
  return (hasConst, needsName)
where
  go : (fuel : Nat) → (hasConst hasIn hasOut needsName : Bool) → Option (Place × String) →
      Parse (Bool × Bool × Option (Place × String))
    | 0, hasConst, _, _, needsName, invalid => return (hasConst, needsName, invalid)
    | fuel + 1, hasConst, hasIn, hasOut, needsName, invalid => do
      let t ← token
      let refused (isRefused : Bool) : Option (Place × String) :=
        invalid <|> if isRefused then some (t.place, t.raw) else none
      if ← eatKeyword "const" then go fuel true hasIn hasOut true (refused !p.allowsConst)
      else if ← eatKeyword "in" then
        go fuel hasConst true hasOut true (refused (!p.allowsVariance || hasIn || hasOut))
      else if ← eatWord "out" then
        let isRepeated := hasOut && ((← seesKeyword "in") || (← seesName))
        go fuel hasConst hasIn true false (refused (!p.allowsVariance || isRepeated))
      else return (hasConst, needsName, invalid)

/-- Parameters of a type, if there are any. The result tells whether they can be nothing else; nothing if there are
none. -/
def typeParameters (g : Grammar) (p : TypeParameterPlace) : Parse (Option Bool) := do
  if !(← eat "<") then return none
  if p.allowsNone then
    if ← eat ">" then return some true
  let parameter : Parse Bool := do
    let (hasConst, needsName) ← varianceWords p
    if needsName || (← seesName) then discard expectName
    let hasBound ← eatKeyword "extends"
    if hasBound then g.plainType
    let hasDefault ← eat "="
    if hasDefault then g.plainType
    return hasConst || hasBound || hasDefault
  let isSure ← parameter
  let more ← many do
    if !(← eat ",") then return none
    -- A comma before the end can only stand among parameters.
    if ← sees ">" then return some true
    return some (← parameter)
  expectStart ">"
  return some (isSure || more.any id)

def skipTypeParameters (g : Grammar) (p : TypeParameterPlace) : Parse Unit := do
  let _ ← g.typeParameters p

/-- A name or pattern among the parameters of a function type. -/
def parameterPattern : (fuel : Nat) → Parse Unit
  | 0 => unexpected
  | fuel + 1 => do
    if (← seesName) || (← seesKeyword "this") then advance
    else if ← eat "[" then
      let _ ← many do if ← eat "," then return some () else return none
      let _ ← listed "]" do
        let _ ← eat "..."
        parameterPattern fuel
      expect "]"
    else if ← eat "\x7b" then
      let _ ← listed "\x7d" do
        let isRest ← eat "..."
        let isName ← seesName
        if isRest && !isName then unexpected
        if (← seesMemberName) || (← token).kind matches .string | .number | .bigInteger then advance else unexpected
        if !isName || (← sees ":") then
          expect ":"
          parameterPattern fuel
      expect "\x7d"
    else unexpected

/-- Parameters of a function type. -/
def functionParameters (g : Grammar) : Parse Unit := do
  expect "("
  let _ ← listed ")" do
    let _ ← eat "..."
    parameterPattern ((← place) + 1)
    let _ ← eat "?"
    g.annotation
  expect ")"

/-- A function type or a type in parentheses. -/
def functionOrGroup (g : Grammar) : Parse Unit := do
  let isFunction ← attempt do
    g.functionParameters
    expect "=>"
  if isFunction.isSome then g.resultType
  else
    expect "("
    g.plainType
    expect ")"

/-- The brackets of an index signature or a computed name in an object type. -/
def typeBrackets (g : Grammar) : Parse Unit := do
  g.type { inBrackets := true } Level.lowest
  if ← eat ":" then g.plainType
  else if ← eatKeyword "in" then
    g.plainType
    if ← eatWord "as" then g.plainType
  expect "]"
  if ← seesAny ["+", "-"] then advance

/-- A member of an object type. -/
def typeMember (g : Grammar) : Parse Unit := do
  if ← seesAny ["+", "-"] then advance
  let words ← many do
    if (← seesMemberName) || (← token).kind matches .string | .number then
      advance
      return some ()
    return none
  let hasBrackets ← eat "["
  if hasBrackets then g.typeBrackets
  let hasKey := !words.isEmpty || hasBrackets
  if hasKey && (← seesAny ["?", "!"]) then advance
  g.skipTypeParameters {}
  if ← sees ":" then
    if !hasKey then refuse "identifier"
    advance
    g.plainType
  else if ← sees "(" then
    g.functionParameters
    g.resultAnnotation
  else if !hasKey then unexpected
  if ← seesAny [",", ";"] then advance
  else if !(← sees "\x7d") then
    if !(← newlineBefore) then unexpected

/-- The members of an object type in braces. -/
def objectType (g : Grammar) : Parse Unit := do
  expect "\x7b"
  let _ ← many do
    if ← sees "\x7d" then return none
    g.typeMember
    return some ()
  expect "\x7d"

/-- The parts of a template type after its head. -/
def templateType (g : Grammar) : (fuel : Nat) → Parse Unit
  | 0 => return
  | fuel + 1 => do
    advance
    g.plainType
    asTemplate
    if ← seesKind .templateTail then advance else templateType g fuel

/-- Names after `typeof`. -/
def queriedName (g : Grammar) : Parse Unit := do
  if !(← seesMemberName) then refuse "identifier"
  advance
  let _ ← many do
    if !(← eat ".") then return none
    if !((← seesMemberName) || (← seesKind .privateName)) then refuse "identifier"
    advance
    return some ()
  if !(← newlineBefore) then g.typeArguments false

/-- The names of types that have no arguments. -/
def primitiveTypes : List String := [
  "any", "never", "unknown", "undefined", "object", "number", "string", "boolean", "bigint", "symbol"]

/-- A type that starts with a name. The flag tells whether the type ends here. -/
def namedType (g : Grammar) (p : TypePlace) : Parse Bool := do
  let name ← take
  let isLabel := ((← sees ":") || (← seesKeyword "in")) && (p.inBrackets || p.inTuple)
  if name = "keyof" || name = "readonly" then
    if !isLabel then g.type {} Level.unary
    return false
  if name = "infer" then
    if !isLabel then
      let _ ← expectName
      if ← seesKeyword "extends" then
        let _ ← attempt do
          advance
          g.type { noCondition := true } Level.unary
          if !p.noCondition && (← sees "?") then unexpected
    return false
  if name = "unique" then
    if ← eatWord "symbol" then return false
  if name = "asserts" && p.isResult && !(← newlineBefore) then
    if (← seesName) || (← seesKeyword "this") then advance
  if (← seesWord "is") && !(← newlineBefore) then
    advance
    g.plainType
    return true
  if !primitiveTypes.contains name && !(← newlineBefore) then g.typeArguments false
  return false

/-- An imported type after the word `import`. -/
def importedType (g : Grammar) : Parse Unit := do
  expect "("
  let _ ← expectString
  if ← eat "," then
    g.objectType
    let _ ← eat ","
  expect ")"

/-- The start of a type. The flag tells whether the type ends there. -/
def typeFirst (g : Grammar) (p : TypePlace) : (fuel : Nat) → Parse Bool
  | 0 => unexpected
  | fuel + 1 => do
    let t ← token
    let labels : Parse Bool := do return p.inTuple && (← sees ":")
    match t.kind, t.text with
    | .number, _ | .bigInteger, _ | .string, _ | .template, _
    | .keyword, "true" | .keyword, "false" | .keyword, "null" | .keyword, "void" =>
      advance
      return false
    | .templateHead, _ =>
      g.templateType (t.place + 1)
      return false
    | .keyword, "const" =>
      advance
      if ← labels then note t.place "Unexpected \"const\""
      return false
    | .keyword, "this" =>
      advance
      if (← seesWord "is") && !(← newlineBefore) then
        advance
        g.plainType
        return true
      return false
    | .keyword, "import" =>
      advance
      if ← labels then return true
      g.importedType
      return false
    | .keyword, "new" =>
      advance
      if ← labels then return true
      g.skipTypeParameters {}
      g.functionOrGroup
      return false
    | .keyword, "typeof" =>
      advance
      if ← labels then return true
      if ← seesKeyword "import" then typeFirst g p fuel
      else
        g.queriedName
        return false
    | .name, "abstract" =>
      let before ← get
      advance
      if ← seesKeyword "new" then typeFirst g p fuel
      else
        set before
        g.namedType p
    | .name, _ => g.namedType p
    | .mark, "-" =>
      advance
      if (← seesKind .number) || (← seesKind .bigInteger) then advance else refuse "number"
      return false
    | .mark, "&" | .mark, "|" =>
      advance
      typeFirst g p fuel
    | .mark, "<" =>
      g.skipTypeParameters {}
      g.functionOrGroup
      return false
    | .mark, "(" =>
      g.functionOrGroup
      return false
    | .mark, "[" =>
      advance
      let _ ← listed "]" do
        let _ ← eat "..."
        g.type { inTuple := true } Level.lowest
        let _ ← eat "?"
        g.annotation
      expect "]"
      return false
    | .mark, "\x7b" =>
      g.objectType
      return false
    | kind, text =>
      if p.inTuple && kind matches .keyword | .escapedKeyword then
        if text ≠ "function" then note t.place ("Unexpected " ++ (← found))
        advance
        if !(← sees ":") then refuseMark ":"
        return true
      unexpected

/-- What follows the start of a type. -/
def typeAfter (g : Grammar) (p : TypePlace) (level : Level) : (fuel : Nat) → Parse Unit
  | 0 => return
  | fuel + 1 => do
    let t ← token
    match t.kind, t.text with
    | .mark, "|" =>
      if level < Level.bitOr then
        advance
        g.type p Level.bitOr
        typeAfter g p level fuel
    | .mark, "&" =>
      if level < Level.bitAnd then
        advance
        g.type p Level.bitAnd
        typeAfter g p level fuel
    | .mark, "!" =>
      if !t.newline then
        advance
        typeAfter g p level fuel
    | .mark, "." =>
      advance
      if !(← seesMemberName) then refuse "identifier"
      advance
      if !(← newlineBefore) then g.typeArguments false
      typeAfter g p level fuel
    | .mark, "[" =>
      if !t.newline then
        advance
        if !(← sees "]") then g.plainType
        expect "]"
        typeAfter g p level fuel
    | .keyword, "extends" =>
      if !t.newline && !p.noCondition then
        advance
        g.type { noCondition := true } Level.lowest
        expect "?"
        g.plainType
        expect ":"
        g.plainType
        typeAfter g p level fuel
    | _, _ => return

/-- A type that takes what binds more tightly than the level. -/
def typeOf (g : Grammar) (p : TypePlace) (level : Level) : Parse Unit := do
  let fuel := (← place) + 1
  if !(← g.typeFirst p fuel) then g.typeAfter p level fuel

end Distill.TypeScript.Grammar
