import Distill.Concrete.Modifier

/-!
Types. They are read for where they end, and left out.
-/
namespace Distill.Concrete

namespace Grammar

variable (g : Grammar)

/-- The mark `<` at the front of a longer mark is taken for itself. -/
def splitLess : Read Unit := modify fun s =>
  if s.token.is "<<" then
    let token := { s.token with text := "<", raw := "<", stop := s.token.start + 1 }
    { s with token, rest := '<' :: s.rest, left := s.left + 1 }
  else s

/-- The types in angle brackets after a name, on the same line. -/
def typeArgumentsOfName : Read Unit := do
  if !(← token).newline then
    splitLess
    if ← sees "<" then discard (readBracketed .typeArguments g.type "<" ">")

/-- The name after a point. A keyword on the next line that is followed by a name belongs to the next statement. -/
def nameAfterPoint (allowsKeywords allowsPrivate : Bool) : Read Tree := do
  let t ← token
  if t.newline && t.isMemberName then
    if ← nextIs true Token.isMemberName then return ← missingName
  if t.kind = .privateName then
    let name ← readMemberName
    if allowsPrivate then return name else missingName
  else if allowsKeywords then readMemberName
  else readName

/-- The rest of a name with points; tells whether there is any. -/
def pointedRest : (fuel : Nat) → (allowsKeywords : Bool) → Read Unit
  | 0, _ => return
  | fuel + 1, allowsKeywords => do
    if ← optional "." then
      if !(← sees "<") then
        discard (nameAfterPoint allowsKeywords false)
        pointedRest fuel allowsKeywords

/-- A name with points; tells whether its first part is missing. -/
def pointedName (allowsKeywords : Bool) : Read Bool := do
  let before ← position
  discard (if allowsKeywords then readMemberName else readName)
  let isMissing := before = (← position)
  pointedRest (← plenty) allowsKeywords
  return isMissing && before = (← position)

/-- A type that is a name. -/
def typeReference : Read TypeForm := do
  let isMissing ← pointedName true
  typeArgumentsOfName g
  return if isMissing then .broken else .complete

/-- A word for a type that no point follows. -/
def plainTypeWord : Read (Option Unit) := attempt do
  next
  return if ← sees "." then none else some ()

/-- What the end of a parameter list or of a word shows about a signature. -/
def skipParameterStart : Read Bool := do
  if ← seesModifier then discard (modifiers {})
  if ← seesName then
    next
    return true
  else if ← sees "this" then
    next
    return true
  else if ← seesOneOf ["[", "\x7b"] then
    let faults := (← get).faults
    discard g.binding
    return faults = (← get).faults
  else return false

/-- Whether a parenthesis begins the type of a function. -/
def seesFunctionType : Read Bool := lookAhead do
  next
  if ← seesOneOf [")", "..."] then return true
  if ← skipParameterStart g then
    if ← seesOneOf [":", ",", "?", "="] then return true
    if ← optional ")" then return ← sees "=>"
  return false

/-- Whether the type of a function or constructor begins here. -/
def seesSignature : Read Bool := do
  let t ← token
  if t.is "<" || t.is "new" then return true
  else if t.is "(" then seesFunctionType g
  else if t.is "abstract" then nextIs false (·.is "new")
  else return false

/-- The parameters in angle brackets, if there are any. They are left out. -/
def typeParameter : Read Unit := do
  discard (modifiers {})
  discard readName
  if ← optional "extends" then
    if (← seesType (← plenty) false) || !(← seesExpression) then discard g.type else discard g.unary
  if ← optional "=" then discard g.type

def typeParameters : Read Unit := do
  if ← sees "<" then
    erase
    discard (readBracketed .typeParameters (typeParameter g) "<" ">")

/-- The parameters in parentheses; tells whether the first parenthesis is there. -/
def signatureParameters : Read Bool := do
  if ← expected "(" then
    let outerAwait := (← get).setting.inAwait
    let setting (s : Setting) : Setting := { s with inYield := false, inAwait := false }
    discard (within setting (readDivided .parameters (g.parameter true outerAwait)))
    expect ")"
    return true
  return false

/-- The name before the word `is`. -/
def predicateName : Read (Option Unit) := attempt do
  discard readName
  if (← sees "is") && !(← token).newline then
    next
    return some ()
  return none

/-- A type, or a claim about the type of a parameter. -/
def typeOrPredicate : Read TypeShape := within (fun s => { s with withoutChoice := false }) do
  let before ← position
  let isPredicate ← if ← seesName then pure (← predicateName).isSome else pure false
  let shape ← g.type
  if isPredicate then return ⟨← extentFrom before, .complete⟩ else return shape

/-- What a function gives back, after a colon or, for a type, after an arrow too. -/
def returnType (isType : Bool) : Read (Option TypeShape) := do
  if ← optional ":" then
    erase
    return some (← typeOrPredicate g)
  else if isType && (← sees "=>") then
    fault
    next
    erase
    return some (← typeOrPredicate g)
  else return none

/-- The type of a function or constructor. -/
def signature : Read TypeForm := do
  if ← sees "abstract" then next
  discard (optional "new")
  typeParameters g
  let hasParameters ← signatureParameters g
  expect "=>"
  let result ← typeOrPredicate g
  return if hasParameters && result.form ≠ .broken then .complete else .broken

/-- The end of a member of a type. -/
def endTypeMember : Read Unit := do
  if !(← optional ",") then endStatement

/-- Whether brackets hold the parameter of an index and not a key. -/
def seesIndexSignature : Read Bool := do
  if !(← sees "[") then return false
  lookAhead do
    next
    if ← seesOneOf ["...", "]"] then return true
    if ← seesModifier then
      next
      if ← seesName then return true
    else if ← seesName then next
    else return false
    if ← seesOneOf [":", ","] then return true
    if ← optional "?" then seesOneOf [":", ",", "]"] else return false

/-- An index with its type. -/
def indexSignature : Read Unit := do
  discard (readBracketed .parameters (g.parameter true false) "[" "]")
  discard g.annotation
  endTypeMember

/-- A signature as a member of a type. -/
def signatureMember : Read Unit := do
  typeParameters g
  discard (signatureParameters g)
  discard (returnType g true)

/-- A member of a type. -/
def typeMember : Read Unit := do
  if ← seesOneOf ["(", "<"] then
    signatureMember g
    endTypeMember
  else if (← sees "new") && (← nextIs false fun t => t.isOneOf ["(", "<"]) then
    next
    signatureMember g
    endTypeMember
  else
    discard (modifiers {})
    let isGetter ← takeWord "get"
    if ← (if isGetter then pure true else takeWord "set") then
      discard g.memberName
      signatureMember g
      if ← sees "\x7b" then discard (g.functionBody false false) else endTypeMember
    else if ← seesIndexSignature then indexSignature g
    else
      discard g.memberName
      discard (optional "?")
      if ← seesOneOf ["(", "<"] then signatureMember g
      else
        discard g.annotation
        if ← sees "=" then discard g.initializer
      endTypeMember

/-- The members of a type in braces. -/
def typeMembers : Read Unit := do
  if ← expected "\x7b" then
    discard (readList .typeMembers (typeMember g))
    expect "\x7d"

/-- Whether a type with one member for each of some keys begins here. -/
def seesMappedType : Read Bool := lookAhead do
  next
  if ← seesOneOf ["+", "-"] then return ← nextIs false (·.is "readonly")
  if ← sees "readonly" then next
  if ← optional "[" then
    if ← seesName then nextIs false (·.is "in") else return false
  else return false

def mappedType : Read Unit := do
  expect "\x7b"
  if ← seesOneOf ["readonly", "+", "-"] then
    let t ← token
    next
    if !t.is "readonly" then expect "readonly"
  expect "["
  discard readMemberName
  expect "in"
  discard g.type
  if ← optional "as" then discard g.type
  expect "]"
  if ← seesOneOf ["?", "+", "-"] then
    let t ← token
    next
    if !t.is "?" then expect "?"
  discard g.annotation
  endStatement
  discard (readList .typeMembers (typeMember g))
  expect "\x7d"

/-- Whether an entry of a tuple has a name. -/
def seesTupleName : Read Bool := lookAhead do
  discard (optional "...")
  if !(← token).isMemberName then return false
  next
  if ← optional "?" then sees ":" else sees ":"

/-- An entry of a tuple. -/
def tupleType : Read Unit := do
  if ← seesTupleName then
    discard (optional "...")
    discard readMemberName
    discard (optional "?")
    expect ":"
  discard (optional "...")
  discard g.type

/-- The options of an import that is a type. -/
def importTypeOptions : Read Unit := do
  expect "\x7b"
  expect "assert"
  expect ":"
  if ← expected "\x7b" then
    let entry : Read Unit := do
      if ← seesKind .string then next else discard readMemberName
      expect ":"
      discard (g.assignment true)
    discard (readDivided .importOptions entry)
    expect "\x7d"
  expect "\x7d"

/-- The type of a module. -/
def importType : Read Unit := do
  discard (optional "typeof")
  expect "import"
  expect "("
  discard g.type
  if ← optional "," then importTypeOptions g
  expect ")"
  if ← optional "." then discard (pointedName true)
  typeArgumentsOfName g

/-- Takes the rest of a template from a closing brace on, as one token. -/
def rescanTemplate : Read Unit := modify fun s =>
  if s.token.is "\x7d" then
    let from_ := '\x7d' :: s.rest
    match TypeScript.scanTemplatePart .templateTail .templateMiddle from_ with
    | .ok found =>
      let stop := s.token.start + found.length
      let raw := String.ofList (from_.take found.length)
      let token := { s.token with kind := .of found.kind, text := raw, raw, stop }
      { s with token, rest := from_.drop found.length, left := s.left + 1 - found.length }
    | .error _ =>
      let raw := String.ofList from_
      let token := { s.token with kind := .templateTail, text := raw, raw, stop := s.token.stop + s.left }
      { s with token, rest := [], left := 0 }
  else s

/-- The substitutions of a template that is a type. -/
def templateTypeSpans : (fuel : Nat) → Read Unit
  | 0 => return
  | fuel + 1 => do
    discard g.type
    if ← sees "\x7d" then
      rescanTemplate
      let t ← token
      next
      if t.kind = .templateMiddle then templateTypeSpans fuel
    else fault

/-- A type without anything after it. -/
def plainType (again : Read TypeForm) : Read TypeForm := do
  let t ← token
  if t.isOneOf ["any", "unknown", "string", "number", "bigint", "symbol", "boolean", "undefined", "never", "object"] then
    if (← plainTypeWord).isSome then return .complete else typeReference g
  else if t.isOneOf ["*", "*="] then
    next
    return .complete
  else if t.isOneOf ["?", "??"] then
    next
    if !(← seesOneOf [",", "\x7d", ")", ">", "=", "|"]) then discard g.type
    return .complete
  else if t.is "function" then
    if ← nextIs false (·.is "(") then
      next
      discard (signatureParameters g)
      discard (returnType g false)
      return .functionWord
    else typeReference g
  else if t.is "!" then
    next
    discard again
    return .complete
  else if t.isOneOf ["true", "false", "null", "void"] || t.kind = .template || t.kind = .string || t.kind = .number ||
    t.kind = .bigInteger then
    next
    return .complete
  else if t.is "-" then
    if ← nextIs false fun t => t.kind = .number || t.kind = .bigInteger then
      next
      next
      return .complete
    else typeReference g
  else if t.is "this" then
    next
    if (← sees "is") && !(← token).newline then
      next
      discard g.type
    return .complete
  else if t.is "typeof" then
    if ← nextIs false (·.is "import") then importType g
    else
      next
      discard (pointedName true)
      if !(← token).newline then
        if ← sees "<" then discard (readBracketed .typeArguments g.type "<" ">")
    return .complete
  else if t.is "\x7b" then
    if ← seesMappedType then mappedType g else typeMembers g
    return .complete
  else if t.is "[" then
    discard (readBracketed .tupleTypes (tupleType g) "[" "]")
    return .complete
  else if t.is "(" then
    next
    let inner ← g.type
    expect ")"
    return inner.form
  else if t.is "import" then
    importType g
    return .complete
  else if t.is "asserts" then
    let isAssertion ← lookAhead do
      next
      if (← token).newline then return false
      if ← sees "this" then return true
      seesName
    if isAssertion then
      next
      if ← sees "this" then next else discard readName
      if ← optional "is" then discard g.type
      return .complete
    else typeReference g
  else if t.kind = .templateHead then
    next
    templateTypeSpans g (← plenty)
    return .complete
  else typeReference g

/-- A type without anything after it. -/
def plainTypeFrom : (fuel : Nat) → Read TypeForm
  | 0 => return .broken
  | fuel + 1 => plainType g (plainTypeFrom fuel)

/-- What follows a type: brackets for a list of it or a member of it. -/
def typeRest : (fuel : Nat) → (form : TypeForm) → Read TypeForm
  | 0, form => return form
  | fuel + 1, form => do
    let t ← token
    if t.newline then return form
    else if t.is "!" then
      next
      typeRest fuel .complete
    else if t.is "?" then
      let fuel' ← plenty
      if ← lookAhead (do next; seesType fuel' false) then return form
      next
      typeRest fuel .complete
    else if t.is "[" then
      next
      if ← seesType (← plenty) false then discard g.type
      expect "]"
      typeRest fuel .complete
    else return form

/-- What an inferred type has to be. -/
def inferredBound : Read (Option Unit) := attempt do
  if ← optional "extends" then
    discard (within (fun s => { s with withoutChoice := true }) g.type)
    if (← get).setting.withoutChoice || !(← sees "?") then return some ()
  return none

/-- A type with the words before it. -/
def typeWithWords : (fuel : Nat) → Read TypeForm
  | 0 => return .broken
  | fuel + 1 => do
    if ← seesOneOf ["keyof", "unique", "readonly"] then
      next
      discard (typeWithWords fuel)
      return .complete
    else if ← optional "infer" then
      discard readName
      discard (inferredBound g)
      return .complete
    else within (fun s => { s with withoutChoice := false }) do
      let form ← plainTypeFrom g (← plenty)
      typeRest g (← plenty) form

/-- The types that an operator joins. -/
def joinedRest (operator : String) (part : Read TypeForm) : (fuel : Nat) → Read Bool
  | 0 => return false
  | fuel + 1 => do
    if ← optional operator then
      discard (if ← seesSignature g then signature g else part)
      discard (joinedRest operator part fuel)
      return true
    return false

/-- Types that an operator joins, possibly with the operator before the first. -/
def joinedTypes (operator : String) (part : Read TypeForm) : Read TypeForm := do
  let leads ← optional operator
  let form ← if leads then (do if ← seesSignature g then signature g else part) else part
  let isJoined ← joinedRest g operator part (← plenty)
  return if leads || isJoined then .complete else form

/-- A type that is no choice between types. -/
def unitedType : Read TypeForm := do
  let fuel ← plenty
  joinedTypes g "|" (joinedTypes g "&" (typeWithWords g fuel))

/-- A type. -/
def readType : Read TypeShape := within (fun s => { s with inYield := false, inAwait := false }) do
  let before ← position
  if ← seesSignature g then
    let form ← signature g
    return ⟨← extentFrom before, form⟩
  let form ← unitedType g
  let mayChoose := !(← get).setting.withoutChoice && !(← token).newline
  if ← (if mayChoose then optional "extends" else pure false) then
    let allow (p : Read TypeShape) : Read Unit := discard (within (fun s => { s with withoutChoice := false }) p)
    discard (within (fun s => { s with withoutChoice := true }) g.type)
    expect "?"
    allow g.type
    expect ":"
    allow g.type
    return ⟨← extentFrom before, .complete⟩
  return ⟨← extentFrom before, form⟩

end Grammar

end Distill.Concrete
