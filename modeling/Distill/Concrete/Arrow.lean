import Distill.Concrete.Expression

/-!
Expressions with what binds most loosely: concise functions, assignments, choices and sequences.
-/
namespace Distill.Concrete

namespace Grammar

variable (g : Grammar)

/-- How sure it is that a concise function begins somewhere. -/
inductive Likelihood where
  | never
  | maybe
  | always
deriving DecidableEq, Repr

/-- What a parenthesis shows about whether it begins the parameters of a concise function. -/
def parenthesisLikelihood : Read Likelihood := do
  let second ← token
  if second.is ")" then
    next
    return if ← seesOneOf ["=>", ":", "\x7b"] then .always else .never
  else if second.isOneOf ["[", "\x7b"] then return .maybe
  else if second.is "..." then return .always
  else
    let isAfterModifier ← if second.kind = .word && isModifier second.text && !second.is "async" then nextIsName false
      else pure false
    if isAfterModifier then
      next
      return if ← sees "as" then .never else .always
    else if !(← seesName) && !second.is "this" then return .never
    else
      next
      let third ← token
      if third.is ":" then return .always
      else if third.is "?" then
        next
        return if ← seesOneOf [":", ",", "=", ")"] then .always else .never
      else if third.isOneOf [",", "=", ")"] then return .maybe
      else return .never

/-- Whether a concise function with parentheses begins here. -/
def arrowLikelihood : Read Likelihood := do
  if ← sees "=>" then return .always
  if !(← seesOneOf ["(", "<", "async"]) then return .never
  lookAhead do
    if ← optional "async" then
      if (← token).newline then return .never
      if !(← seesOneOf ["(", "<"]) then return .never
    let first ← token
    next
    if first.is "(" then parenthesisLikelihood
    else return if ← seesName then .maybe else .never

/-- Whether an expression begins here that can be a statement. -/
def seesExpressionStatement : Read Bool := do
  if ← seesOneOf ["\x7b", "function", "class", "@"] then return false
  seesExpression

/-- The body of a concise function: a block, or what it gives back. A block may lack its first brace. -/
def arrowBody (isAsync mayReturn : Bool) : Read Tree := do
  if ← sees "\x7b" then g.functionBody false isAsync
  else
    let isStatement ← if ← seesOneOf [";", "function", "class"] then pure false
      else if ← seesStatement then pure !(← seesExpressionStatement)
      else pure false
    if isStatement then
      let from_ ← start
      let isMultiLine := (← token).newline
      let setting (s : Setting) : Setting := { functionSetting false isAsync s with inDecorator := false }
      let (list, body) ← within setting (readList .block g.statement)
      expect "\x7d"
      build from_ (.block isMultiLine list body)
    else within (fun s => { s with inAwait := isAsync }) (g.assignment mayReturn)

/-- The word `async` as a modifier, if it comes. -/
def asyncModifier : Read (List Tree) := do
  if ← sees "async" then return [← wordOf] else return []

/-- A concise function with a single name as its parameter. -/
def simpleArrow (from_ : Start) (name : Tree) (words : List Tree) (mayReturn : Bool) : Read Tree := do
  let param : Tree := .mk name.extent false (.parameter name.extent [] false none name none)
  let mark ← expectedLeaf "=>"
  let body ← arrowBody g (!words.isEmpty) mayReturn
  build from_ (.arrow words words.isEmpty ⟨name.extent, false⟩ [param] mark body)

/-- A concise function with parameters in parentheses. Nothing if it might be something else and `isSure` does not
hold. -/
def parenthesizedArrow (isSure mayReturn : Bool) : Read (Option Tree) := do
  let from_ ← start
  let words ← asyncModifier
  let isAsync := !words.isEmpty
  typeParameters g
  let outerAwait := (← get).setting.inAwait
  let hasOpening ← expected "("
  if !hasOpening && !isSure then return none
  let read? ← if hasOpening then
      within (functionSetting false isAsync) (readDivided? .parameters (g.parameter isSure outerAwait))
    else pure (some (⟨← extentFrom (← position), false⟩, []))
  let some (list, params) := read? | return none
  let hasClosing ← if hasOpening then expected ")" else pure true
  if !hasClosing && !isSure then return none
  let hasColon ← sees ":"
  let type ← returnType g false
  let form := (type.map (·.form)).getD .complete
  if !isSure then
    if form = .broken then return none
    if !(← sees "=>") && (form = .functionWord || !(← sees "\x7b")) then return none
  let hasBody ← seesOneOf ["=>", "\x7b"]
  let mark ← expectedLeaf "=>"
  let body ← if hasBody then arrowBody g isAsync mayReturn else readName
  if !mayReturn && hasColon then
    if !(← sees ":") then return none
  return some (← build from_ (.arrow words false list (valueParameters params) mark body))

/-- A concise function with parameters in parentheses, if one begins here. -/
def tryParenthesizedArrow (mayReturn : Bool) : Read (Option Tree) := do
  match ← arrowLikelihood with
  | .never => return none
  | .always => parenthesizedArrow g true true
  | .maybe =>
    let at_ := (← token).start
    if (← get).notArrows.contains at_ then return none
    let found ← attempt (parenthesizedArrow g false mayReturn)
    if found.isNone then modify fun s => { s with notArrows := at_ :: s.notArrows }
    return found

/-- A concise function with the word `async` and a single name before its arrow, if one begins here. -/
def tryAsyncArrow (mayReturn : Bool) : Read (Option Tree) := do
  if !(← sees "async") then return none
  let isArrow ← lookAhead do
    next
    if (← token).newline then return false
    if ← sees "=>" then return false
    let e ← binaryOf g
    let isName := match e.node with
      | .name _ => true
      | _ => false
    return isName && !(← token).newline && (← sees "=>")
  if !isArrow then return none
  let from_ ← start
  let words ← asyncModifier
  let name ← binaryOf g
  return some (← simpleArrow g from_ name words mayReturn)

/-- Whether the word `yield` is an operator here. -/
def seesYield : Read Bool := do
  if !(← sees "yield") then return false
  if (← get).setting.inYield then return true
  nextIs true fun t => t.isMemberName || t.kind = .number || t.kind = .bigInteger || t.kind = .string

/-- An expression with the operator `yield`. -/
def yieldOf : Read Tree := do
  let from_ ← start
  next
  let hasValue ← if (← token).newline then pure false else if ← sees "*" then pure true else seesExpression
  if hasValue then
    let star ← optionalLeaf "*"
    let value ← g.assignment true
    build from_ (.yielding star (some value))
  else build from_ (.yielding none none)

/-- The rest of a choice after what it depends on. -/
def choiceRest (from_ : Start) (test : Tree) (mayReturn : Bool) : Read Tree := do
  match ← optionalLeaf "?" with
  | none => return test
  | some question =>
    let yes ← freely (g.assignment false)
    let hasColon ← sees ":"
    let colon ← expectedLeaf ":"
    let no ← if hasColon then g.assignment mayReturn else missingName
    build from_ (.conditional test question yes colon no)

/-- An expression that is an entry of a list. -/
def readAssignment (mayReturn : Bool) : Read Tree := do
  if ← seesYield then return ← yieldOf g
  if let some arrow ← tryParenthesizedArrow g mayReturn then return arrow
  if let some arrow ← tryAsyncArrow g mayReturn then return arrow
  let from_ ← start
  let e ← binaryOf g
  let isName := match e.node with
    | .name _ => true
    | _ => false
  if isName && (← sees "=>") then return ← simpleArrow g from_ e [] mayReturn
  if e.isTarget then
    joinGreater
    let t ← token
    if t.kind = .mark && TypeScript.assignments.contains t.text then
      let operator ← leaf
      let value ← g.assignment mayReturn
      return ← build from_ (.binary e operator value)
  choiceRest g from_ e mayReturn

/-- The rest of a sequence. -/
def sequenceRest (from_ : Start) : (fuel : Nat) → Tree → Read Tree
  | 0, t => return t
  | fuel + 1, t => do
    match ← optionalLeaf "," with
    | none => return t
    | some operator =>
      let value ← g.assignment true
      sequenceRest from_ fuel (← build from_ (.binary t operator value))

/-- An expression, possibly a sequence. -/
def readExpression : Read Tree := within (fun s => { s with inDecorator := false }) do
  let from_ ← start
  let first ← g.assignment true
  sequenceRest g from_ (← plenty) first

end Grammar

end Distill.Concrete
