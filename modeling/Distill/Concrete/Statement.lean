import Distill.Concrete.Member

/-!
Statements. One that is only about types is left out, but keeps its place.
-/
namespace Distill.Concrete

namespace Grammar

variable (g : Grammar)

/-- What is left of a statement that is only about types. -/
def leftOut (from_ : Start) (words : List Tree) : Read Tree := do
  erase
  finish from_ (.nothing (hasWord "export" words))

/-- A variable with its value. -/
def declaratorOf (mayAssert : Bool) : Read Tree := do
  let from_ ← start
  let name ← g.binding
  let isName := match name.node with
    | .name _ => true
    | _ => false
  if mayAssert && isName && !(← token).newline then
    if ← optional "!" then erase
  let type ← g.annotation
  let value ← if ← seesOneOf ["in", "of"] then pure none else g.initializer
  build from_ (.declarator name (type.map (·.extent)) value)

/-- Variables with the word before them. -/
def declaratorsOf (isLoop : Bool) : Read Tree := do
  let from_ ← start
  let word := (← token).text
  next
  let isWord ← if ← sees "of" then lookAhead (do
      next
      if ← seesName then nextIs false (·.is ")") else return false)
    else pure false
  let (list, items) ← if isWord then pure (⟨← extentFrom (← position), false⟩, [])
    else within (fun s => { s with withoutIn := isLoop }) (readDivided .declarators (declaratorOf g !isLoop))
  build from_ (.declarators word list items)

/-- A declaration of variables after its modifiers. -/
def variablesOf (from_ : Start) (words : List Tree) : Read Tree := do
  let list ← declaratorsOf g false
  endStatement
  if hasWord "declare" words then leftOut from_ words
  else build from_ (.variables (← valueModifiers words) list)

/-- A declaration of a function after its modifiers. -/
def functionOf (from_ : Start) (words : List Tree) : Read Tree := do
  expect "function"
  let star ← optionalLeaf "*"
  let name ← if hasWord "default" words then
      if ← seesBindingName then some <$> readBindingName else pure none
    else some <$> readBindingName
  let isAsync := hasWord "async" words
  let setting (s : Setting) : Setting := { s with inAwait := s.inAwait || hasWord "export" words }
  typeParameters g
  let (list, params) ← within setting do
    let list ← parameters g star.isSome isAsync
    discard (returnType g false)
    return list
  let body ← within setting (bodyOrEnd g star.isSome isAsync)
  if body.isNone || hasWord "declare" words then leftOut from_ words
  else build from_ (.function (← valueModifiers words) star name list params body)

/-- An interface. -/
def interfaceOf (from_ : Start) (words : List Tree) : Read Tree := do
  next
  discard readName
  typeParameters g
  if ← seesOneOf ["extends", "implements"] then discard (readList .heritage (heritageClause g))
  typeMembers g
  leftOut from_ words

/-- A name for a type. -/
def typeAliasOf (from_ : Start) (words : List Tree) : Read Tree := do
  next
  discard readName
  typeParameters g
  expect "="
  let isWord ← if ← sees "intrinsic" then pure (← plainTypeWord).isSome else pure false
  if !isWord then discard g.type
  endStatement
  leftOut from_ words

/-- An enumeration. -/
def enumOf (from_ : Start) (words : List Tree) : Read Tree := do
  next
  discard readName
  if ← expected "\x7b" then
    let entry : Read Unit := do
      discard (readKey g)
      discard (allowingIn g.initializer)
    discard (within (functionSetting false false) (readDivided .enumMembers entry))
    expect "\x7d"
  leftOut from_ words

/-- The statements of a namespace. -/
def namespaceBody : Read Unit := do
  if ← expected "\x7b" then
    discard (readList .block g.statement)
    expect "\x7d"

/-- The rest of the name of a namespace, and its statements. -/
def namespaceRest : (fuel : Nat) → Read Unit
  | 0 => return
  | fuel + 1 => do
    discard readName
    if ← optional "." then namespaceRest fuel else namespaceBody g

/-- A namespace, or what is said about a module. -/
def namespaceOf (from_ : Start) (words : List Tree) : Read Tree := do
  let t ← token
  next
  if t.is "global" || t.is "module" && (← seesKind .string) then
    if !t.is "global" then next
    if ← sees "\x7b" then namespaceBody g else endStatement
  else namespaceRest g (← plenty)
  leftOut from_ words

/-- An expression in parentheses, as part of a statement. -/
def testOf : Read Tree := do
  expect "("
  let test ← allowingIn g.expression
  expect ")"
  return test

/-- The expression before the end of a statement, if there is one. -/
def valueBeforeEnd : Read (Option Tree) := do
  if ← canEnd then return none else return some (← allowingIn g.expression)

def branchOf : Read Tree := do
  let from_ ← start
  next
  let test ← testOf g
  let yes ← g.statement
  let no ← if ← optional "else" then some <$> g.statement else pure none
  build from_ (.branch test yes no)

def loopOnceOf : Read Tree := do
  let from_ ← start
  next
  let body ← g.statement
  expect "while"
  let test ← testOf g
  discard (optional ";")
  build from_ (.loopOnce body test)

/-- A loop with the word `for`. -/
def forOf : Read Tree := do
  let from_ ← start
  next
  let isAwait ← optionalLeaf "await"
  expect "("
  let init ← if ← sees ";" then pure none
    else if ← seesOneOf ["var", "let", "const"] then some <$> declaratorsOf g true
    else some <$> within (fun s => { s with withoutIn := true }) g.expression
  let first : Read Tree := match init with
    | some t => return t
    | none => missingName
  if ← (if isAwait.isSome then expected "of" else optional "of") then
    let object ← allowingIn (g.assignment true)
    expect ")"
    let body ← g.statement
    build from_ (.each isAwait "of" (← first) object body)
  else if ← optional "in" then
    let object ← allowingIn g.expression
    expect ")"
    let body ← g.statement
    build from_ (.each none "in" (← first) object body)
  else
    expect ";"
    let test ← if ← seesOneOf [";", ")"] then pure none else some <$> allowingIn g.expression
    expect ";"
    let post ← if ← sees ")" then pure none else some <$> allowingIn g.expression
    expect ")"
    let body ← g.statement
    build from_ (.count init test post body)

/-- A case of a choice between statements. -/
def clauseOf : Read Tree := do
  let from_ ← start
  let test ← if ← optional "case" then some <$> allowingIn g.expression
    else do
      expect "default"
      pure none
  expect ":"
  let (list, body) ← readList .clauseBody g.statement
  build from_ (.clause test list body)

def switchOf : Read Tree := do
  let from_ ← start
  next
  let subject ← testOf g
  let clausesFrom ← start
  expect "\x7b"
  let (list, items) ← readList .clauses (clauseOf g)
  expect "\x7d"
  let clauses ← build clausesFrom (.clauses list items)
  build from_ (.switch subject clauses)

/-- A statement that catches failures. -/
def attemptOf : Read Tree := do
  let from_ ← start
  expect "try"
  let body ← blockOf g
  let handler ← if ← sees "catch" then some <$> handlerOf else pure none
  let hasLast ← if handler.isNone then pure true else sees "finally"
  let last ← if hasLast then do
      expect "finally"
      some <$> blockOf g
    else pure none
  build from_ (.attempt body handler last)
where
  handlerOf : Read Tree := do
    let from_ ← start
    next
    let binding ← if ← optional "(" then do
        let t ← declaratorOf g false
        expect ")"
        pure (some t)
      else pure none
    let body ← blockOf g
    build from_ (.handler binding body)

/-- A statement that throws. -/
def throwOf : Read Tree := do
  let from_ ← start
  next
  let value ← if (← token).newline then finish (← start) (.name "") else allowingIn g.expression
  endStatement
  build from_ (.throwing value)

/-- An expression as a statement, or a statement with a label. -/
def expressionStatement : Read Tree := do
  let from_ ← start
  let value ← allowingIn g.expression
  let isName := match value.node with
    | .name _ => true
    | _ => false
  if ← (if isName then optional ":" else pure false) then
    let body ← g.statement
    build from_ (.labeled value body)
  else
    endStatement
    build from_ (.expression value)

/-- A statement with a single word and maybe an expression. -/
def wordStatement (node : Option Tree → Node) (value : Read (Option Tree)) : Read Tree := do
  let from_ ← start
  next
  let value ← value
  endStatement
  build from_ (node value)

end Grammar

end Distill.Concrete
