import Distill.Concrete.Arrow
import Distill.Concrete.Decoration

/-!
Functions, and the members of objects and classes. A member without a body, or one that is only declared, is left out.
The parameters of a constructor that are fields become fields, and are stored in them by its body.
-/
namespace Distill.Concrete

namespace Grammar

variable (g : Grammar)

/-- A block. With no first brace it is missing, and with a mark of equality after it that is skipped. -/
def blockOf : Read Tree := do
  let from_ ← start
  if ← expected "\x7b" then
    let isMultiLine := (← token).newline
    let (list, body) ← readList .block g.statement
    expect "\x7d"
    let block ← build from_ (.block isMultiLine list body)
    if ← sees "=" then
      fault
      next
    return block
  else finish from_ (.block false ⟨← extentFrom from_.before, false⟩ [])

/-- Whether a statement is a directive. -/
def isDirective (t : Tree) : Bool :=
  match t.node with
  | .expression value =>
    match value.node with
    | .literal .string _ => true
    | _ => false
  | _ => false

/-- Statements with declarations of the variables that are made up, after the directives. -/
def declaring (valueNames classNames : List String) (body : List Tree) : List Tree :=
  let directives := body.takeWhile isDirective
  directives ++ variablesStatement valueNames ++ variablesStatement classNames ++ body.drop directives.length

/-- A block that is the body of a function. The variables that are made up in it are declared in it. -/
def functionBlock : Read Tree := do
  let outer ← get
  set { outer with outerNames := outer.outerNames ++ outer.valueNames, valueNames := [], classVariables := [] }
  let body ← blockOf g
  let s ← get
  set { s with
    outerNames := outer.outerNames, valueNames := outer.valueNames, classVariables := outer.classVariables }
  match body.node with
  | .block isMultiLine list statements =>
    return .mk body.extent body.isChanged
      (.block isMultiLine list (declaring s.valueNames s.classVariables statements))
  | _ => return body

/-- The body of a function. -/
def readFunctionBody (isGenerator isAsync : Bool) : Read Tree :=
  within (fun s => { functionSetting isGenerator isAsync s with inDecorator := false }) (functionBlock g)

/-- The body of a function, or the end of a statement in its place. -/
def bodyOrEnd (isGenerator isAsync : Bool) : Read (Option Tree) := do
  if !(← sees "\x7b") then
    if ← tryEnd then return none
  let body ← readFunctionBody g isGenerator isAsync
  return if body.isMissing then none else some body

/-- What a function has before its body. -/
def signatureOf (isGenerator isAsync : Bool) : Read (Listing × List Tree) := do
  typeParameters g
  let list ← parameters g isGenerator isAsync
  discard (returnType g false)
  return list

/-- A function that is an expression. -/
def readFunctionExpression : Read Tree := within (fun s => { s with inDecorator := false }) do
  let from_ ← start
  let words ← modifiers {}
  expect "function"
  let star ← optionalLeaf "*"
  let isAsync := hasWord "async" words
  let name ← if ← seesBindingName then some <$> readBindingName else pure none
  let (list, params) ← signatureOf g star.isSome isAsync
  let body ← readFunctionBody g star.isSome isAsync
  build from_ (.function (← valueModifiers words) star name list params (some body))

/-- A method after its name. -/
def methodOf (from_ : Start) (words : List Tree) (star : Option Leaf) (name : Tree) : Read Tree := do
  let isAsync := hasWord "async" words
  let (list, params) ← signatureOf g star.isSome isAsync
  let body ← bodyOrEnd g star.isSome isAsync
  build from_ (.method .plain (← valueModifiers words) star (some name) list params body)

/-- An empty body where one is missing. -/
def emptyBody : Tree := .mk .made true (.block false ⟨.made, false⟩ [])

/-- A getter or setter after its first word. -/
def accessorOf (from_ : Start) (kind : MethodKind) (words : List Tree) : Read Tree := do
  let name ← readKey g
  let (list, params) ← signatureOf g false false
  let body ← bodyOrEnd g false false
  if body.isNone then erase
  let left ← valueModifiers words
  build from_ (.method kind left none (some name) list params (some (body.getD emptyBody)))

/-- The member of an object. -/
def readObjectMember : Read Tree := do
  let from_ ← start
  if ← optional "..." then
    let value ← g.assignment true
    return ← build from_ (.spread value)
  discard (readDecorators g (← plenty))
  let words ← modifiers {}
  if ← takeWord "get" then return ← accessorOf g from_ .getter words
  if ← takeWord "set" then return ← accessorOf g from_ .setter words
  let star ← optionalLeaf "*"
  let isName ← seesName
  let name ← readKey g
  discard (optional "?")
  discard (optional "!")
  if star.isSome || (← seesOneOf ["(", "<"]) then methodOf g from_ words star name
  else if isName && !(← sees ":") then
    let value ← if ← optional "=" then some <$> allowingIn (g.assignment true) else pure none
    build from_ (.shorthand name value)
  else
    expect ":"
    let value ← allowingIn (g.assignment true)
    build from_ (.entry name value)

/-- The end of a field. -/
def endField (hasType : Bool) : Read Unit := do
  if (← sees "@") && !(← token).newline then fault
  else if ← sees "(" then
    fault
    next
  else if hasType && !(← canEnd) then fault
  else endStatement

/-- A field after its name. -/
def fieldOf (from_ : Start) (words : List Tree) (name : Tree) (isOptional : Bool) : Read Tree := do
  if isOptional then erase
  if !isOptional && !(← token).newline then
    if ← optional "!" then erase
  let type ← g.annotation
  let setting (s : Setting) : Setting := { s with inYield := false, inAwait := false, withoutIn := false }
  let value ← within setting g.initializer
  endField type.isSome
  build from_ (.field (← valueModifiers words) name value)

/-- A parameter of a constructor that is a field, by its name. -/
def fieldName? (t : Tree) : Option Tree :=
  match t.node with
  | .parameter _ _ true _ name _ =>
    match name.node with
    | .name _ => some name
    | _ => none
  | _ => none

/-- Whether a parameter of a constructor is a field. -/
def isField (t : Tree) : Bool :=
  match t.node with
  | .parameter _ _ isField _ _ _ => isField
  | _ => false

/-- The expression without the parentheses around it. -/
def ungrouped : Tree → Tree
  | .mk extent isChanged node =>
    match node with
    | .group _ inner | .wrapped inner | .asserted _ inner => ungrouped inner
    | node => .mk extent isChanged node

/-- Whether a statement calls the constructor of the base. -/
def callsBase (t : Tree) : Bool :=
  match t.node with
  | .expression value =>
    match (ungrouped value).node with
    | .call callee _ _ _ _ =>
      match callee.node with
      | .word text => text = "super"
      | _ => false
    | _ => false
  | _ => false

/-- The statements of a constructor with others after its directives, or after the call of the base if there is one. -/
def storing (new body : List Tree) : List Tree :=
  let directives := body.takeWhile isDirective
  let rest := body.drop directives.length
  let before := rest.takeWhile fun s => !callsBase s
  match rest.drop before.length with
  | [] => directives ++ new ++ rest
  | call :: after => directives ++ before ++ call :: new ++ after

/-- The body of a constructor that stores its parameters in the fields that they are. -/
def storingBody (params : List Tree) (body : Tree) : Tree :=
  if !params.any isField then body
  else
    let stored (p : Tree) : Option Tree := (fieldName? p).map fun name => .mk ⟨0, p.stop, true⟩ true (.store name)
    match body.node with
    | .block _ list statements =>
      .mk body.extent true (.block true list (storing (params.filterMap stored) statements))
    | _ => body

/-- A constructor after its modifiers. -/
def builderOf (from_ : Start) : Read (Option Tree) := do
  next
  let (list, params) ← signatureOf g false false
  match ← bodyOrEnd g false false with
  | none =>
    erase
    return none
  | some body => return some (← build from_ (.method .builder [] none none list params (some (storingBody params body))))

/-- Whether the name of a constructor comes. -/
def seesBuilder : Read Bool := do
  let t ← token
  if t.is "constructor" then return true
  else if t.kind = .string then
    if (t.raw.toList.drop 1).dropLast = "constructor".toList then nextIs false (·.is "(") else return false
  else return false

/-- A member of a class: what is left of it, and what decorates it. -/
structure ClassMember where
  tree : Option Tree
  decorated : Option DecoratedMember := none

/-- The name of a getter or setter, unless it is worked out. -/
def accessorName? (kind : MethodKind) (name : Tree) : Option String :=
  match kind, name.node with
  | .getter, .name text | .setter, .name text | .getter, .literal _ text | .setter, .literal _ text => some text
  | _, _ => none

/-- A member with its decorators. If `isLeft` does not hold, it is only declared. -/
def withDecorators (decorators words : List Tree) (t : Tree) (isLeft : Bool) : Read ClassMember := do
  if !isLeft then erase
  if decorators.isEmpty then return { tree := if isLeft then some t else none }
  let isStatic := hasWord "static" words
  match t.node with
  | .field left name value =>
    let (name, key) ← decoratedKey name
    return {
      tree := if isLeft then some (.mk t.extent true (.field left name value)) else none
      decorated := some { decorators, isStatic, key, isField := !hasWord "accessor" words } }
  | .method kind left star (some name) list params body =>
    if !isLeft then return { tree := none }
    let accessorName := accessorName? kind name
    let (name, key) ← decoratedKey name
    return {
      tree := some (.mk t.extent true (.method kind left star (some name) list params body))
      decorated := some { decorators, isStatic, key, isField := false, accessorName } }
  | _ => return { tree := if isLeft then some t else none }

/-- The member of a class. -/
def classMember : Read ClassMember := do
  let from_ ← start
  if ← optional ";" then return { tree := some (← build from_ .emptyMember) }
  let decorators ← readDecorators g (← plenty)
  let words ← modifiers { takesConst := true, mindsBlocks := true }
  if (← sees "static") && (← nextIs false (·.is "\x7b")) then
    next
    let body ← within (functionSetting false true) (functionBlock g)
    return { tree := some (← build from_ (.staticBlock body)) }
  if ← takeWord "get" then return ← accessor decorators words (← accessorOf g from_ .getter words)
  if ← takeWord "set" then return ← accessor decorators words (← accessorOf g from_ .setter words)
  if ← seesBuilder then
    discard (valueModifiers words)
    return { tree := ← builderOf g from_ }
  if ← seesIndexSignature then
    erase
    indexSignature g
    return { tree := none }
  let field (name : Tree) (isOptional : Bool) : Read ClassMember := do
    let t ← fieldOf g from_ words name isOptional
    withDecorators decorators words t !(hasWord "declare" words || hasWord "abstract" words)
  if (← seesLiteralName) || (← seesOneOf ["*", "["]) then
    let star ← optionalLeaf "*"
    let name ← readKey g
    let isOptional ← optional "?"
    if star.isSome || (← seesOneOf ["(", "<"]) then
      if isOptional then erase
      let method ← methodOf g from_ words star name
      let hasBody := match method.node with
        | .method _ _ _ _ _ _ body => body.isSome
        | _ => true
      withDecorators decorators words method hasBody
    else field name isOptional
  else field (← missingName) false
where
  /-- A getter or setter, unless it is abstract and has no body. -/
  accessor (decorators words : List Tree) (t : Tree) : Read ClassMember := do
    let isMade := match t.node with
      | .method _ _ _ _ _ _ (some body) => body.isMade
      | _ => false
    withDecorators decorators words t !(isMade && hasWord "abstract" words)

/-- What a class extends. What it implements is left out. -/
def heritageClause : Read (Option Tree) := do
  let from_ ← start
  let t ← token
  next
  let entry : Read Tree := do
    let from_ ← start
    let e ← readOperand g
    match e.node with
    | .applied _ => return e
    | _ =>
      if ← sees "<" then
        erase
        discard (readBracketed .typeArguments g.type "<" ">")
      build from_ (.applied e)
  let (list, types) ← readDivided .heritageTypes entry
  if t.is "implements" then
    erase
    return none
  return some (← build from_ (.heritage t.text list types))

/-- The fields that the parameters of a constructor are. -/
def parameterFields (members : List Tree) : List Tree :=
  let isBuilder (t : Tree) : Bool := match t.node with
    | .method .builder .. => true
    | _ => false
  match members.find? isBuilder with
  | some (.mk _ _ (.method _ _ _ _ _ params _)) =>
    params.filterMap fun p => (fieldName? p).map fun name => .mk .made true (.field [] name none)
  | _ => []

/-- What a class has after its modifiers. -/
structure ClassParts where
  name : Option Tree
  /-- The name that stands for the class inside of it, should it be decorated. -/
  innerName : String
  heritage : List Tree
  list : Listing
  members : List Tree
  decorated : List DecoratedMember

/-- A class after its modifiers. -/
def classParts (words : List Tree) (isDecorated : Bool) : Read ClassParts := do
  expect "class"
  let isClause ← if ← sees "implements" then nextIs false Token.isMemberName else pure false
  let name ← if !isClause && (← seesBindingName) then some <$> readBindingName else pure none
  let s ← get
  let innerName := if isDecorated then s.freeName ((name.map nameText).getD "default") else ""
  typeParameters g
  let aliases := if isDecorated then (name.map fun name => (nameText name, innerName)).toList else []
  let setting (s : Setting) : Setting :=
    { s with inAwait := s.inAwait || hasWord "export" words, aliases := aliases ++ s.aliases }
  within setting do
    let heritage ← if ← seesOneOf ["extends", "implements"] then (·.2) <$> readList .heritage (heritageClause g)
      else pure []
    let hasBody ← expected "\x7b"
    let (list, members) ← if hasBody then readList .classMembers (classMember g)
      else pure (⟨← extentFrom (← position), false⟩, [])
    if hasBody then expect "\x7d"
    let left := members.filterMap (·.tree)
    return {
      name, innerName, list, heritage := heritage.filterMap id, members := parameterFields left ++ left
      decorated := members.filterMap (·.decorated) }

/-- The class itself, with a name. -/
def ClassParts.node (c : ClassParts) (words : List Tree) (name : Option Tree) : Node :=
  .classLike words name c.heritage c.list c.members

/-- A class that is a statement, after its decorators and modifiers. -/
def classOf (from_ : Start) (decorators words : List Tree) : Read Tree := do
  let c ← classParts g words !decorators.isEmpty
  let left ← valueModifiers words
  if decorators.isEmpty && c.decorated.isEmpty then build from_ (c.node left c.name)
  else
    let name ← outerName c
    let calls := memberDecorations name c.decorated
    modify fun s => { s with isDecorated := true }
    if decorators.isEmpty then
      let t ← build from_ (c.node left (some (c.name.getD (madeName name))))
      return .made (.series (t :: calls))
    let isUsed := (← get).usedNames.contains c.innerName
    if isUsed then
      modify fun s => { s with
        classNames := c.innerName :: s.classNames, classVariables := s.classVariables ++ [c.innerName] }
    let assigned (name : String) (value : Tree) : Tree := .made (.binary (madeName name) ⟨"=", .made⟩ value)
    let inside (value : Tree) : Tree := if isUsed then assigned c.innerName value else value
    let isMoved (t : Tree) : Bool := t.isWord "export" || t.isWord "default"
    let value := Tree.made (c.node (left.filter (!isMoved ·)) c.name)
    let declarator := Tree.made (.declarator (madeName name) none (some (inside value)))
    let declared ← finish from_ (.variables [] (.made (.declarators "let" .made [declarator])))
    let call := Tree.made (.expression (assigned name (inside (decorateCall decorators [madeName name]))))
    return .made (.series (declared :: calls ++ [call] ++ exports left name))
where
  /-- The name of a class outside of it. -/
  outerName (c : ClassParts) : Read String := do
    match c.name with
    | some name => return nameText name
    | none =>
      let name := (← get).freeName "default"
      modify fun s => { s with classNames := name :: s.classNames }
      return name
  /-- The statements that export a class by its name. -/
  exports (words : List Tree) (name : String) : List Tree :=
    if !hasWord "export" words then []
    else if hasWord "default" words then [.made (.exportDefault false (madeName name))]
    else
      let entry := Tree.made (.specifier false none (madeName name))
      [.made (.exporting false (some (.made (.entries .made [entry]))) none none)]

/-- A class that is an expression. Its decorators, and those of its members, are left out. -/
def readClassExpression : Read Tree := do
  let from_ ← start
  let c ← classParts g [] false
  build from_ (c.node [] c.name)

end Grammar

end Distill.Concrete
