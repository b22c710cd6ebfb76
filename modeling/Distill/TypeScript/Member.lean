import Distill.TypeScript.Function

/-!
Members of objects and classes, and classes themselves. Members that only speak of types are read and dropped.
-/
namespace Distill.TypeScript.Grammar

open Parse

/-- Arguments in parentheses. -/
def arguments (g : Grammar) : Parse (List Expr × Layout) := do
  expect "("
  let (args, isMultiLine) ← allowingIn true <| listed ")" do
    let at_ ← place
    if ← eat "..." then return .plain at_ (.spread (← g.value Level.comma))
    g.value Level.comma
  let closing ← commentsHere
  expect ")"
  return (args, { isMultiLine, closing })

/-- A decorator after its mark. -/
def decorator (g : Grammar) : Parse Expr := do
  if ← eat "(" then
    let e ← g.value Level.lowest
    expect ")"
    return .plain e.place (.group e)
  let t ← token
  let name ← expectName
  checkName name t.place
  go (t.place + 1) (.plain t.place (.name name))
where
  go : (fuel : Nat) → Expr → Parse Expr
    | 0, e => return e
    | fuel + 1, e => do
      let breaks ← newlineBefore
      if (← sees "!") && !breaks then
        advance
        go fuel e
      else if ← eat "." then
        let t ← token
        if !(← seesMemberName) then refuse "identifier"
        advance
        go fuel (.plain e.place (.dot e false t.text))
      else if ← sees "(" then
        let (args, layout) ← g.arguments
        return .plain e.place (.call e false layout args)
      else if ← seesAny ["<", "<=", "<<", "<<="] then
        g.typeArguments false
        go fuel e
      else return e

def decorators (g : Grammar) : Parse (List Expr) := many do
  if ← eat "@" then return some (← g.decorator)
  return none

inductive MemberKind where
  | field
  | method
  | getter
  | setter
  | accessor
deriving DecidableEq, Repr

/-- What is known of a member before its key. -/
structure MemberAim where
  kind : MemberKind := .field
  isClass : Bool := false
  /-- Whether the class has a base. -/
  hasBase : Bool := false
  decorators : List Expr := []
  isStatic : Bool := false
  isAsync : Bool := false
  isGenerator : Bool := false
  /-- The place of the word `declare`. -/
  declareWord : Option Place := none
  isAbstract : Bool := false
  /-- Whether the object may turn out to be a pattern. -/
  maybePattern : Bool := false

/-- What a word in front of a key makes of a member; nothing if it is no such word. -/
def MemberAim.afterWord (m : MemberAim) (word : String) (at_ : Place) (newline : Bool) : Option MemberAim :=
  let m := { m with maybePattern := false }
  match word with
  | "get" => some { m with kind := .getter }
  | "set" => some { m with kind := .setter }
  | "accessor" => if !newline && m.isClass then some { m with kind := .accessor } else none
  | "async" => if !newline then some { m with kind := .method, isAsync := true } else none
  | "static" => if m.isClass && !m.isStatic then some { m with isStatic := true } else none
  | "declare" =>
    if !newline && m.isClass && m.declareWord.isNone then some { m with declareWord := some at_ } else none
  | "abstract" => if !newline && m.isClass && !m.isAbstract then some { m with isAbstract := true } else none
  | "private" | "protected" | "public" | "readonly" | "override" => if m.isClass then some m else none
  | _ => none

/-- How messages name a key. -/
def keyName (key : Expr) : String :=
  match key.node with
  | .name text | .privateName text => Text.quoted text
  | .string text => Text.quoted (String.ofList ((contentOf text).map Char.ofNat))
  | _ => "property"

/-- Whether a key is this text, as a name or as a string. -/
def keyIs (key : Expr) (text : String) : Bool :=
  match key.node with
  | .name t => t = text
  | .string t => contentOf t = text.toList.map Char.toNat
  | _ => false

/-- Declares the key of a class member if it is private. -/
def declarePrivate (key : Expr) (role : PrivateRole) (isStatic : Bool) (what : String) : Parse Unit := do
  if let .privateName name := key.node then
    if name = "#constructor" then note key.place ("Invalid " ++ what ++ " name " ++ Text.quoted name)
    let _ ← declare (.privateName role isStatic) name key.place

/-- The rest of a field after its key. -/
def fieldTail (g : Grammar) (m : MemberAim) (key : Expr) : Parse MemberNode := do
  for name in ["constructor", "prototype"] do
    if keyIs key name && (name = "constructor" || m.isStatic) then
      note key.place ("Invalid field name " ++ Text.quoted name)
  g.annotation
  let init ← if ← eat "=" then
      pure (some (← inSetting (fun s => { s with allowsSuperMember := true }) (g.value Level.comma)))
    else pure none
  declarePrivate key (if m.kind = .accessor then .pair else .field) m.isStatic "field"
  endStatement
  return .field m.isStatic (m.kind = .accessor) key init

/-- Refuses wrong numbers of parameters of getters and setters. -/
def checkAccessor (m : MemberAim) (key : Expr) (params : List Expr) : Parse Unit := do
  let placeOf (e : Expr) : Place := match e.node with
    | .spread inner => inner.place
    | _ => e.place
  match m.kind, params with
  | .getter, first :: _ => note (placeOf first) ("Getter " ++ keyName key ++ " must have zero arguments")
  | .setter, [] => note key.place ("Setter " ++ keyName key ++ " must have exactly one argument")
  | .setter, _ :: second :: _ => note (placeOf second) ("Setter " ++ keyName key ++ " must have exactly one argument")
  | _, _ => return

/-- The rest of a method after its key; nothing if it has no body. -/
def methodTail (g : Grammar) (m : MemberAim) (key : Expr) : Parse (Option MemberNode) := do
  if let some at_ := m.declareWord then
    let what := match m.kind with
      | .getter => "getter"
      | .setter => "setter"
      | _ => "method"
    note at_ ("\"declare\" cannot be used with a " ++ what)
  let start ← place
  let count ← scopeCount
  let around := (← get).scope
  let outer ← openScope .params
  let named := m.isClass && !m.isStatic && keyIs key "constructor"
  let fault := match m.kind with
    | .getter => some "a getter"
    | .setter => some "a setter"
    | _ => if m.isAsync then some "an async function" else if m.isGenerator then some "a generator" else none
  if named then
    if let some what := fault then note key.place ("Class constructor cannot be " ++ what)
  if m.isClass && m.isStatic && keyIs key "prototype" then note key.place "Invalid static method name \"prototype\""
  let isConstructor := named && fault.isNone
  let setting : Setting := { settingOf m.isAsync m.isGenerator with
    allowsSuperCall := m.hasBase && isConstructor, allowsSuperMember := true, isConstructor, mayLackBody := m.isClass }
  match ← g.functionParts setting m.isClass with
  | none =>
    dropScopesFrom count
    modify fun s => { s with scope := around }
    return none
  | some parts =>
    closeScope
    checkAccessor m key parts.params
    let role := match m.kind with
      | .getter => .getter
      | .setter => .setter
      | _ => .method
    declarePrivate key role m.isStatic "method"
    let head : FunctionHead :=
      { place := start, isAsync := m.isAsync, isGenerator := m.isGenerator, outer, inner := parts.inner
        fields := parts.fields }
    let method : MethodHead := { isStatic := m.isStatic, isGetter := m.kind = .getter, isSetter := m.kind = .setter }
    return some (.method method key (.mk head parts.params parts.body))

/-- What follows the key of a member. -/
def memberTail (g : Grammar) (m : MemberAim) (key : Expr) : Parse (Option MemberNode) := do
  let breaks ← newlineBefore
  let mut isDefinite := false
  if m.isClass then
    if ← sees "?" then advance
    else if (← sees "!") && !breaks && (m.kind = .field || m.kind = .accessor) then
      advance
      isDefinite := true
  let hasTypes ← if isDefinite || m.kind = .accessor then pure false else pure (← g.typeParameters {}).isSome
  if m.kind = .accessor || m.isClass && m.kind = .field && !hasTypes && !(← sees "(") then
    return some (← g.fieldTail m key)
  if (← sees "(") || m.kind ≠ .field || m.isClass then return ← g.methodTail m key
  expect ":"
  return some (.entry key (← g.expression Level.comma { maybePattern := m.maybePattern }))

/-- A shorthand for a name and its value. -/
def shorthandTail (g : Grammar) (m : MemberAim) (t : Token) : Parse MemberNode := do
  checkName t.text t.place
  if m.maybePattern && (← sees "=") then
    let at_ ← place
    modify fun s => { s with deferred := { s.deferred with default := some at_ } }
    advance
    return .shorthand t.text (some (← g.value Level.comma))
  return .shorthand t.text none

/-- A block that runs when the class is made, after its opening brace. -/
def staticBlock (g : Grammar) : Parse MemberNode :=
  inSetting (fun _ => { forbidsReturn := true, allowsSuperMember := true, await := .forbidden }) <|
    inScope .staticBlock fun id => do return .staticBlock id (← g.statements false)

/-- Whether a key can start at the current token after this word. -/
def seesKeyAfter (word : String) : Parse Bool := do
  if (← seesMemberName) || (← token).kind matches .number | .string | .privateName | .bigInteger then return true
  return (← sees "[") || (← sees "*") && word ≠ "get" && word ≠ "set"

/-- A member of an object or a class; nothing if it only speaks of types. -/
def member (g : Grammar) : (fuel : Nat) → MemberAim → Parse (Option MemberNode)
  | 0, _ => unexpected
  | fuel + 1, m => do
    let t ← token
    if ← sees "*" then
      if m.kind ≠ .field && (m.kind ≠ .method || m.isGenerator) then unexpected
      advance
      return ← member g fuel { m with kind := .method, isGenerator := true }
    if t.kind = .privateName then
      if !m.isClass then refuse "identifier"
      if let some at_ := m.declareWord then note at_ "\"declare\" cannot be used with a private identifier"
      advance
      return ← g.memberTail m (.plain t.place (.privateName t.text))
    if ← sees "[" then
      advance
      let isName ← seesName
      let e ← g.value Level.comma
      if isName && m.isClass && (← sees ":") && e.node matches .name _ then
        if let some at_ := m.declareWord then note at_ "\"declare\" cannot be used with an index signature"
        advance
        g.plainType
        expect "]"
        expect ":"
        g.plainType
        endStatement
        return none
      expect "]"
      return ← g.memberTail m (.plain e.place (.computed e))
    if let some key ← g.literalKey? then return ← g.memberTail m key
    if !(← seesMemberName) then refuse "identifier"
    advance
    if m.kind = .field then
      if ← seesKeyAfter t.raw then
        if let some next := m.afterWord t.raw t.place (← newlineBefore) then
          if next.declareWord ≠ m.declareWord || next.isAbstract ≠ m.isAbstract then
            let count ← scopeCount
            let _ ← member g fuel next
            dropScopesFrom count
            return none
          return ← member g fuel next
      else if (← sees "\x7b") && m.isClass && t.text = "static" && m.decorators.isEmpty then
        advance
        return some (← g.staticBlock)
      if !m.isClass && !(← seesAny [":", "(", "<"]) && !keywords.contains t.text then
        return some (← g.shorthandTail m t)
    g.memberTail m (.plain t.place (.name t.text))

/-- Whether a member is the constructor of a class. -/
def isConstructorNode : MemberNode → Bool
  | .method head key _ => !head.isStatic && keyIs key "constructor"
  | _ => false

def keyOf? : MemberNode → Option Expr
  | .entry key _ | .method _ key _ | .field _ _ key _ => some key
  | _ => none

/-- The members of a class up to the closing brace. -/
def classMembers (g : Grammar) (hasBase : Bool) : (fuel : Nat) → (hasConstructor : Bool) → Parse (List Member)
  | 0, _ => return []
  | fuel + 1, hasConstructor => do
    if ← sees "\x7d" then return []
    if ← eat ";" then return ← classMembers g hasBase fuel hasConstructor
    let start ← place
    let decorators ← g.decorators
    let comments ← commentsHere
    let at_ ← place
    match ← g.member (at_ + 1) { isClass := true, hasBase, decorators } with
    | none => classMembers g hasBase fuel hasConstructor
    | some node =>
      let isConstructor := isConstructorNode node
      if let some key := keyOf? node then
        if !decorators.isEmpty && keyIs key "constructor" then
          note start "Decorators are not allowed on class constructors"
        if isConstructor && hasConstructor then
          note key.place "Classes cannot contain more than one constructor"
      let rest ← classMembers g hasBase fuel (hasConstructor || isConstructor)
      return .mk at_ comments decorators node :: rest

/-- A class after its name. The scope of the name is open. -/
def classTail (g : Grammar) (start : Place) (decorators : List Expr) (name : Option Declared) :
    Parse Class := do
  let outer := (← get).scope
  let base ← if ← eatKeyword "extends" then
      let e ← g.value Level.construct
      g.typeArguments false
      pure (some e)
    else pure none
  if ← eatWord "implements" then g.typeList
  expect "\x7b"
  let before := (← get).allowPrivate
  let (inner, members) ← allowingIn true <| inScope .classBody fun id => do
    modify fun s => { s with allowPrivate := true }
    let members ← g.classMembers base.isSome ((← place) + 1) false
    modify fun s => { s with allowPrivate := before }
    return (id, members)
  expect "\x7d"
  return .mk { place := start, name, outer, inner } decorators base members

/-- The name of a class, if there is one. -/
def className? : Parse (Option (String × Place)) := do
  let t ← token
  if t.kind ≠ .name || t.text = "implements" then return none
  if (← get).setting.await ≠ .name && t.text = "await" then note t.place "Cannot use \"await\" as an identifier here:"
  advance
  return some (t.text, t.place)

/-- A class expression after the word `class`. -/
def classExpression (g : Grammar) (start : Place) (comments : List String) (decorators : List Expr) : Parse Expr :=
  inScope .className fun _ => do
    let name ← (← className?).mapM fun (name, place) => do
      return ({ name, place, symbol := ← newSymbol .lexical name } : Declared)
    g.skipTypeParameters { allowsVariance := true }
    return .mk start comments (.classExpr (← g.classTail start decorators name))

/-- A class statement from the word `class` on. -/
def classStatement (g : Grammar) (start : Place) (p : StatementPlace) : Parse Stmt := do
  expectKeyword "class"
  let name ← if p.isDefault then className? else
      let t ← token
      let text ← expectName
      if (← get).setting.await ≠ .name && text = "await" then
        note t.place "Cannot use \"await\" as an identifier here:"
      pure (some (text, t.place))
  let name ← name.mapM fun (name, place) => do
    return ({ name, place, symbol := ← declare .classDecl name place } : Declared)
  g.skipTypeParameters { allowsVariance := true }
  let c ← inScope .className fun _ => g.classTail start p.decorators name
  if (← get).inDeclare then return .mk start .typeOnly
  return .mk start (.classDecl p.isExported c)

end Distill.TypeScript.Grammar
