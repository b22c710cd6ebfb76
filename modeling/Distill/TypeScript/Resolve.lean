import Distill.TypeScript.Arrange

/-!
Resolving a syntax tree: every name becomes the symbol it stands for, literals become values, and parentheses and what
is said about types are gone. Operators on values are worked out. Errors that depend on the meaning of names are noted.
-/
namespace Distill.TypeScript

open Resolve

/-- A chain of members and calls at its end, which gives `undefined` if the chain stops at its start. -/
def chainEnd (use : Use) (e : Expr) : Expr :=
  if !use.goesOn && !use.isDeleted && nothingToGoOn e then e.inPlaceOf (.value .undefined) else e

mutual

/-- An expression with its names looked up. -/
def Expr.resolve (s : Surroundings) (use : Use) : Expr → Resolve Expr
  | .mk place comments node => do
    if use.isTarget then checkTarget s use place node
    node.resolve s use place comments

def Node.resolve (s : Surroundings) (use : Use) (place : Place) (comments : List String) : Node → Resolve Expr
  | .name text => do return .mk place comments (← Resolve.name s use place text)
  | .symbol id => return .mk place comments (.symbol id)
  | .word text => do
    match text with
    | "null" => return .mk place comments (.value .null)
    | "true" => return .mk place comments (.value (.truth true))
    | "false" => return .mk place comments (.value (.truth false))
    | _ =>
      if text = "new.target" && !s.allowsNewTarget then note place "Cannot use \"new.target\" here:"
      return .mk place comments (.word text)
  | .privateName text => do
    checkPrivate s place text
    return .mk place comments (.privateName text)
  | .number text => do
    checkNumber s place text
    return .mk place comments (.value (.number false (normalNumber text)))
  | .bigInteger text =>
    return .mk place comments (.value (.integer (String.ofList (text.toList.filter fun c => c ≠ '_' && c ≠ 'n'))))
  | .string text => do
    checkString s place text
    return .mk place comments (.value (.text (decodeLiteral ((text.toList.drop 1).dropLast)) false))
  | .regex text => return .mk place comments (.regex text)
  | .value c => return .mk place comments (.value c)
  | .template tag head spans => do
    if tag.isNone then checkTemplateParts ((place, head) :: spanTexts spans)
    let wasMember := tag.any fun e => hasReceiver e.core
    let tag ← resolveOption s { goesOn := true } tag
    let tag := tag.map fun e => if hasReceiver e && !wasMember then valueOnly e else e
    let spans ← resolveItems s {} spans
    if tag.isNone && spans.isEmpty then return .mk place comments (.value (.text (templateContent head) true))
    return .mk place comments (.template tag head spans)
  | .span value text => do return .mk place comments (.span (← value.resolve s {}) text)
  | .array layout items => do
    if use.isTarget then layout.commaAfterRest.forM (note · "Unexpected \",\" after rest pattern")
    let items ← resolveItems s { isTarget := use.isTarget, mayHaveDefault := use.isTarget } items
    return .mk place comments (.array layout items)
  | .hole => return .mk place comments .hole
  | .spread value => do return .mk place comments (.spread (← value.resolve s { isTarget := use.isTarget }))
  | .object layout members => do
    checkObject use layout members
    let members ← resolveMembers s { isTarget := use.isTarget, mayHaveDefault := use.isTarget } members
    return .mk place comments (.object layout members)
  | .computed value => do return .mk place comments (.computed (← value.resolve s {}))
  | .function f => do return .mk place comments (.function (← f.resolve s false false))
  | .arrow isConcise f => do return .mk place comments (.arrow isConcise (← f.resolve s true true))
  | .classExpr c => do return .mk place comments (.classExpr (← c.resolve s))
  | .unary op operand => do
    let target := operand.core
    if op = "delete" && target.node matches .name _ then
      noteStrict s target.place "Delete of a bare identifier"
    let e ← operand.resolve s { isTarget := op = "++" || op = "--", isDeleted := op = "delete" }
    if op = "delete" && nothingToGoOn e then return .mk place comments (.value (.truth true))
    let u ← undeclared
    let e := if changesMeaning u op target.node e.node then valueOnly e else e
    match unaryValue? u op e with
    | some c => return .mk place comments (.value c)
    | none => return .mk place comments (.unary op e)
  | .suffix op operand => do return .mk place comments (.suffix op (← operand.resolve s { isTarget := true }))
  | .binary op left right => do
    let l ← left.resolve s { isTarget := assignments.contains op }
    let isDead := match op with
      | "&&" => l.truth?.any fun t => !t.value
      | "||" => l.truth?.any (·.value)
      | "??" => l.nullish?.any fun n => !n.value
      | _ => false
    let r ← right.resolve (s.deadIf isDead) {}
    return (binaryValue? use.isCalled op l r).getD (.mk place comments (.binary op l r))
  | .conditional test yes no => do
    let test ← test.resolve s {}
    let truth := test.truth?.map (·.value)
    let yes ← yes.resolve (s.deadIf (truth = some false)) {}
    let no ← no.resolve (s.deadIf (truth = some true)) {}
    return .mk place comments (.conditional test yes no)
  | .call callee isOptional layout args => do
    let target := callee.core
    let e ← callee.resolve s { goesOn := true, isCalled := true }
    let args ← resolveItems s {} args
    if !isOptional && target.node matches .name "eval" then markEval s
    let isSuper := target.node matches .word "super"
    if isSuper && !s.isDead then modify fun r => { r with superCalls := r.superCalls + 1 }
    let base := (← get).superSymbol.filter fun _ => isSuper
    let e := base.elim e fun id => e.replace (.symbol id)
    let u ← undeclared
    let isEval := !isOptional && pathOf? u e = some ["eval"]
    let e := if isEval && !(target.node matches .name _) then valueOnly e else e
    let isPure := layout.isPure || isPureCall u (← get).table e isOptional args
    return chainEnd use (.mk place comments (.call e isOptional { layout with isPure } args))
  | .construct callee layout args => do
    let e ← callee.resolve s {}
    let args ← resolveItems s {} args
    let isPure := layout.isPure || isPureConstruct (← undeclared) e args
    return .mk place comments (.construct e { layout with isPure } args)
  | .dot object isOptional member => do
    return chainEnd use (.mk place comments (.dot (← object.resolve s { goesOn := true }) isOptional member))
  | .index object isOptional key => do
    let e ← object.resolve s { goesOn := true }
    return chainEnd use (.mk place comments (.index e isOptional (← key.resolve s {})))
  | .yielding delegates operand => do
    return .mk place comments (.yielding delegates (← resolveOption s {} operand))
  | .importing source options => do
    let source ← source.resolve s {}
    return importCall s place comments (← resolveOption s {} options) source
  | .group inner => do
    let e ← inner.resolve s { use with isParenthesised := true, goesOn := false }
    let e := if comments.isEmpty then e else e.remarked comments
    return if use.goesOn && e.isChain then .plain e.place (.group e) else e
  | .assertion _ inner => inner.resolve s use

def resolveOption (s : Surroundings) (use : Use) : Option Expr → Resolve (Option Expr)
  | none => return none
  | some e => do return some (← e.resolve s use)

def resolveItems (s : Surroundings) (use : Use) : List Expr → Resolve (List Expr)
  | [] => return []
  | e :: rest => do
    let e ← e.resolve s use
    return e :: (← resolveItems s use rest)

/-- The key of a member; only a computed one is looked up. -/
def Expr.resolveKey (s : Surroundings) : Expr → Resolve Expr
  | .mk place comments node => node.resolveKey s place comments

def Node.resolveKey (s : Surroundings) (place : Place) (comments : List String) : Node → Resolve Expr
  | .computed value => do return .mk place comments (.computed (← value.resolve s {}))
  | .string text => do
    checkString s place text
    return .mk place comments (.string text)
  | .number text => do
    checkNumber s place text
    return .mk place comments (.number text)
  | node => return .mk place comments node

/-- A pattern that declares its names. -/
def Expr.bind (s : Surroundings) : Expr → Resolve Expr
  | .mk place comments node => node.bind s place comments

def Node.bind (s : Surroundings) (place : Place) (comments : List String) : Node → Resolve Expr
  | .name text => do
    let id ← declaredSymbol s text
    recordDeclared s id
    checkDeclared s place text
    return .mk place comments (.symbol id)
  | .array layout items => do return .mk place comments (.array layout (← bindItems s items))
  | .object layout members => do return .mk place comments (.object layout (← bindMembers s members))
  | .spread value => do return .mk place comments (.spread (← value.bind s))
  | .binary op target value => do
    let target ← target.bind s
    return .mk place comments (.binary op target (← value.resolve s {}))
  | .group inner => inner.bind s
  | .assertion _ inner => inner.bind s
  | node => return .mk place comments node

def bindItems (s : Surroundings) : List Expr → Resolve (List Expr)
  | [] => return []
  | e :: rest => do
    let e ← e.bind s
    return e :: (← bindItems s rest)

def Member.bind (s : Surroundings) : Member → Resolve Member
  | .mk place comments decorators node => do return .mk place comments decorators (← node.bind s place)

def MemberNode.bind (s : Surroundings) (place : Place) : MemberNode → Resolve MemberNode
  | .entry key value => do
    let key ← key.resolveKey s
    return .entry key (← value.bind s)
  | .shorthand name init => do
    let id ← declaredSymbol s name
    recordDeclared s id
    checkDeclared s place name
    let target : Expr := .plain place (.symbol id)
    let init ← resolveOption s {} init
    return .entry (.plain place (.name name)) (init.elim target fun e => .plain place (.binary "=" target e))
  | .spread value => do return .spread (← value.bind s)
  | node => return node

def bindMembers (s : Surroundings) : List Member → Resolve (List Member)
  | [] => return []
  | m :: rest => do
    let m ← m.bind s
    return m :: (← bindMembers s rest)

/-- A member of an object or a class. -/
def Member.resolve (s : Surroundings) (use : Use) : Member → Resolve Member
  | .mk place comments decorators node => do
    let decorators ← resolveItems s {} decorators
    return .mk place comments decorators (← node.resolve s use place)

def MemberNode.resolve (s : Surroundings) (use : Use) (place : Place) : MemberNode → Resolve MemberNode
  | .entry key value => do
    let key ← key.resolveKey s
    return .entry key (← value.resolve s use)
  | .shorthand name init => do
    if use.isTarget then checkTarget s use place (.name name)
    let value : Expr := .plain place (← Resolve.name s use place name)
    let init ← resolveOption s {} init
    return .entry (.plain place (.name name)) (init.elim value fun e => .plain place (.binary "=" value e))
  | .spread value => do return .spread (← value.resolve s { isTarget := use.isTarget })
  | .method head key f => do
    let key ← key.resolveKey s
    if use.isTarget then note f.head.place "Invalid assignment target"
    let before ← get
    let base ← if f.head.fields.isEmpty then pure none else some <$> generate s.scope "__super"
    modify fun r => { r with superCalls := 0, superSymbol := base }
    let f ← f.resolve s false true
    let f ← base.elim (pure f) fun base => withFields s base f
    modify fun r => { r with superCalls := before.superCalls, superSymbol := before.superSymbol }
    return .method head key f
  | .field isStatic isAccessor key init => do
    let key ← key.resolveKey s
    return .field isStatic isAccessor key (← resolveOption s.memberValue {} init)
  | .staticBlock scope body => do
    let inner := (s.body scope).memberValue
    return .staticBlock scope (← arrange inner (← resolveAll inner body))

def resolveMembers (s : Surroundings) (use : Use) : List Member → Resolve (List Member)
  | [] => return []
  | m :: rest => do
    let m ← m.resolve s use
    return m :: (← resolveMembers s use rest)

def Function.resolve (s : Surroundings) (isArrow isUnique : Bool) : Function → Resolve Function
  | .mk head params body => do
    head.name.forM fun n => recordDeclared s n.symbol
    let outer := { s.body head.outer with allowsNewTarget := !isArrow || s.allowsNewTarget }
    checkParameters outer isUnique params body
    let params ← bindItems outer params
    let inner := outer.within head.inner
    head.name.forM fun n => checkDeclared inner n.place n.name
    return .mk head params (← arrange inner (← resolveAll inner body))

def Class.resolve (s : Surroundings) : Class → Resolve Class
  | .mk head decorators base members => do
    let decorators ← resolveItems s {} decorators
    head.name.forM fun n => recordDeclared s n.symbol
    let outer := s.within head.outer
    let shadow ← head.name.mapM fun n => do return (← shadowName outer n, n.symbol)
    let base ← resolveOption outer {} base
    let members ← resolveMembers (outer.within head.inner) {} members
    shadow.forM fun (inner, name) => mergeShadow inner name
    return .mk head decorators base members

/-- What becomes of a statement. -/
def Stmt.resolve (s : Surroundings) (use : StmtUse) : Stmt → Resolve (List Stmt)
  | .mk place node => node.resolve s use place

def StmtNode.resolve (s : Surroundings) (use : StmtUse) (place : Place) : StmtNode → Resolve (List Stmt)
  | .empty => return [.mk place .empty]
  | .debugger => return [.mk place .debugger]
  | .directive text => do
    checkString s place text
    return [.mk place (.directive text)]
  | .block scope body => do
    let inner := s.within scope
    return [.mk place (.block scope (← arrange inner (← resolveAll inner body)))]
  | .expression value => do
    let e ← value.resolve s { isTarget := use = .loopHead }
    let wasLiteral := value.core.node matches
      .word "null" | .word "true" | .word "false" | .number _ | .bigInteger _ | .string _ | .template none _ []
    if use = .statement && !wasLiteral && e.constant?.isSome then return []
    return [.mk place (.expression e)]
  | .declaration head bindings => do return [.mk place (.declaration head (← bindItems s bindings))]
  | .function isExported f => do
    let inner := f.head.branch.elim s s.within
    if f.head.branch.isSome then noteStrict inner place "Function declarations inside if statements"
    return [.mk place (.function isExported (← f.resolve inner false false))]
  | .classDecl isExported c => do return [.mk place (.classDecl isExported (← c.resolve s))]
  | .branch test yes no => do
    let test ← test.resolve s {}
    let truth := test.truth?.map (·.value)
    let inYes := s.deadIf (truth = some false)
    let inNo := s.deadIf (truth = some true)
    let y ← single inYes yes (← yes.resolve inYes .statement)
    return [.mk place (.branch test y (← resolveBody inNo no))]
  | .loop test body => do
    let test ← test.resolve s {}
    let inner := { s with inLoop := true }
    return [.mk place (.loop test (← single inner body (← body.resolve inner .statement)))]
  | .loopOnce body test => do
    let inner := { s with inLoop := true }
    let b ← single inner body (← body.resolve inner .statement)
    return [.mk place (.loopOnce b (← test.resolve s {}))]
  | .count scope init test post body => do
    let inner := s.within scope
    let init ← resolveHead inner .value init
    let test ← resolveOption inner {} test
    let post ← resolveOption inner {} post
    let inner := { inner with inLoop := true }
    return [.mk place (.count scope init test post (← single inner body (← body.resolve inner .statement)))]
  | .eachKey scope head object body => do
    let inner := s.within scope
    let h ← head.resolve inner .loopHead
    let object ← object.resolve inner {}
    let inBody := { inner with inLoop := true }
    let b ← single inBody body (← body.resolve inBody .statement)
    keyLoop inner place scope (h.headD head) object b
  | .eachItem scope isAwait head object body => do
    let inner := s.within scope
    let h ← head.resolve inner .loopHead
    let object ← object.resolve inner {}
    let inBody := { inner with inLoop := true }
    let b ← single inBody body (← body.resolve inBody .statement)
    return [.mk place (.eachItem scope isAwait (h.headD head) object b)]
  | .switch scope subject clauses => do
    let subject ← subject.resolve s {}
    let inner := { s.within scope with inSwitch := true }
    return [.mk place (.switch scope subject ((← resolveAll inner clauses).flatMap (·.2)))]
  | .clause test body => do
    let test ← resolveOption s {} test
    return [.mk place (.clause test (← arrange s (← resolveAll s body)))]
  | .jump word label => do
    checkJump s place word label
    return [.mk place (.jump word label)]
  | .giveBack value => do
    if s.isOutsideFunction && s.isModule then
      note place "Top-level return cannot be used inside an ECMAScript module"
    return [.mk place (.giveBack (← resolveOption s {} value))]
  | .throw value => do return [.mk place (.throw (← value.resolve s {}))]
  | .attempt scope body handler last => do
    let inner := s.within scope
    let body ← arrange inner (← resolveAll inner body)
    let handler ← resolveHead s .statement handler
    return [.mk place (.attempt scope body handler (← resolveHead s .statement last))]
  | .handler outer inner binding body => do
    let around := s.within outer
    let binding ← bindOption around binding
    let s := s.within inner
    return [.mk place (.handler outer inner binding (← arrange s (← resolveAll s body)))]
  | .labeled scope label body => do
    let inner := s.within scope
    noteReserved inner place label
    if inner.labels.any (·.1 = label) then note place ("Duplicate label " ++ Text.quoted label)
    let target := body
    let isLoop := target.node matches .loop .. | .loopOnce .. | .count .. | .eachKey .. | .eachItem ..
    if target.node matches .function .. then noteStrict inner target.place "Function declarations inside labels"
    let inner := { inner with labels := (label, isLoop) :: inner.labels }
    return [.mk place (.labeled scope label (← single inner body (← body.resolve inner .statement)))]
  | .withScope scope object body => do
    noteStrict s place "With statements"
    let object ← object.resolve s {}
    let inner := s.within scope
    return [.mk place (.withScope scope object (← single inner body (← body.resolve inner .statement)))]
  | .notice text => return [.mk place (.notice text)]
  | .typeOnly => return []
  | .importing i => do
    recordImport s i
    return [.mk place (.importing i)]
  | .exporting entries origin => do
    match origin with
    | none => return [.mk place (.exporting (← exportedEntries s entries) none)]
    | some o =>
      reserve .lexical ("import_" ++ stemOf o)
      entries.forM fun e => reserve .lexical e.name
      return [.mk place (.exporting entries (some o))]
  | .exportStar name origin => do
    reserve .lexical ((name.map (·.name)).getD (stemOf origin ++ "_star"))
    return [.mk place (.exportStar name origin)]
  | .exportDefault keyword value => do
    if !value.hasOwnName then reserve .lexical s.defaultName
    let out ← value.resolve s .value
    let table := (← get).table
    let isType := out.any fun stmt => match stmt.node with
      | .expression (.mk _ _ (.symbol id)) => table.kindOf id = .unbound && s.types.contains (table.nameOf id)
      | _ => false
    return if isType then [] else out.map fun v => .mk place (.exportDefault keyword v)
  | .exportWhole value => do return [.mk place (.exportWhole (← value.resolve s {}))]

/-- A body that may be missing. -/
def resolveBody (s : Surroundings) : Option Stmt → Resolve (Option Stmt)
  | none => return none
  | some stmt => do return some (← single s stmt (← stmt.resolve s .statement))

/-- The head of a loop or a part of a `try`, which may be missing. -/
def resolveHead (s : Surroundings) (use : StmtUse) : Option Stmt → Resolve (Option Stmt)
  | none => return none
  | some stmt => do return (← stmt.resolve s use).head?

def bindOption (s : Surroundings) : Option Expr → Resolve (Option Expr)
  | none => return none
  | some e => do return some (← e.bind s)

/-- What becomes of statements, and where it goes. -/
def resolveAll (s : Surroundings) : List Stmt → Resolve (List (Placement × List Stmt))
  | [] => return []
  | stmt :: rest => do
    let out ← stmt.resolve s .statement
    let placement ← placementOf s stmt
    return (placement, out) :: (← resolveAll s rest)

end

end Distill.TypeScript
