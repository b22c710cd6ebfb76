import Distill.TypeScript.Fold
import Distill.TypeScript.Item
import Distill.TypeScript.Lookup

/-!
What resolving a name or a literal does not decide: where statements go, what a function in a block becomes, what a
constructor stores, and which parameters, objects, jumps and targets are wrong.
-/
namespace Distill.TypeScript

/-- Where a statement goes among the others. -/
inductive Placement where
  /-- To the front: a function declared in a block. -/
  | front
  | inPlace
  /-- To the end: the value of the whole module. -/
  | back
deriving DecidableEq, Repr

/-- What becomes of a statement. -/
inductive StmtUse where
  | statement
  /-- Its value is needed. -/
  | value
  /-- It is the head of a loop over a collection. -/
  | loopHead
deriving DecidableEq, Repr

/-- The surroundings of a statement that is a branch of an `if`. -/
def Surroundings.ofBranch (s : Surroundings) (stmt : Stmt) : Surroundings :=
  match stmt.node with
  | .function _ f => f.head.branch.elim s s.within
  | _ => s

/-- The equals sign before a value. -/
def Surroundings.equalsBefore (s : Surroundings) (value : Place) : Place :=
  let before := (s.text.take (s.text.length - value)).reverse
  value + (before.takeWhile (· ≠ '=')).length + 1

namespace Resolve

def placementOf (s : Surroundings) (stmt : Stmt) : Resolve Placement := do
  match stmt.node with
  | .exportWhole _ => return .back
  | .function _ f =>
    let table := (← get).table
    let isBlock := ((table.scope? s.scope).map (·.kind)).any fun kind => !kind.stopsHoisting
    return if isBlock && f.head.name.any fun n => table.kindOf n.symbol = .function then .front else .inPlace
  | _ => return .inPlace

/-- A declaration of a symbol with its value. -/
def binding (place : Place) (symbol : SymbolId) (value : Expr) : Expr :=
  .plain place (.binary "=" (.plain place (.symbol symbol)) value)

/-- Functions of a block as declarations: the symbols with their places and values, and the variables that get them. -/
structure BlockFunctions where
  functions : List (SymbolId × Expr) := []
  vars : List Expr := []

/-- Adds one function of a block. Of several with one name the last counts. -/
def addBlockFunction (s : Surroundings) (all : BlockFunctions) (stmt : Stmt) : Resolve BlockFunctions := do
  match stmt.node with
  | .function _ (.mk head params body) =>
    match head.name with
    | none => return all
    | some n =>
      let table := (← get).table
      let key := table.follow n.symbol
      let value : Expr := .plain stmt.place (.function (.mk { head with name := none } params body))
      let entry := (key, binding n.place n.symbol value)
      if all.functions.any (·.1 = key) then
        return { all with functions := all.functions.map fun f => if f.1 = key then entry else f }
      let functions := all.functions ++ [entry]
      match s.functionVars.find? fun v => table.follow v.1 = key with
      | none => return { all with functions }
      | some (_, hoisted) =>
        recordDeclared s hoisted
        recordUse s n.symbol
        let value : Expr := .plain n.place (.symbol n.symbol)
        return { functions, vars := all.vars ++ [binding n.place hoisted value] }
  | _ => return all

/-- The functions that are declared in a block as variables of it. -/
def blockFunctions (s : Surroundings) (stmts : List Stmt) : Resolve (List Stmt) := do
  if (← get).evalScopes.contains s.scope then
    modify fun r => { r with table := s.functionVars.foldl (fun table v =>
      if stmts.any fun stmt => match stmt.node with
        | .function _ f => f.head.name.any (·.symbol = v.1)
        | _ => false
      then table.modifySymbol v.2 fun symbol => { symbol with link := some v.1 } else table) r.table }
    return stmts
  let all ← stmts.foldlM (addBlockFunction s) {}
  let declaration (binder : Binder) (bindings : List Expr) : List Stmt :=
    match bindings with
    | [] => []
    | b :: _ => [.mk b.place (.declaration { binder } bindings)]
  return declaration .lexical (all.functions.map (·.2)) ++ declaration .var all.vars

/-- Statements in the order in which they go. -/
def arrange (s : Surroundings) (all : List (Placement × List Stmt)) : Resolve (List Stmt) := do
  let at_ (p : Placement) : List Stmt := (all.filter (·.1 = p)).flatMap (·.2)
  return (← blockFunctions s (at_ .front)) ++ at_ .inPlace ++ at_ .back

/-- Whether a statement means the same without a block around it. -/
def standsAlone (stmt : Stmt) : Bool :=
  match stmt.node with
  | .declaration head _ => head.binder = .var
  | .function .. | .classDecl .. | .importing _ | .exporting .. | .exportStar .. | .exportDefault .. | .exportWhole _
  | .notice _ => false
  | _ => true

/-- One statement out of what became of another. -/
def single (s : Surroundings) (stmt : Stmt) (out : List Stmt) : Resolve Stmt := do
  let s := s.ofBranch stmt
  match ← arrange s [(← placementOf s stmt, out)] with
  | [] => return .mk stmt.place .empty
  | [one] => return if standsAlone one then one else .mk stmt.place (.block s.scope [one])
  | more => return .mk stmt.place (.block s.scope more)

/-- The place of the directive that makes a body strict. -/
def strictDirective? : List Stmt → Option Place
  | [] => none
  | stmt :: rest =>
    match stmt.node with
    | .notice _ | .typeOnly => strictDirective? rest
    | .directive text =>
      if text.toList.drop 1 |>.dropLast |> decodeLiteral |> (· = "use strict".toList.map Char.toNat) then some stmt.place
      else strictDirective? rest
    | _ => none

/-- Notes what parameters cannot be. -/
def checkParameters (s : Surroundings) (isUnique : Bool) (params : List Expr) (body : List Stmt) : Resolve Unit := do
  let isSimple := params.all fun e => e.node matches .name _
  let directive := strictDirective? body
  if let some at_ := directive then
    if !isSimple then
      note at_ "Cannot use a \"use strict\" directive in a function with a non-simple parameter list"
  if isUnique || directive.isSome || !isSimple || (← isStrict s) then
    let rec repeated (seen : List String) : List (String × Place) → Resolve Unit
      | [] => return
      | (name, place) :: rest => do
        if seen.contains name then
          note place (Text.quoted name ++ " cannot be bound multiple times in the same parameter list")
        repeated (name :: seen) rest
    repeated [] (boundInItems params)

/-- Whether a member is a plain entry for the prototype. -/
def isPrototype : Member → Bool
  | .mk _ _ _ (.entry key _) =>
    match key.node with
    | .name text => text = "__proto__"
    | .string text => text.toList.drop 1 |>.dropLast |> decodeLiteral |> (· = "__proto__".toList.map Char.toNat)
    | _ => false
  | _ => false

def memberPlace : Member → Place
  | .mk place _ _ _ => place

/-- Notes what an object or a pattern for one cannot hold. -/
def checkObject (use : Use) (layout : Layout) (members : List Member) : Resolve Unit := do
  if use.isTarget then layout.commaAfterRest.forM (note · "Unexpected \",\" after rest pattern")
  else ((members.filter isPrototype).drop 1).forM fun m =>
    note (memberPlace m) "Cannot specify the \"__proto__\" property more than once per object"

/-- Notes the last escape in octal digits of a template. -/
def checkTemplateParts (parts : List (Place × String)) : Resolve Unit := do
  let isOctal (part : Place × String) : Bool :=
    let content := part.2.toList.drop 1
    (octalEscape? (content.length + 1) 1 content).isSome
  if let some (place, text) := (parts.filter isOctal).getLast? then checkTemplate place text

/-- The texts of the substitutions of a template. -/
def spanTexts (spans : List Expr) : List (Place × String) :=
  spans.filterMap fun e => match e.node with
    | .span _ text => some (e.place, text)
    | _ => none

/-- Where the first call of the base stands in a sequence: what comes before it, the call, and what comes after. -/
def splitAtSuper (base : SymbolId) : Expr → Option (Option Expr × Expr × Option Expr)
  | .mk place comments node =>
    match node with
    | .call callee isOptional layout args =>
      match callee.node with
      | .symbol id =>
        if id ≠ base then none
        else
          let call := Node.call (callee.replace (.word "super")) isOptional layout args
          some (none, .mk place comments call, none)
      | _ => none
    | .binary "," left right =>
      let joined (a b : Option Expr) : Option Expr := match a, b with
        | some a, some b => some (.plain a.place (.binary "," a b))
        | a, b => a <|> b
      match splitAtSuper base left with
      | some (before, call, after) => some (before, call, joined after (some right))
      | none => (splitAtSuper base right).map fun (before, call, after) => (joined (some left) before, call, after)
    | _ => none

/-- A statement whose expression calls the base, split there: what comes before, the call, and what is left. -/
def splitStatement (base : SymbolId) (stmt : Stmt) : Option (Option Expr × Expr × Option Stmt) :=
  let splitAt (e : Expr) (rest : Expr → StmtNode) : Option (Option Expr × Expr × Option Stmt) :=
    (splitAtSuper base e).map fun (before, call, after) =>
      (before, call, after.map fun e => .mk e.place (rest e))
  let needsRest (split : Option (Option Expr × Expr × Option Stmt)) : Option (Option Expr × Expr × Option Stmt) :=
    split.filter fun (_, _, after) => after.isSome
  match stmt.node with
  | .expression e => splitAt e .expression
  | .giveBack (some e) => needsRest (splitAt e fun e => .giveBack (some e))
  | .throw e => needsRest (splitAt e .throw)
  | .branch test yes no => needsRest (splitAt test fun test => .branch test yes no)
  | .switch scope subject clauses => needsRest (splitAt subject fun e => .switch scope e clauses)
  | .count scope (some (.mk at_ (.expression e))) test post body =>
    (splitAtSuper base e).map fun (before, call, after) =>
      let init := after.map fun e => .mk at_ (.expression e)
      (before, call, some (.mk stmt.place (.count scope init test post body)))
  | _ => none

/-- The statements with others right after the first call of the base that is not nested; nothing if there is none. -/
def insertAfterSuper (base : SymbolId) (new : List Stmt) : List Stmt → Option (List Stmt)
  | [] => none
  | stmt :: rest =>
    let made (e : Expr) : Stmt := .mk e.place (.expression e)
    match splitStatement base stmt with
    | some (before, call, after) => some ((before.map made).toList ++ [made call] ++ new ++ after.toList ++ rest)
    | none => (insertAfterSuper base new rest).map (stmt :: ·)

/-- The declaration of a function that calls the base and goes on with some statements. -/
def superFunction (place : Place) (base args : SymbolId) (new : List Stmt) : Stmt :=
  let plain (node : Node) : Expr := .plain place node
  let rest := plain (.spread (plain (.symbol args)))
  let call := plain (.call (plain (.word "super")) false {} [rest])
  let body : List Stmt :=
    .mk place (.expression call) :: new ++ [.mk place (.giveBack (some (plain (.word "this"))))]
  let f : Function := .mk { place, outer := 0, inner := 0 } [rest] body
  .mk place (.declaration { binder := .var } [plain (.binary "=" (plain (.symbol base)) (plain (.arrow false f)))])

/-- The constructor with its parameters stored in the fields that they are: after the call of the base, or at the
beginning if there is none. If the base is called more than once or inside of other expressions, the calls go to a
function that stores them. -/
def withFields (s : Surroundings) (base : SymbolId) (f : Function) : Resolve Function := do
  let .mk head params body := f
  let r ← get
  let stored := head.fields.map fun name =>
    let symbol := (((r.table.scope? head.outer).bind (·.find? name)).map (·.symbol)).getD 0
    let target : Expr := .plain head.place (.dot (.plain head.place (.word "this")) false name)
    let e : Expr := .plain head.place (.binary "=" target (.plain head.place (.symbol symbol)))
    (.mk head.place (.expression e) : Stmt)
  if r.superCalls = 0 then return .mk head params (stored ++ body)
  else
    match if r.superCalls = 1 then insertAfterSuper base stored body else none with
    | some body => return .mk head params body
    | none =>
      -- The class stands in the scope around the one of its name.
      let around := (((r.table.enclosing s.scope)[2]?).map (·.1)).getD 0
      let args ← generate around "args"
      return .mk head params (superFunction head.place base args stored :: body)

/-- A call of `import`. With a choice between sources it becomes a choice between calls. -/
def importCall (s : Surroundings) (place : Place) (comments : List String) (options : Option Expr) : Expr → Expr
  | .mk at_ c node =>
    match node with
    | .conditional test yes no =>
      .mk at_ c (.conditional test (importCall s place comments options yes) (importCall s place comments options no))
    | .value (.text codePoints _) =>
      if s.isDead then .mk place comments (.value .null)
      else .mk place comments (.importing (.mk at_ c (.value (.text codePoints false))) options)
    | _ => .mk place comments (.importing (.mk at_ c node) options)

/-- Declares the name of a class inside of it. -/
def shadowName (s : Surroundings) (n : Declared) : Resolve SymbolId := do
  let (table, inner) := (← get).table.addSymbol { name := "_" ++ n.name, kind := .constant }
  modify fun r => { r with table := table.modifyScope s.scope fun scope => scope.put n.name ⟨inner, some n.place⟩ }
  checkDeclared s n.place n.name
  return inner

/-- Lets the name of a class stand for the same inside and outside, if it is used inside. -/
def mergeShadow (inner outer : SymbolId) : Resolve Unit :=
  modify fun r => if r.uses.contains inner then { r with table := r.table.merge inner outer } else r

/-- A loop over keys whose variable has a value first gets it. -/
def keyLoop (s : Surroundings) (place : Place) (scope : ScopeId) (head : Stmt) (object : Expr) (body : Stmt) :
    Resolve (List Stmt) := do
  let loop (head : Stmt) : Stmt := .mk place (.eachKey scope head object body)
  match head.node with
  | .declaration d [.mk at_ c (.binary op target value)] =>
    if d.binder = .var && target.node matches .symbol _ then
      noteStrict s (s.equalsBefore value.place) "Variable initializers inside for-in loops"
      let first : Stmt := .mk place (.expression (.mk at_ c (.binary op target value)))
      return [first, loop (.mk head.place (.declaration d [target]))]
    return [loop head]
  | _ => return [loop head]

/-- Checks a jump against the loops and labels around it. -/
def checkJump (s : Surroundings) (place : Place) (word : String) : Option (String × Place) → Resolve Unit
  | none => do
    if !(s.inLoop || word = "break" && s.inSwitch) then note place ("Cannot use " ++ Text.quoted word ++ " here:")
  | some (label, at_) => do
    match s.labels.find? (·.1 = label) with
    | none => note at_ ("There is no containing label named " ++ Text.quoted label)
    | some (_, isLoop) =>
      if word = "continue" && !isLoop then note at_ ("Cannot continue to label " ++ Text.quoted label)

/-- Records the symbols of an import. -/
def recordImport (s : Surroundings) (i : Import) : Resolve Unit := do
  recordDeclared s i.space
  i.default.forM fun d => recordDeclared s d.symbol
  i.entries.forM fun entries => entries.forM fun e => e.symbol.forM (recordDeclared s)

/-- The entries of an export list whose names are declared. -/
def exportedEntries (s : Surroundings) (entries : List Entry) : Resolve (List Entry) := do
  let found ← entries.mapM fun e => do
    let (symbol, _) ← lookUp s e.place e.name
    return { e with symbol := some symbol }
  let table := (← get).table
  return found.filter fun e => e.symbol.any fun id => table.kindOf id ≠ .unbound

/-- A name for a module that is made of its path. -/
def stemOf (o : Origin) : String :=
  nameOutOf (fileStem ((decodeLiteral ((o.text.toList.drop 1).dropLast)).map Char.ofNat))

/-- The name inside its file of a default export that has none. -/
def defaultName (file : String) : String :=
  nameOutOf (fileStem (if file.isEmpty then "stdin" else file).toList) ++ "_default"

end Resolve

end Distill.TypeScript
