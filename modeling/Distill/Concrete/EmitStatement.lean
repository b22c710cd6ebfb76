import Distill.Concrete.EmitExpression

/-!
Writing statements.
-/
namespace Distill.Concrete.Emit

section

variable (emit : Tree → Emit Unit)

/-- Writes a name whose type stood at an extent, with the comments after the type. -/
def typedName (name : Tree) (type : Option Extent) : Emit Unit := do
  emit name
  type.forM fun type => if hasComments type && !name.isMade then trailingOf type.stop .before else return

def declaratorOf (t name : Tree) (type : Option Extent) (value : Option Tree) : Emit Unit := do
  typedName emit name type
  initializerOf emit t.extent ((type.map (·.stop)).getD name.stop) value

def declaratorsOf (t : Tree) (word : String) (list : Listing) (items : List Tree) : Emit Unit := do
  write word
  space
  listOf emit (.of t) list items .declarators

def variablesOf (t : Tree) (words : List Tree) (declarators : Tree) : Emit Unit := do
  modifiersOf emit (.of t) words
  emit declarators
  write ";"

/-- Writes that a parameter is stored in the field of its name. The part that names the field stands where the parameter
has its name. -/
def storeOf (t name : Tree) : Emit Unit := do
  let around := (← get).surrounding
  modify fun e => { e with surrounding := { around with stop := some t.stop } }
  let text := match name.node with
    | .name text => text
    | _ => ""
  withRemarks name.extent false false (write ("this." ++ text))
  write (" = " ++ text ++ ";")
  restore around

def blockOf (t : Tree) (isMultiLine : Bool) (list : Listing) (body : List Tree) : Emit Unit := do
  discard (tokenOf t.extent "\x7b" t.before)
  let isOpen := !isMultiLine && (← isEmptyOnLine)
  listOf emit (.of t) list body (if isOpen then .openBlock else .block)
  discard (tokenOf t.extent "\x7d" list.extent.stop !isOpen)
where
  /-- Whether a block holds nothing and stands on one line. -/
  isEmptyOnLine : Emit Bool := do
    let page ← page
    return body.isEmpty && (t.isMade || page.sameLine (page.startOf t.before) t.stop)

/-- Writes statements, each on a line of its own. -/
def seriesOf : List Tree → Emit Unit
  | [] => return
  | [t] => emit t
  | t :: rest => do
    emit t
    line
    seriesOf rest

/-- Writes a statement that is part of another one: a block on the same line, and any other on the next. -/
def embedded (t : Tree) : Emit Unit := do
  match t.node with
  | .block .. =>
    space
    emit t
  | _ =>
    line
    indented (emit t)

/-- Writes a word and an expression in parentheses, from a place on. -/
def wordAndTest (t : Tree) (word : String) (at_ : Nat) (test : Tree) : Emit Unit := do
  let next ← tokenOf t.extent word at_
  space
  discard (tokenOf t.extent "(" next)
  emit test
  discard (tokenOf t.extent ")" test.stop)

def branchOf (t test yes : Tree) (no : Option Tree) : Emit Unit := do
  wordAndTest emit t "if" t.before test
  embedded emit yes
  no.forM fun no => do
    line
    discard (tokenOf t.extent "else" yes.stop)
    match no.node with
    | .branch .. =>
      space
      emit no
    | _ => embedded emit no

def loopOnceOf (t body test : Tree) : Emit Unit := do
  discard (tokenOf t.extent "do" t.before)
  embedded emit body
  match body.node with
  | .block .. => space
  | _ => line
  wordAndTest emit t "while" body.stop test
  write ";"

def loopOf (t test body : Tree) : Emit Unit := do
  wordAndTest emit t "while" t.before test
  embedded emit body

def countOf (t : Tree) (init test post : Option Tree) (body : Tree) : Emit Unit := do
  let at_ ← tokenOf t.extent "for" t.before
  space
  let at_ ← tokenOf t.extent "(" at_
  optionally emit init
  let at_ ← tokenOf t.extent ";" ((init.map Tree.stop).getD at_)
  afterSpace emit test
  let at_ ← tokenOf t.extent ";" ((test.map Tree.stop).getD at_)
  afterSpace emit post
  discard (tokenOf t.extent ")" ((post.map Tree.stop).getD at_))
  embedded emit body

def eachOf (t : Tree) (isAwait : Option Leaf) (word : String) (init source body : Tree) : Emit Unit := do
  let at_ ← tokenOf t.extent "for" t.before
  space
  isAwait.forM fun l => do
    emit l.tree
    space
  discard (tokenOf t.extent "(" at_)
  emit init
  space
  discard (tokenOf t.extent word init.stop)
  space
  emit source
  discard (tokenOf t.extent ")" source.stop)
  embedded emit body

/-- Writes a statement with a word and maybe an expression. -/
def wordStatement (t : Tree) (word : String) (value : Option Tree) : Emit Unit := do
  discard (tokenOf t.extent word t.before)
  afterSpace emit value
  write ";"

def withScopeOf (t source body : Tree) : Emit Unit := do
  wordAndTest emit t "with" t.before source
  embedded emit body

def switchOf (t subject clauses : Tree) : Emit Unit := do
  wordAndTest emit t "switch" t.before subject
  space
  emit clauses

def clausesOf (t : Tree) (list : Listing) (items : List Tree) : Emit Unit := do
  discard (tokenOf t.extent "\x7b" t.before)
  listOf emit (.of t) list items .block
  discard (tokenOf t.extent "\x7d" list.extent.stop true)

def clauseOf (t : Tree) (test : Option Tree) (list : Listing) (body : List Tree) : Emit Unit := do
  let at_ ← match test with
    | some test => do
      discard (tokenOf t.extent "case" t.before)
      space
      emit test
      pure test.stop
    | none => tokenOf t.extent "default" t.before
  let page ← page
  let isOnLine := match body with
    | [s] => t.isMade || s.isMade || page.sameLine (page.startOf t.before) (page.startOf s.before)
    | _ => false
  if isOnLine then
    write ":"
    space
    listOf emit (.of t) list body .clauseLine
  else
    discard (tokenOf t.extent ":" at_)
    listOf emit (.of t) list body .clauseBody

def labeledOf (t label body : Tree) : Emit Unit := do
  emit label
  discard (tokenOf t.extent ":" label.stop)
  space
  emit body

def attemptOf (t body : Tree) (handler last : Option Tree) : Emit Unit := do
  discard (tokenOf t.extent "try" t.before)
  space
  emit body
  handler.forM fun handler => do
    line
    emit handler
  last.forM fun last => do
    line
    discard (tokenOf t.extent "finally" (handler.getD body).stop)
    space
    emit last

def handlerOf (t : Tree) (binding : Option Tree) (body : Tree) : Emit Unit := do
  let at_ ← tokenOf t.extent "catch" t.before
  space
  binding.forM fun binding => do
    discard (tokenOf t.extent "(" at_)
    emit binding
    discard (tokenOf t.extent ")" binding.stop)
    space
  emit body

def importingOf (t : Tree) (clause : Option Tree) (origin : Tree) (options : Option Tree) : Emit Unit := do
  discard (tokenOf t.extent "import" t.before)
  space
  clause.forM fun clause => do
    emit clause
    space
    discard (tokenOf t.extent "from" clause.stop)
    space
  emit origin
  afterSpace emit options
  write ";"

def importClauseOf (t : Tree) (name bindings : Option Tree) : Emit Unit := do
  optionally emit name
  if let (some name, some _) := (name, bindings) then
    discard (tokenOf t.extent "," name.stop)
    space
  optionally emit bindings

/-- Writes all of a module with its name. -/
def wholeOf (t name : Tree) : Emit Unit := do
  let at_ ← tokenOf t.extent "*" t.before
  space
  discard (tokenOf t.extent "as" at_)
  space
  emit name

def entriesOf (t : Tree) (list : Listing) (items : List Tree) : Emit Unit := do
  write "\x7b"
  listOf emit (.of t) list items .specifiers
  write "\x7d"

def specifierOf (t : Tree) (property : Option Tree) (name : Tree) : Emit Unit := do
  property.forM fun property => do
    emit property
    space
    discard (tokenOf t.extent "as" property.stop)
    space
  emit name

def exportingOf (t : Tree) (clause origin options : Option Tree) : Emit Unit := do
  let at_ ← tokenOf t.extent "export" t.before
  space
  let at_ ← match clause with
    | some clause => do
      emit clause
      pure clause.stop
    | none => tokenOf t.extent "*" at_
  origin.forM fun origin => do
    space
    discard (tokenOf t.extent "from" at_)
    space
    emit origin
  afterSpace emit options
  write ";"

def exportDefaultOf (t value : Tree) : Emit Unit := do
  let at_ ← tokenOf t.extent "export" t.before
  space
  discard (tokenOf t.extent "default" at_)
  space
  emit value
  write ";"

def importOptionsOf (t : Tree) (list : Listing) (items : List Tree) : Emit Unit := do
  discard (tokenOf t.extent "assert" t.before)
  space
  listOf emit (.of t) list items .importOptions

end

end Distill.Concrete.Emit
