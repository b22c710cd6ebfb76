import Distill.Concrete.Layout
import Distill.TypeScript.Literal

/-!
Writing expressions, functions and classes.
-/
namespace Distill.Concrete.Emit

/-- An integer of any size in decimal or hexadecimal digits. -/
def plainBigInteger (raw : String) : String :=
  match raw.toList.filter (· ≠ '_') with
  | '0' :: 'x' :: rest | '0' :: 'X' :: rest => "0x" ++ String.ofList (rest.map Char.toLower)
  | '0' :: 'b' :: rest | '0' :: 'B' :: rest => toString (TypeScript.digitsValue 2 rest.dropLast) ++ "n"
  | '0' :: 'o' :: rest | '0' :: 'O' :: rest => toString (TypeScript.digitsValue 8 rest.dropLast) ++ "n"
  | cs => String.ofList cs

def literalText : LiteralKind → String → String
  | .bigInteger, text => plainBigInteger text
  | _, text => text

/-- The part without the parentheses around it that stand nowhere. -/
def inside : Tree → Tree
  | .mk extent isChanged node =>
    match node with
    | .wrapped inner => if extent.isMade then inside inner else .mk extent isChanged node
    | node => .mk extent isChanged node

/-- Whether a new line comes between two parts of a part. -/
def breaksBetween (parent : Extent) (a b : Extent) : Emit Bool := do
  if parent.isMade || a.isMade || b.isMade then return false
  let page ← page
  return !page.sameLine a.stop (page.startOf b.before)

/-- Goes to a new line with more indentation, or writes a blank instead. -/
def lineOrSpace (breaks hasSpace : Bool) : Emit Unit := do
  if breaks then
    indent
    line
  else if hasSpace then space

/-- Goes back to the depth of nesting before some new lines. -/
def outdentIf (breaks : List Bool) : Emit Unit := breaks.forM fun b => if b then outdent else return

/-- Whether a number needs a point of its own before the one of a member. -/
def needsPoint : Tree → Bool
  | .mk _ _ node =>
    match node with
    | .asserted _ inner => needsPoint inner
    | .literal .number text =>
      let cs := text.toList
      let isZero := match cs with
        | '0' :: _ :: _ => true
        | _ => false
      !isZero && !cs.any fun c => c = '.' || c = 'e' || c = 'E' || c = '_'
    | _ => false

section

variable (emit : Tree → Emit Unit)

def optionally (t : Option Tree) : Emit Unit := t.forM emit

/-- Writes a part after a blank, if it is there. -/
def afterSpace (t : Option Tree) : Emit Unit := t.forM fun t => do
  space
  emit t

/-- Writes a mark that is a part of its own, if it is there. -/
def markOf (l : Option Leaf) : Emit Unit := l.forM fun l => emit l.tree

def modifiersOf (owner : Owner) (words : List Tree) : Emit Unit := listOf emit owner ⟨.made, false⟩ words .modifiers

/-- Writes the value of a variable or parameter, with the mark of equality at a place. -/
def initializerOf (owner : Extent) (at_ : Nat) (value : Option Tree) : Emit Unit := value.forM fun value => do
  space
  discard (tokenOf owner "=" at_)
  space
  emit value

/-- Writes a member by its name. -/
def accessOf (t owner : Tree) (mark : Option Leaf) (name : Tree) : Emit Unit := do
  emit owner
  let parent := (inside t).extent
  let object := (inside owner).extent
  let token : Extent := match mark with
    | some l => l.extent
    | none => { before := owner.stop, stop := name.before, isMade := owner.isMade || name.isMade }
  let breaksBefore ← breaksBetween parent object token
  let breaksAfter ← breaksBetween parent token name.extent
  lineOrSpace breaksBefore false
  let e ← get
  if mark.isNone && needsPoint owner && !e.afterComment &&
    !(e.last.any fun c => Text.isSpace c || Text.isLineEnd c) then write "."
  match mark with
  | some l => emit l.tree
  | none => discard (tokenOf (if owner.isMade then .made else t.extent) "." owner.stop)
  lineOrSpace breaksAfter false
  emit name
  outdentIf [breaksBefore, breaksAfter]

def indexOf (t owner : Tree) (mark : Option Leaf) (key : Tree) : Emit Unit := do
  emit owner
  markOf emit mark
  discard (tokenOf t.extent "[" owner.stop)
  emit key
  discard (tokenOf t.extent "]" key.stop)

def constructOf (t callee : Tree) (list : Option Listing) (args : List Tree) : Emit Unit := do
  discard (tokenOf t.extent "new" t.before)
  space
  emit callee
  list.forM fun list => listOf emit (.of t) list args .arguments

/-- Writes an expression in parentheses. -/
def groupOf (t inner : Tree) : Emit Unit := do
  discard (tokenOf t.extent "(" t.before)
  emit inner
  discard (tokenOf t.extent ")" inner.stop)

/-- Writes an expression that lost its type, with the comments that stood around the type. -/
def assertedOf (t inner : Tree) : Emit Unit := do
  if !inner.isMade && (t.isMade || t.before ≠ inner.before) then trailingOf inner.before .after
  emit inner
  if !inner.isMade && (t.isMade || t.stop ≠ inner.stop) then leadingOf inner.stop

/-- Whether a blank has to stand between an operator and its operand, so that they do not make another operator. -/
def needsSpace (operator : String) (operand : Tree) : Bool :=
  match operand.node with
  | .unary inner _ => operator = "+" && (inner = "+" || inner = "++") || operator = "-" && (inner = "-" || inner = "--")
  | _ => false

def unaryOf (operator : String) (operand : Tree) : Emit Unit := do
  write operator
  if needsSpace operator operand then space
  emit operand

def wordUnaryOf (t : Tree) (operator : String) (operand : Tree) : Emit Unit := do
  discard (tokenOf t.extent operator t.before)
  space
  emit operand

def binaryOf (t left : Tree) (operator : Leaf) (right : Tree) : Emit Unit := do
  emit left
  let parent := (inside t).extent
  let breaksBefore ← breaksBetween parent (inside left).extent operator.extent
  let breaksAfter ← breaksBetween parent operator.extent (inside right).extent
  lineOrSpace breaksBefore (operator.text ≠ ",")
  leadingOf operator.extent.before
  write operator.text
  trailingOf operator.extent.stop .before
  lineOrSpace breaksAfter true
  emit right
  outdentIf [breaksBefore, breaksAfter]

def conditionalOf (t test : Tree) (question : Leaf) (yes : Tree) (colon : Leaf) (no : Tree) : Emit Unit := do
  let parent := (inside t).extent
  let breaks1 ← breaksBetween parent (inside test).extent question.extent
  let breaks2 ← breaksBetween parent question.extent (inside yes).extent
  let breaks3 ← breaksBetween parent (inside yes).extent colon.extent
  let breaks4 ← breaksBetween parent colon.extent (inside no).extent
  emit test
  lineOrSpace breaks1 true
  emit question.tree
  lineOrSpace breaks2 true
  emit yes
  outdentIf [breaks1, breaks2]
  lineOrSpace breaks3 true
  emit colon.tree
  lineOrSpace breaks4 true
  emit no
  outdentIf [breaks3, breaks4]

def spreadOf (t value : Tree) : Emit Unit := do
  discard (tokenOf t.extent "..." t.before)
  emit value

def yieldingOf (t : Tree) (star : Option Leaf) (value : Option Tree) : Emit Unit := do
  discard (tokenOf t.extent "yield" t.before)
  markOf emit star
  afterSpace emit value

/-- Whether a statement is a directive. -/
def isDirective (t : Tree) : Bool :=
  match t.node with
  | .expression value =>
    match value.node with
    | .literal .string _ => true
    | _ => false
  | _ => false

/-- Whether no new line stands between some statements of the text. -/
def standOnLine : List Tree → Emit Bool
  | a :: b :: rest => do
    if ← dividesLine a b { lines := .kept } then return false
    standOnLine (b :: rest)
  | _ => return true

/-- Whether the body of a function stands on one line. -/
def isOnLine (owner : Owner) (isMultiLine : Bool) (body : List Tree) : Emit Bool := do
  if isMultiLine then return false
  let page ← page
  let x := owner.extent
  if !x.isMade && !page.sameLine (page.startOf x.before) x.stop then return false
  if ← startsLine owner body.head? { lines := .kept } then return false
  if ← endsLine owner body.getLast? { lines := .kept } then return false
  standOnLine body

/-- Writes comments that stand apart at the front of a body, with a blank line after them, ahead of the rest. -/
def detachedRemarks (at_ : Nat) : Emit Unit := do
  let page ← page
  let all := page.leading at_
  let rec group (previous : Option Remark) : List Remark → List Remark
    | [] => []
    | r :: rest =>
      match previous with
      | some p => if 2 ≤ page.linesBetween p.stop r.start then [] else r :: group (some r) rest
      | none => r :: group (some r) rest
  let first := group none all
  match first.head?, first.getLast? with
  | some head, some last =>
    if 2 ≤ page.linesBetween last.stop (page.startOf at_) then
      lineBefore at_ head
      let rec put : List Remark → (hasSpace : Bool) → Emit Unit
        | [], hasSpace => if hasSpace then space else return
        | r :: rest, hasSpace => do
          if hasSpace then space
          remark r
          if r.endsLine then line
          put rest (!r.endsLine)
      put first false
      modify fun e => { e with detached := (at_, last.stop) :: e.detached }
  | _, _ => return

/-- Writes a body with the comments that stand apart in front of it and those after its last statement. -/
def bodyWithRemarks (list : Extent) (body : Emit Unit) : Emit Unit := do
  if !list.isMade then detachedRemarks list.before
  body
  if !list.isMade then
    leadingOf list.stop
    let e ← get
    if e.hasWritten && !e.atLineStart then line

/-- Writes directives, each on a line of its own; gives back what follows them. -/
def directives : List Tree → Emit (List Tree)
  | t :: rest => do
    if isDirective t then
      line
      emit t
      directives rest
    else return t :: rest
  | [] => return []

/-- Writes the body of a function. -/
def functionBodyOf (body : Tree) : Emit Unit := do
  match body.node with
  | .block isMultiLine list statements =>
    let owner := Owner.of body
    space
    write "\x7b"
    indent
    let isOnLine ← isOnLine owner isMultiLine statements
    bodyWithRemarks list.extent do
      let rest ← directives emit statements
      if rest.length = statements.length && isOnLine then
        outdent
        listOf emit owner list statements .openBlock
        indent
      else listOf emit owner list rest .statements
    outdent
    write "\x7d"
  | _ => return

/-- Writes the parameters and the body of a function. -/
def signatureOf (t : Tree) (list : Listing) (params : List Tree) (body : Option Tree) : Emit Unit := do
  listOf emit (.of t) list params .arguments
  match body with
  | some body => functionBodyOf emit body
  | none => write ";"

def functionOf (t : Tree) (words : List Tree) (star : Option Leaf) (name : Option Tree) (list : Listing)
    (params : List Tree) (body : Option Tree) : Emit Unit := do
  modifiersOf emit (.of t) words
  write "function"
  markOf emit star
  space
  optionally emit name
  signatureOf emit t list params body

def arrowOf (t : Tree) (words : List Tree) (isPlain : Bool) (list : Listing) (params : List Tree) (mark : Leaf)
    (body : Tree) : Emit Unit := do
  modifiersOf emit (.of t) words
  listOf emit (.of t) list params (if isPlain then .plainParameters else .arguments)
  space
  emit mark.tree
  match body.node with
  | .block .. => functionBodyOf emit body
  | _ =>
    space
    emit body

def classOf (t : Tree) (words : List Tree) (name : Option Tree) (heritage : List Tree) (list : Listing)
    (members : List Tree) : Emit Unit := do
  modifiersOf emit (.of t) words
  write "class"
  afterSpace emit name
  listOf emit (.of t) ⟨.made, false⟩ heritage .heritage
  space
  write "\x7b"
  listOf emit (.of t) list members .block
  write "\x7d"

def heritageOf (t : Tree) (word : String) (list : Listing) (types : List Tree) : Emit Unit := do
  space
  write word
  space
  listOf emit (.of t) list types .declarators

def entryOf (name value : Tree) : Emit Unit := do
  emit name
  write ":"
  space
  if !value.remarks.isMade then trailingOf value.remarks.before .after
  emit value

def shorthandOf (name : Tree) (value : Option Tree) : Emit Unit := do
  emit name
  value.forM fun value => do
    space
    write "="
    space
    emit value

def methodOf (t : Tree) (kind : MethodKind) (words : List Tree) (star : Option Leaf) (name : Option Tree)
    (list : Listing) (params : List Tree) (body : Option Tree) : Emit Unit := do
  modifiersOf emit (.of t) words
  match kind with
  | .plain =>
    markOf emit star
    optionally emit name
  | .getter =>
    write "get"
    afterSpace emit name
  | .setter =>
    write "set"
    afterSpace emit name
  | .builder => write "constructor"
  signatureOf emit t list params body

def fieldOf (t : Tree) (words : List Tree) (name : Tree) (value : Option Tree) : Emit Unit := do
  modifiersOf emit (.of t) words
  emit name
  initializerOf emit t.extent name.stop value
  write ";"

def parameterOf (t : Tree) (words : List Tree) (dots : Option Leaf) (name : Tree) (value : Option Tree) : Emit Unit := do
  modifiersOf emit (.of t) words
  markOf emit dots
  emit name
  initializerOf emit t.extent name.stop value

def patternItemOf (t : Tree) (dots : Option Leaf) (property : Option Tree) (name : Tree) (value : Option Tree) :
    Emit Unit := do
  markOf emit dots
  property.forM fun property => do
    emit property
    write ":"
    space
  emit name
  initializerOf emit t.extent name.stop value

end

end Distill.Concrete.Emit
