import Distill.Concrete.Type

/-!
What is bound: names, patterns and parameters.
-/
namespace Distill.Concrete

namespace Grammar

variable (g : Grammar)

/-- A literal as a part of its own. -/
def literalOf (kind : LiteralKind) : Read Tree := do
  let from_ ← start
  let t ← token
  next
  build from_ (.literal kind t.raw)

/-- The name of a member: a word, a literal or a key in brackets. -/
def readKey : Read Tree := do
  let t ← token
  if t.kind = .string then literalOf .string
  else if t.kind = .number then literalOf .number
  else if t.is "[" then
    let from_ ← start
    next
    let value ← allowingIn g.expression
    expect "]"
    build from_ (.computed value)
  else readMemberName

/-- An entry of a pattern for an array. -/
def arrayPatternItem : Read Tree := do
  let from_ ← start
  if ← sees "," then return ← finish from_ .omitted
  let dots ← optionalLeaf "..."
  let name ← g.binding
  let value ← g.initializer
  build from_ (.patternItem dots none name value)

/-- An entry of a pattern for an object. -/
def objectPatternItem : Read Tree := do
  let from_ ← start
  let dots ← optionalLeaf "..."
  let isName ← seesBindingName
  let key ← readKey g
  if isName && !(← sees ":") then
    let value ← g.initializer
    build from_ (.patternItem dots none key value)
  else
    expect ":"
    let name ← g.binding
    let value ← g.initializer
    build from_ (.patternItem dots (some key) name value)

/-- A name or pattern that is bound. -/
def readBinding : Read Tree := do
  let from_ ← start
  if ← sees "[" then
    next
    let (list, items) ← allowingIn (readDivided .arrayPattern (arrayPatternItem g))
    expect "]"
    build from_ (.arrayPattern list items)
  else if ← sees "\x7b" then
    next
    let (list, items) ← allowingIn (readDivided .objectPattern (objectPatternItem g))
    expect "\x7d"
    build from_ (.objectPattern list items)
  else readBindingName

/-- The words that make a parameter of a constructor a field. -/
def fieldWords : List String := ["public", "private", "protected", "readonly", "override"]

/-- A parameter. One for the receiver is left out; nothing is read where none can begin, unless `isSure` holds. -/
def readParameter (isSure outerAwait : Bool) : Read (Option Tree) := do
  let from_ ← start
  within (fun s => { s with inAwait := outerAwait }) (do discard (readDecorators g (← plenty)))
  if ← sees "this" then
    next
    erase
    discard g.annotation
    return some (← finish from_ (.nothing false))
  let words ← modifiers {}
  let dots ← optionalLeaf "..."
  let begins ← if isSure then pure true else if ← seesBindingName then pure true else seesOneOf ["[", "\x7b"]
  if !begins then return none
  let name ← g.binding
  if name.isMissing && words.isEmpty && (← seesModifier) then next
  if ← optional "?" then erase
  discard g.annotation
  let value ← g.initializer
  let left ← valueModifiers words
  let isField := fieldWords.any fun word => hasWord word words
  let .mk whole isChanged node ← build from_ (.parameter default left isField dots name value)
  let at_ : Extent := match isChanged, words.getLast? with
    | true, some last => { whole with before := last.stop }
    | _, _ => whole
  return some (.mk at_ isChanged (match node with
    | .parameter _ left isField dots name value => .parameter whole left isField dots name value
    | node => node))

/-- The parameters that are left. -/
def valueParameters (params : List Tree) : List Tree :=
  params.filter fun p => match p.node with
    | .nothing _ => false
    | _ => true

/-- The setting inside of a function. -/
def functionSetting (isGenerator isAsync : Bool) (s : Setting) : Setting :=
  { s with inYield := isGenerator, inAwait := isAsync }

/-- The parameters of a function, which may be missing. The second value tells whether they are there. -/
def parameters (isGenerator isAsync : Bool) : Read (Listing × List Tree) := do
  if ← expected "(" then
    let outerAwait := (← get).setting.inAwait
    let list ← within (functionSetting isGenerator isAsync) (readDivided? .parameters (g.parameter true outerAwait))
    expect ")"
    match list with
    | some (list, params) => return (list, valueParameters params)
    | none => return (⟨← extentFrom (← position), false⟩, [])
  else return (⟨← extentFrom (← position), false⟩, [])

end Grammar

end Distill.Concrete
