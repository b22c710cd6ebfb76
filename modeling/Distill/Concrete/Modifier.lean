import Distill.Concrete.Grammar

/-!
The words before declarations and members. Such a word can also be a name; what follows it decides.
-/
namespace Distill.Concrete

/-- Whether the current token can follow a modifier. -/
def canFollowModifier : Read Bool := do
  if ← seesOneOf ["[", "\x7b", "*", "..."] then return true
  seesLiteralName

def canFollowExport : Read Bool := do
  if ← seesOneOf ["*", "as", "\x7b"] then return false
  canFollowModifier

/-- Whether what follows the word `default` is declared by default. -/
def canFollowDefault : Read Bool := do
  let t ← token
  if t.isOneOf ["class", "function", "interface", "@"] then return true
  else if t.is "abstract" then nextIs true (·.is "class")
  else if t.is "async" then nextIs true (·.is "function")
  else return false

/-- Takes a modifier if what follows it shows that it is one. -/
def takeModifier : Read (Option Unit) := attempt do
  let t ← token
  next
  let isModifier ←
    if t.is "const" then sees "enum"
    else if t.is "export" then
      if ← sees "default" then lookAhead (do next; canFollowDefault)
      else if ← sees "type" then lookAhead (do next; canFollowExport)
      else canFollowExport
    else if t.is "default" then canFollowDefault
    else if t.isOneOf ["static", "get", "set"] then canFollowModifier
    else if (← token).newline then pure false
    else canFollowModifier
  return if isModifier then some () else none

/-- Takes a word like a modifier. -/
def takeWord (word : String) : Read Bool := do
  if ← sees word then return (← takeModifier).isSome else return false

/-- Takes the word `const` before a member, where it means nothing. -/
def takeConst : Read (Option Unit) := attempt do
  next
  if (← token).newline then return none
  return if ← canFollowModifier then some () else none

/-- How modifiers are read. -/
structure ModifierRules where
  /-- Whether `const` can be one though it means nothing. -/
  takesConst : Bool := false
  /-- Whether a block can follow the word `static`. -/
  mindsBlocks : Bool := false

/-- The modifiers that come, each as a word. -/
def readModifiers (rules : ModifierRules) : (fuel : Nat) → (isStatic : Bool) → Read (List Tree)
  | 0, _ => return []
  | fuel + 1, isStatic => do
    let from_ ← start
    let t ← token
    let isTaken ←
      if !(← seesModifier) then pure false
      else if t.is "const" && rules.takesConst then pure (← takeConst).isSome
      else if t.is "static" && isStatic then pure false
      else if t.is "static" && rules.mindsBlocks then
        if ← nextIs false (·.is "\x7b") then pure false else pure (← takeModifier).isSome
      else pure (← takeModifier).isSome
    if isTaken then
      let word ← finish from_ (.word t.text)
      return word :: (← readModifiers rules fuel (isStatic || t.is "static"))
    else return []

/-- The modifiers that come. -/
def modifiers (rules : ModifierRules) : Read (List Tree) := do readModifiers rules (← plenty) false

def Tree.isWord (word : String) (t : Tree) : Bool :=
  match t.node with
  | .word text => text = word
  | _ => false

/-- Whether a modifier is among some. -/
def hasWord (word : String) (words : List Tree) : Bool := words.any (Tree.isWord word)

/-- The modifiers that are only about types. -/
def typeWords : List String :=
  ["public", "private", "protected", "abstract", "declare", "readonly", "override", "const", "in", "out"]

/-- Leaves out the modifiers that are only about types. -/
def valueModifiers (words : List Tree) : Read (List Tree) := do
  let isAboutTypes (t : Tree) : Bool := typeWords.any fun word => t.isWord word
  if words.any isAboutTypes then erase
  return words.filter fun t => !isAboutTypes t

/-- The decorators that come. -/
def readDecorators (g : Grammar) : (fuel : Nat) → Read (List Tree)
  | 0 => return []
  | fuel + 1 => do
    if ← optional "@" then
      erase
      let value ← within (fun s => { s with inDecorator := true }) g.operand
      return value :: (← readDecorators g fuel)
    return []

end Distill.Concrete
