import Distill.Concrete.Token
import Distill.Concrete.Tree

/-!
The steps that the reader of concrete syntax is made of. Reading never fails: what is missing is an empty part, and what
cannot be placed is skipped.
-/
namespace Distill.Concrete

/-- What may stand where the reader is. -/
structure Setting where
  /-- Whether `yield` is an operator. -/
  inYield : Bool := false
  /-- Whether `await` is an operator. -/
  inAwait : Bool := false
  inDecorator : Bool := false
  /-- Whether `in` is no operator. -/
  withoutIn : Bool := false
  /-- Whether a type cannot be a choice between types. -/
  withoutChoice : Bool := false
  /-- The names of the decorated classes around, each with the name that stands for it inside of them. -/
  aliases : List (String × String) := []
deriving DecidableEq, Repr

/-- The lists that parts stand in. -/
inductive ListKind where
  | file
  | block
  | clauses
  | clauseBody
  | typeMembers
  | classMembers
  | enumMembers
  | heritageTypes
  | declarators
  | objectPattern
  | arrayPattern
  | arguments
  | objectMembers
  | arrayItems
  | parameters
  | typeParameters
  | typeArguments
  | tupleTypes
  | heritage
  | specifiers
  | importOptions
deriving DecidableEq, Repr

structure State where
  /-- The whole text. -/
  text : List Char
  /-- The text after the current token, and its length. -/
  rest : List Char
  left : Nat
  token : Token
  setting : Setting := {}
  /-- The lists around the current token. -/
  lists : List ListKind := []
  /-- How often something about types was left out. -/
  erased : Nat := 0
  /-- How often something was missing or skipped. -/
  faults : Nat := 0
  /-- Whether something was asked about the module itself. -/
  hasMeta : Bool := false
  /-- Where parentheses stand that are not those of a concise function. -/
  notArrows : List Nat := []
  /-- Whether something is decorated. -/
  isDecorated : Bool := false
  /-- The names that are made up for classes. -/
  classNames : List String := []
  /-- Those that were used inside of their classes. -/
  usedNames : List String := []
  /-- The names that are made up for values: in the functions around, and in the innermost of them. -/
  outerNames : List String := []
  valueNames : List String := []
  /-- The names of classes that are variables of the innermost function. -/
  classVariables : List String := []

abbrev Read := StateM State

/-- Where a part begins, and what was left out before. -/
structure Start where
  before : Nat
  erased : Nat
deriving DecidableEq, Repr

/-- The state at the beginning of a text of some length, before its first token. -/
def State.initial (text : List Char) (length : Nat) (setting : Setting) : State :=
  let opening := match text with
    | '#' :: '!' :: _ => Script.lineLength text
    | _ => 0
  { text, rest := text.drop opening, left := length - opening, setting
    token := ⟨.finish, "", "", 0, 0, opening, false, false⟩ }

/-- Takes the next token. -/
def next : Read Unit := modify fun s =>
  let (token, rest) := Token.next s.token.stop s.left s.rest
  { s with token, rest, left := s.left - (token.stop - s.token.stop) }

/-- Takes the first token of a text. It begins where the text begins. -/
def nextFirst : Read Unit := do
  next
  modify fun s => { s with token := { s.token with before := 0 } }

def token : Read Token := return (← get).token

/-- Whether a token is this word or mark. -/
def Token.is (t : Token) (text : String) : Bool := (t.kind = .mark || t.kind = .word) && t.text = text

/-- Whether a token is one of these words or marks. -/
def Token.isOneOf (t : Token) (texts : List String) : Bool := (t.kind = .mark || t.kind = .word) && texts.contains t.text

/-- Whether a token can be the name of a member. -/
def Token.isMemberName (t : Token) : Bool := t.kind = .word || t.kind = .privateName

def sees (text : String) : Read Bool := return (← token).is text

def seesOneOf (texts : List String) : Read Bool := return (← token).isOneOf texts

def seesKind (kind : Kind) : Read Bool := return decide ((← token).kind = kind)

/-- Where a part begins that begins with the current token. -/
def start : Read Start := do
  let s ← get
  return ⟨s.token.before, s.erased⟩

/-- Where the token before the current one ends. -/
def position : Read Nat := return (← token).before

/-- The extent from a place to the current token. -/
def extentFrom (before : Nat) : Read Extent := return ⟨before, ← position, false⟩

/-- The part that begins at a place and ends before the current token. -/
def finish (from_ : Start) (node : Node) : Read Tree := do
  let s ← get
  return .mk ⟨from_.before, s.token.before, false⟩ (s.erased ≠ from_.erased) node

/-- Whether something about types was left out since a place. -/
def isChangedSince (from_ : Start) : Read Bool := return (← get).erased ≠ from_.erased

/-- Notes that something about types is left out. -/
def erase : Read Unit := modify fun s => { s with erased := s.erased + 1 }

/-- Takes a token if it comes. -/
def optional (text : String) : Read Bool := do
  if ← sees text then
    next
    return true
  return false

/-- Notes that something is missing or skipped. -/
def fault : Read Unit := modify fun s => { s with faults := s.faults + 1 }

/-- Takes a token that should come; tells whether it did. -/
def expected (text : String) : Read Bool := do
  if ← optional text then return true
  fault
  return false

/-- Takes a token that should come. -/
def expect (text : String) : Read Unit := discard (expected text)

/-- The current token as a part. -/
def leaf : Read Leaf := do
  let t ← token
  next
  return ⟨t.raw, ⟨t.before, ← position, false⟩⟩

/-- Takes a token as a part if it comes. -/
def optionalLeaf (text : String) : Read (Option Leaf) := do
  if ← sees text then return some (← leaf) else return none

/-- Takes a token as a part. It is missing if it does not come. -/
def expectedLeaf (text : String) : Read Leaf := do
  match ← optionalLeaf text with
  | some l => return l
  | none =>
    fault
    let at_ ← position
    return ⟨text, ⟨at_, at_, false⟩⟩

/-- A name that is missing. -/
def missingName : Read Tree := do
  fault
  let at_ ← position
  return .mk ⟨at_, at_, false⟩ false (.name "")

/-- The state before some steps, with what they found out about parentheses. -/
def State.restored (before after : State) : State := { before with notArrows := after.notArrows }

/-- Looks what some steps would find, and goes back. -/
def lookAhead (p : Read α) : Read α := fun s =>
  let (a, after) := p s
  (a, s.restored after)

/-- Takes some steps, and goes back if they find nothing. -/
def attempt (p : Read (Option α)) : Read (Option α) := fun s =>
  match p s with
  | (some a, after) => (some a, after)
  | (none, after) => (none, s.restored after)

/-- Takes some steps in another setting. -/
def within (change : Setting → Setting) (p : Read α) : Read α := do
  let setting := (← get).setting
  modify fun s => { s with setting := change setting }
  let a ← p
  modify fun s => { s with setting }
  return a

def allowingIn (p : Read α) : Read α := within (fun s => { s with withoutIn := false }) p

/-- Whether a statement can end before the current token. -/
def canEnd : Read Bool := do
  let t ← token
  return t.is ";" || t.is "\x7d" || t.kind = .finish || t.newline

/-- Takes the end of a statement; tells whether it ends here. -/
def tryEnd : Read Bool := do
  if ← canEnd then
    discard (optional ";")
    return true
  return false

/-- Takes the end of a statement. -/
def endStatement : Read Unit := do
  if !(← tryEnd) then fault

/-- Whether a word can be used as a name here. -/
def Setting.isName (s : Setting) (word : String) : Bool :=
  if word = "yield" then !s.inYield
  else if word = "await" then !s.inAwait
  else !isReserved word

/-- Whether a name comes. -/
def seesName : Read Bool := do
  let s ← get
  return s.token.kind = .word && s.setting.isName s.token.text

/-- Whether a name comes that can be bound. -/
def seesBindingName : Read Bool := do
  let t ← token
  return t.kind = .word && !isReserved t.text

def seesBinding : Read Bool := do
  let t ← token
  return t.is "\x7b" || t.is "[" || t.kind = .privateName || (← seesBindingName)

/-- The current token as a name, if `isName` holds. -/
def nameIf (isName : Bool) : Read Tree := do
  if isName then
    let from_ ← start
    let t ← token
    next
    finish from_ (.name t.raw)
  else missingName

/-- A name. Where a private name stands, it is taken in its place. -/
def readName : Read Tree := do nameIf ((← seesName) || (← seesKind .privateName))

/-- A name that is bound. -/
def readBindingName : Read Tree := do nameIf ((← seesBindingName) || (← seesKind .privateName))

/-- A name that can be a keyword. -/
def readMemberName : Read Tree := do nameIf (← token).isMemberName

/-- Whether the next token stands on the same line and satisfies a condition. -/
def nextIs (sameLine : Bool) (p : Token → Bool) : Read Bool := lookAhead do
  next
  let t ← token
  return (!sameLine || !t.newline) && p t

/-- Whether a name comes after the current token on the same line. -/
def nextIsName (sameLine : Bool) : Read Bool := lookAhead do
  next
  return (!sameLine || !(← token).newline) && (← seesName)

end Distill.Concrete
