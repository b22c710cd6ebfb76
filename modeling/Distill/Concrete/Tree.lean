/-!
The syntax of a source text as it stands in the text: every part knows where it begins and ends, so that it can be
written again with the comments and lines around it. What is said about types is left out; the parts that lost
something are marked, and so are the parts that are made up.
-/
namespace Distill.Concrete

/-- Where a part stands in a text, by offsets from its beginning. A part begins right after the token before it, so that
the comments in front of it belong to it. -/
structure Extent where
  before : Nat
  stop : Nat
  /-- Whether the part is made up and stands nowhere. -/
  isMade : Bool := false
deriving DecidableEq, Repr, Inhabited

/-- The extent of a part that stands nowhere. -/
def Extent.made : Extent := ⟨0, 0, true⟩

/-- A token of one kind of text. -/
structure Leaf where
  text : String
  extent : Extent
deriving DecidableEq, Repr, Inhabited

/-- A list of parts: where it stands, and whether a comma closes it. -/
structure Listing where
  extent : Extent
  hasComma : Bool := false
deriving DecidableEq, Repr, Inhabited

inductive LiteralKind where
  | number
  | bigInteger
  | string
  | regex
  | template
deriving DecidableEq, Repr

/-- Which assertions about types an expression lost. -/
inductive Assertion where
  /-- A type that is claimed, before or after the expression. -/
  | claim
  /-- A type that is compared with. -/
  | check
  /-- The claim that there is a value. -/
  | presence
  /-- A type that is claimed, in parentheses. -/
  | groupedClaim
deriving DecidableEq, Repr

/-- What a function among the members of a class or object is. -/
inductive MethodKind where
  | plain
  | getter
  | setter
  | builder
deriving DecidableEq, Repr

mutual

/-- A part of a text. It is changed if something in it was about types. -/
inductive Tree where
  | mk (extent : Extent) (isChanged : Bool) (node : Node)

inductive Node where
  /-- A name. It is empty where one is missing. -/
  | name (text : String)
  /-- A word or mark with a place of its own. -/
  | word (text : String)
  | literal (kind : LiteralKind) (text : String)
  /-- An entry that is left out of an array. -/
  | omitted
  | array (isMultiLine : Bool) (list : Listing) (items : List Tree)
  | object (isMultiLine : Bool) (list : Listing) (members : List Tree)
  /-- A member by its name. The mark is there if the object may be missing. -/
  | access (object : Tree) (mark : Option Leaf) (isChain : Bool) (name : Tree)
  | index (object : Tree) (mark : Option Leaf) (isChain : Bool) (key : Tree)
  | call (callee : Tree) (mark : Option Leaf) (isChain : Bool) (list : Listing) (args : List Tree)
  | construct (callee : Tree) (list : Option Listing) (args : List Tree)
  | tagged (tag : Tree) (template : Tree)
  | template (head : Tree) (spans : List Tree)
  | span (value : Tree) (literal : Tree)
  /-- Parentheses. `isClaim` tells whether all they hold is an expression whose type is claimed. -/
  | group (isClaim : Bool) (inner : Tree)
  /-- Parentheses that are made up. -/
  | wrapped (inner : Tree)
  /-- An expression whose type was asserted. -/
  | asserted (kind : Assertion) (inner : Tree)
  /-- An expression that was applied to types. -/
  | applied (inner : Tree)
  | unary (operator : String) (operand : Tree)
  /-- An operator that is a word. -/
  | wordUnary (operator : String) (operand : Tree)
  | suffix (operator : String) (operand : Tree)
  | binary (left : Tree) (operator : Leaf) (right : Tree)
  | conditional (test : Tree) (question : Leaf) (yes : Tree) (colon : Leaf) (no : Tree)
  | spread (value : Tree)
  | yielding (star : Option Leaf) (value : Option Tree)
  | metaProperty (word : String) (name : Tree)
  | computed (value : Tree)
  | function (modifiers : List Tree) (star : Option Leaf) (name : Option Tree) (list : Listing) (params : List Tree)
    (body : Option Tree)
  | arrow (modifiers : List Tree) (isPlain : Bool) (list : Listing) (params : List Tree) (mark : Leaf) (body : Tree)
  | classLike (modifiers : List Tree) (name : Option Tree) (heritage : List Tree) (list : Listing) (members : List Tree)
  | heritage (word : String) (list : Listing) (types : List Tree)
  /-- A member of an object with its value. -/
  | entry (name : Tree) (value : Tree)
  | shorthand (name : Tree) (value : Option Tree)
  | method (kind : MethodKind) (modifiers : List Tree) (star : Option Leaf) (name : Option Tree) (list : Listing)
    (params : List Tree) (body : Option Tree)
  | field (modifiers : List Tree) (name : Tree) (value : Option Tree)
  | staticBlock (body : Tree)
  | emptyMember
  /-- A parameter. `comments` is the extent whose comments go with it. -/
  | parameter (comments : Extent) (modifiers : List Tree) (isField : Bool) (dots : Option Leaf) (name : Tree)
    (value : Option Tree)
  | objectPattern (list : Listing) (items : List Tree)
  | arrayPattern (list : Listing) (items : List Tree)
  | patternItem (dots : Option Leaf) (property : Option Tree) (name : Tree) (value : Option Tree)
  /-- A variable with its value. `type` is where its type stood. -/
  | declarator (name : Tree) (type : Option Extent) (value : Option Tree)
  | declarators (word : String) (list : Listing) (items : List Tree)
  | variables (modifiers : List Tree) (declarators : Tree)
  /-- The statement that stores a parameter in the field of its name. -/
  | store (name : Tree)
  | block (isMultiLine : Bool) (list : Listing) (body : List Tree)
  | empty
  | expression (value : Tree)
  | branch (test : Tree) (yes : Tree) (no : Option Tree)
  | loopOnce (body : Tree) (test : Tree)
  | loop (test : Tree) (body : Tree)
  | count (init : Option Tree) (test : Option Tree) (post : Option Tree) (body : Tree)
  | each (isAwait : Option Leaf) (word : String) (init : Tree) (object : Tree) (body : Tree)
  | jump (word : String) (label : Option Tree)
  | giveBack (value : Option Tree)
  | withScope (object : Tree) (body : Tree)
  | switch (subject : Tree) (clauses : Tree)
  | clauses (list : Listing) (items : List Tree)
  | clause (test : Option Tree) (list : Listing) (body : List Tree)
  | labeled (label : Tree) (body : Tree)
  | throwing (value : Tree)
  | attempt (body : Tree) (handler : Option Tree) (last : Option Tree)
  | handler (binding : Option Tree) (body : Tree)
  | debugger
  | importing (clause : Option Tree) (origin : Tree) (options : Option Tree)
  | importClause (isType : Bool) (default : Option Tree) (bindings : Option Tree)
  | wholeImport (name : Tree)
  | entries (list : Listing) (items : List Tree)
  | specifier (isType : Bool) (property : Option Tree) (name : Tree)
  | exporting (isType : Bool) (clause : Option Tree) (origin : Option Tree) (options : Option Tree)
  | wholeExport (name : Tree)
  | exportDefault (isEquals : Bool) (value : Tree)
  /-- A name that stands for a module or for a member of one. -/
  | importAlias (modifiers : List Tree) (isType : Bool) (name : Tree) (value : Option Tree)
  | importOptions (list : Listing) (items : List Tree)
  /-- Statements that stand for one. -/
  | series (items : List Tree)
  /-- What is left of a statement that is only about types. `marksModule` tells whether it was exported. -/
  | nothing (marksModule : Bool)

end

instance : Inhabited Tree := ⟨.mk .made false (.nothing false)⟩

namespace Tree

def extent : Tree → Extent
  | .mk extent _ _ => extent

def isChanged : Tree → Bool
  | .mk _ isChanged _ => isChanged

def node : Tree → Node
  | .mk _ _ node => node

def before (t : Tree) : Nat := t.extent.before

def stop (t : Tree) : Nat := t.extent.stop

def isMade (t : Tree) : Bool := t.extent.isMade

/-- Whether a part is missing in the text. -/
def isMissing (t : Tree) : Bool := t.before = t.stop && !t.isMade

end Tree

/-- A token as a part of its own. -/
def Leaf.tree (l : Leaf) : Tree := .mk l.extent false (.word l.text)

end Distill.Concrete
