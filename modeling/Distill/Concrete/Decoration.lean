import Distill.Concrete.Binding
import Distill.TypeScript.Literal

/-!
Decorated classes. A decorator is a function that is given what it stands before. It is written as a call of a helper
after the class: for each decorated member with the class and the name of the member, and for the class itself with the
class, whose result takes the place of the class. The helper stands at the beginning of the file.
-/
namespace Distill.Concrete

/-- A member of a class with its decorators. -/
structure DecoratedMember where
  decorators : List Tree
  isStatic : Bool
  /-- What names the member in the call. -/
  key : Tree
  /-- Whether it is a field, which can be defined without looking for what is there. -/
  isField : Bool
  /-- The name if the member is a getter or setter. Of two with one name only one is decorated. -/
  accessorName : Option String := none

/-- A part that is made up. -/
def Tree.made (node : Node) : Tree := .mk .made true node

/-- A list that is made up. -/
def Listing.made : Listing := ⟨.made, false⟩

/-- A name that is made up. -/
def madeName (text : String) : Tree := .made (.name text)

/-- One code point between double quotes. `next` is the one after it. -/
def quotedCodePoint (n : Nat) (next : Option Nat) : String :=
  match n with
  | 0 => if next.any fun d => 48 ≤ d && d ≤ 57 then "\\x00" else "\\0"
  | 8 => "\\b"
  | 9 => "\\t"
  | 10 => "\\n"
  | 11 => "\\v"
  | 12 => "\\f"
  | 13 => "\\r"
  | 34 => "\\\""
  | 92 => "\\\\"
  | n =>
    if n < 32 || 0x7f < n && n < 0x10000 then "\\u" ++ TypeScript.upperHex 4 n
    else if n < 0x80 then (Char.ofNat n).toString
    else
      let m := n - 0x10000
      "\\u" ++ TypeScript.upperHex 4 (0xd800 + m / 0x400) ++ "\\u" ++ TypeScript.upperHex 4 (0xdc00 + m % 0x400)

/-- The literal of a text in ASCII. -/
def quotedText (codePoints : List Nat) : String := "\"" ++ go codePoints ++ "\""
where
  go : List Nat → String
    | [] => ""
    | n :: rest => quotedCodePoint n rest.head? ++ go rest

/-- Whether a word stands in a text. -/
def occurs (word : String) (text : List Char) : Bool := go word.toList [] text
where
  /-- `run` is what was read of the current word, from its end. -/
  go (word run : List Char) : List Char → Bool
    | [] => run.reverse = word
    | c :: rest =>
      if Text.isIdentifierPart c then go word (c :: run) rest else run.reverse = word || go word [] rest

/-- The first name among some that stands nowhere in the text and was not made up before. -/
def State.firstFree (s : State) (candidates : List String) : String :=
  let made := s.classNames ++ s.outerNames ++ s.valueNames
  (candidates.find? fun name => !made.contains name && !occurs name s.text).getD ""

/-- Numbers of which at least one is in no name so far. -/
def State.numbers (s : State) : List Nat :=
  List.range (s.classNames.length + s.outerNames.length + s.valueNames.length + s.text.length + 1)

/-- A free name that begins with another one. -/
def State.freeName (s : State) (base : String) : String :=
  let base := if base.toList.getLast? = some '_' then base else base ++ "_"
  s.firstFree (s.numbers.map fun i => base ++ toString (i + 1))

/-- A free name for a value that is needed twice. -/
def State.freeVariable (s : State) : String :=
  let letters := ("abcdefghjklmopqrstuvwxyz".toList).map fun c => "_" ++ c.toString
  s.firstFree (letters ++ s.numbers.map fun i => "_" ++ toString i)

namespace Grammar

/-- The text of a name that is not missing. -/
def nameText (t : Tree) : String :=
  match t.node with
  | .name text => text
  | _ => ""

/-- Whether an expression can be written twice, because it is a literal or a word. -/
def isRepeatable (t : Tree) : Bool :=
  match t.bare.node with
  | .literal .string _ | .literal .number _ | .literal .template _ | .word _ => true
  | _ => false

/-- The name of a decorated member together with what names it in a call. A name that is worked out is stored. -/
def decoratedKey (name : Tree) : Read (Tree × Tree) := do
  match name.node with
  | .name text =>
    if text.toList.head? = some '#' then return (name, madeName "")
    return (name, .made (.literal .string (quotedText (TypeScript.decodeLiteral text.toList))))
  | .literal .string text =>
    let content := (text.toList.drop 1).dropLast
    return (name, .made (.literal .string (quotedText (TypeScript.decodeLiteral content))))
  | .computed value =>
    if isRepeatable value then return (name, value)
    let text := (← get).freeVariable
    modify fun s => { s with valueNames := s.valueNames ++ [text] }
    let stored : Tree := .made (.binary (madeName text) ⟨"=", .made⟩ value)
    return (.mk name.extent true (.computed stored), madeName text)
  | node => return (name, .made node)

end Grammar

/-- The call that hands decorators to the helper, with what they are given. -/
def decorateCall (decorators given : List Tree) : Tree :=
  let list := Tree.made (.array true .made decorators)
  .made (.call (madeName "__decorate") none false .made (list :: given))

/-- The members that are decorated by a call: of a getter and a setter with one name the first that has decorators. -/
def calledMembers : (seen : List (String × Bool)) → List DecoratedMember → List DecoratedMember
  | _, [] => []
  | seen, m :: rest =>
    match m.accessorName with
    | none => m :: calledMembers seen rest
    | some name =>
      if seen.contains (name, m.isStatic) then calledMembers seen rest
      else m :: calledMembers ((name, m.isStatic) :: seen) rest

/-- The statements that decorate the members of a class: first those of its objects, then its own. -/
def memberDecorations (className : String) (members : List DecoratedMember) : List Tree :=
  let owner (m : DecoratedMember) : Tree :=
    if m.isStatic then madeName className
    else .made (.access (madeName className) none false (madeName "prototype"))
  let descriptor (m : DecoratedMember) : Tree :=
    if m.isField then .made (.wordUnary "void" (.made (.literal .number "0"))) else .made (.word "null")
  let call (m : DecoratedMember) : Tree :=
    .made (.expression (decorateCall m.decorators [owner m, m.key, descriptor m]))
  let called := calledMembers [] members
  (called.filter (!·.isStatic)).map call ++ (called.filter (·.isStatic)).map call

/-- The declaration of variables without values. -/
def variablesStatement (names : List String) : List Tree :=
  if names.isEmpty then []
  else
    let items := names.map fun name => Tree.made (.declarator (madeName name) none none)
    [.made (.variables [] (.made (.declarators "var" .made items)))]

/-- The lines of the helper that decorators are handed to. -/
def decorateHelper : List String := [
  "var __decorate = (this && this.__decorate) || function (decorators, target, key, desc) \x7b",
  "    var c = arguments.length, r = c < 3 ? target : desc === null ? desc = Object.getOwnPropertyDescriptor(target, key) : desc, d;",
  "    if (typeof Reflect === \"object\" && typeof Reflect.decorate === \"function\") r = Reflect.decorate(decorators, target, key, desc);",
  "    else for (var i = decorators.length - 1; i >= 0; i--) if (d = decorators[i]) r = (c < 3 ? d(r) : c > 3 ? d(target, key, r) : d(target, key)) || r;",
  "    return c > 3 && r && Object.defineProperty(target, key, r), r;",
  "\x7d;"]

end Distill.Concrete
