import Distill.Script.Token

/-!
Comments that are kept. A comment over several lines is moved with its first line, so it is stored without the blanks
that its lines have in common.
-/
namespace Distill.TypeScript

open Script (startsWith)

/-- Whether a word starts a text and ends there. -/
def startsWithWord (word : String) (cs : List Char) : Bool :=
  startsWith word cs && !(cs.drop word.length).head?.any Text.isIdentifierPart

/-- Whether a text holds one of the marks for comments about rights. -/
def hasRightsMark : List Char → Bool
  | [] => false
  | '@' :: rest => startsWithWord "preserve" rest || startsWithWord "license" rest || hasRightsMark rest
  | _ :: rest => hasRightsMark rest

/-- Whether a comment is kept among the statements. -/
def isKeptComment (text : String) : Bool :=
  let cs := text.toList
  let content := if startsWith "/*" cs then cs.take (cs.length - 2) else cs
  Script.isNotice cs || hasRightsMark content

/-- Whether a text holds a word after `@` or `#`. -/
def hasMark (word : String) : List Char → Bool
  | [] => false
  | c :: rest => (c = '@' || c = '#') && startsWithWord word rest || hasMark word rest

/-- Whether a comment says something about what follows it by a marked word. -/
def speaksOf (word text : String) : Bool :=
  let cs := text.toList
  hasMark word (if startsWith "/*" cs then cs.take (cs.length - 2) else cs)

/-- The word that says that a call has no effect. -/
def callMark : String := "__PURE__"

/-- The word that says that calls of a function have no effect. -/
def functionMark : String := "__NO_SIDE_EFFECTS__"

/-- Whether a comment says where the source of the text is. -/
def namesSource (text : String) : Bool :=
  let cs := text.toList
  let content := (if startsWith "/*" cs then cs.take (cs.length - 2) else cs).drop 2
  let words := " sourceMappingURL=".toList
  match content with
  | '#' :: rest | '@' :: rest => startsWith " sourceMappingURL=" rest && words.length < rest.length
  | _ => false

/-- Whether a comment is for tools, so that it is not a remark on what follows. -/
def isInstruction (text : String) : Bool :=
  [callMark, functionMark, "__KEY__"].any (speaksOf · text) || namesSource text

/-- The lines of a text. -/
def linesOf (cs : List Char) : List (List Char) := go [] cs
where
  go (line : List Char) : List Char → List (List Char)
    | [] => [line.reverse]
    | '\r' :: '\n' :: rest => line.reverse :: go [] rest
    | c :: rest => if Text.isLineEnd c then line.reverse :: go [] rest else go (c :: line) rest

/-- The number of blanks at the beginning of a line. -/
def indentOf (line : List Char) : Nat := (line.takeWhile fun c => c = ' ' || c = '\t').length

/-- A comment with `column` characters before it on its line, without the blanks that its lines have in common. -/
def unindented (column : Nat) (text : String) : String :=
  let cs := text.toList
  if !startsWith "/*" cs then text
  else match linesOf cs with
    | [] => text
    | first :: more =>
      let indent := more.foldl (fun n line => Nat.min n (indentOf line)) column
      String.ofList (first ++ more.flatMap fun line => '\n' :: line.drop indent)

end Distill.TypeScript
