import Distill.Script.Token

/-!
Token streams: the current token with the text after it. A syntax error says how many characters were left where it
arose.
-/
namespace Distill.Script

/-- What a token opens until another one closes it. -/
inductive Opening where
  /-- A parenthesis or a brace. -/
  | bracket
  | substitution
deriving DecidableEq, Repr

structure Stream where
  token : Token
  /-- Whether a line ended before the token. -/
  newline : Bool
  /-- Comments kept so far. -/
  notices : List String
  /-- What is open after the token, innermost first. -/
  openings : List Opening
  rest : Text.Remainder
deriving DecidableEq

/-- The part of a template at the beginning of a text that goes on after a substitution. -/
def scanContinuation (cs : List Char) : Scanned :=
  let found := scanTemplate cs
  match found.token.kind with
  | .template => { found with token := ⟨.templateTail, found.token.text⟩ }
  | .templateHead => { found with token := ⟨.templateMiddle, found.token.text⟩ }
  | _ => found

/-- The token at the beginning of a text. A brace that closes a substitution starts the rest of its template. -/
def scanInside (openings : List Opening) (cs : List Char) : Scanned :=
  let found := scan cs
  if openings.head? = some .substitution ∧ found.token.text = "\x7d" then scanContinuation cs else found

/-- What is open after a token. -/
def openAfter (token : Token) (openings : List Opening) : List Opening :=
  match token.kind with
  | .punctuator =>
    if token.text = "(" ∨ token.text = "\x7b" then .bracket :: openings
    else if token.text = ")" ∨ token.text = "\x7d" then openings.drop 1
    else openings
  | .templateHead => .substitution :: openings
  | .templateTail => openings.drop 1
  | _ => openings

/-- The token after a gap. Where a comment is not closed, there is none. -/
def Gap.scanned (g : Gap) (openings : List Opening) : Scanned :=
  if g.closed then scanInside openings g.rest.chars else .fail "unexpected EOF in comment" 0 0

/-- The next token. A word directly after a number is no token. -/
def Stream.advance (s : Stream) : Stream :=
  let g := gap false s.rest
  let found := g.scanned s.openings
  let found :=
    if s.token.kind = .number ∧ found.token.kind = .word ∧ g.rest.length = s.rest.length then
      Scanned.fail "unexpected identifier after number" 0 found.length
    else found
  ⟨found.token, g.newline, s.notices ++ g.notices, openAfter found.token s.openings, g.rest.drop found.length⟩

/-- The length of a first line that names the program to run a script with. -/
def interpreterLength (cs : List Char) : Nat := if startsWith "#!" cs then lineLength cs else 0

/-- The stream of a text at its first token. A line that names an interpreter is kept like a comment. -/
def Stream.ofText (cs : List Char) : Stream :=
  let n := interpreterLength cs
  let g := gap true (.ofList (cs.drop n))
  let found := g.scanned []
  ⟨found.token, g.newline, (if n = 0 then [] else [String.ofList (cs.take n)]) ++ g.notices, openAfter found.token [],
    g.rest.drop found.length⟩

def Stream.isPunctuator (s : Stream) (text : String) : Bool := s.token.kind = .punctuator && s.token.text = text

def Stream.isWord (s : Stream) (text : String) : Bool := s.token.kind = .word && s.token.text = text

/-- Whether no more tokens follow, be it for the end of the text or for what is no token. -/
def Stream.isOver (s : Stream) : Bool :=
  match s.token.kind with
  | .finish => true
  | .broken .. => true
  | _ => false

/-- The number of characters from the current token on. -/
def Stream.remaining (s : Stream) : Nat := s.token.text.length + s.rest.length

/-- Takes the current slash for the start of a regular expression. -/
def Stream.asRegex (s : Stream) : Stream :=
  let found := scanRegex (s.token.text.toList ++ s.rest.chars)
  { s with token := found.token, rest := s.rest.drop (found.length - s.token.text.length) }

/-- A syntax error with the number of characters left at its place. -/
structure SyntaxError where
  remaining : Nat
  message : String
deriving DecidableEq, Repr

/-- Alternatives in words. -/
def alternatives : List String → String
  | [] => ""
  | [a] => a
  | [a, b] => a ++ " or " ++ b
  | a :: rest => a ++ ", " ++ more rest
where
  more : List String → String
    | [] => ""
    | [a] => "or " ++ a
    | a :: rest => a ++ ", " ++ more rest

/-- What is wrong with the current token: it is not among the expected ones, or not allowed here at all. -/
def Stream.complaint (s : Stream) (context : String) (expected : List String) : SyntaxError :=
  let lead := if expected = [] then "unexpected " else "expected " ++ alternatives expected ++ " instead of "
  let message :=
    match s.token.kind with
    | .broken message _ => message
    | .finish => lead ++ "EOF"
    | _ => lead ++ s.token.text
  ⟨s.remaining, if context = "" then message else message ++ " in " ++ context⟩

/-- A position in a text, line and column both from 1. -/
structure Position where
  line : Nat
  column : Nat
deriving DecidableEq, Repr

/-- The position after some characters; a carriage return and a line feed end one line. -/
def Position.after : List Char → Position → Position
  | [], p => p
  | '\r' :: '\n' :: rest, p => after rest ⟨p.line + 1, 1⟩
  | c :: rest, p => after rest (if Text.isLineEnd c then ⟨p.line + 1, 1⟩ else ⟨p.line, p.column + 1⟩)

/-- The position where so many characters of a text remain. -/
def positionOf (text : List Char) (remaining : Nat) : Position :=
  Position.after (text.take (text.length - remaining)) ⟨1, 1⟩

end Distill.Script
