/-!
A place in a text, with its line and column, and the small moves a reader makes from there.
-/
namespace Distill.Yaml

structure Cursor where
  rest : List Char
  /-- Counted from one. -/
  line : Nat
  /-- Counted from zero. -/
  column : Nat
  /-- How many bytes lie before this place. -/
  index : Nat
deriving Repr

def isBlank (c : Char) : Bool := c = ' ' || c = '\t'

/-- The character U+0085, which ends a line. -/
def nextLine : Char := Char.ofNat 0x85

/-- The characters U+2028 and U+2029, which end a line and stay themselves when lines are folded. -/
def isSeparator (c : Char) : Bool := c.toNat = 0x2028 || c.toNat = 0x2029

def isBreak (c : Char) : Bool := c = '\n' || c = '\r' || c = nextLine || isSeparator c

/-- Whether a token that needs a separator may end here. -/
def startsBlank : List Char → Bool
  | [] => true
  | c :: _ => isBlank c || isBreak c

namespace Cursor

def start (cs : List Char) : Cursor := ⟨cs, 1, 0, 0⟩

/-- Some characters further on the same line. -/
def forward (c : Cursor) (n : Nat) : Cursor :=
  ⟨c.rest.drop n, c.line, c.column + n, (c.rest.take n).foldl (fun bytes x => bytes + x.utf8Size) c.index⟩

/-- One character further on the same line. -/
def next (c : Cursor) : Cursor := c.forward 1

/-- Skips characters of one line. -/
def skipWhile (p : Char → Bool) (c : Cursor) : Cursor :=
  c.forward (c.rest.takeWhile fun x => p x && !isBreak x).length

/-- The line end that stands here, as the character it contributes to a text, and the beginning of the next line. -/
def lineEnd? (c : Cursor) : Option (Char × Cursor) :=
  match c.rest with
  | '\r' :: '\n' :: rest => some ('\n', ⟨rest, c.line + 1, 0, c.index + 2⟩)
  | x :: rest =>
    if isBreak x then some (if isSeparator x then x else '\n', ⟨rest, c.line + 1, 0, c.index + 1⟩) else none
  | [] => none

/-- Whether the line is over here. -/
def atLineEnd (c : Cursor) : Bool :=
  match c.rest with
  | [] => true
  | x :: _ => isBreak x

/-- Whether a line with a document marker starts here. -/
def atMarker (c : Cursor) : Bool :=
  c.column = 0 &&
    match c.rest with
    | '-' :: '-' :: '-' :: rest => startsBlank rest
    | '.' :: '.' :: '.' :: rest => startsBlank rest
    | _ => false

/-- Skips a comment, if one starts here. -/
def skipComment (c : Cursor) : Cursor := if c.rest.head? = some '#' then c.skipWhile fun _ => true else c

end Cursor

end Distill.Yaml
