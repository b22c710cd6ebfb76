import Distill.Concrete.Tree
import Distill.Script.Token

/-!
What stands at the places of a text: blanks, comments and the ends of lines.
-/
namespace Distill.Concrete

/-- A text whose characters can be asked for by their places. -/
structure Page where
  chars : Array Char

/-- A comment in a text. -/
structure Remark where
  start : Nat
  stop : Nat
  /-- Whether it takes the rest of its line. -/
  isLine : Bool
  /-- Whether a line ends after it. -/
  endsLine : Bool
deriving DecidableEq, Repr

namespace Page

def of (text : List Char) : Page := ⟨text.toArray⟩

def length (p : Page) : Nat := p.chars.size

def char? (p : Page) (at_ : Nat) : Option Char := p.chars[at_]?

/-- The text between two places. -/
def between (p : Page) (start stop : Nat) : List Char := (p.chars.extract start stop).toList

/-- Where the line ends that goes on at a place. -/
def lineStop (p : Page) : (fuel at_ : Nat) → Nat
  | 0, at_ => at_
  | fuel + 1, at_ =>
    match p.char? at_ with
    | some c => if Text.isLineEnd c then at_ else p.lineStop fuel (at_ + 1)
    | none => at_

/-- Where the comment ends that goes on at a place. -/
def blockStop (p : Page) : (fuel at_ : Nat) → Nat
  | 0, at_ => at_
  | fuel + 1, at_ =>
    match p.char? at_ with
    | some c => if c = '*' && p.char? (at_ + 1) = some '/' then at_ + 2 else p.blockStop fuel (at_ + 1)
    | none => at_

/-- Where the comment ends that starts at a place, if one starts there. -/
def commentStop? (p : Page) (at_ : Nat) : Option (Nat × Bool) :=
  if p.char? at_ ≠ some '/' then none
  else
    let left := p.length - at_
    match p.char? (at_ + 1) with
    | some '/' => some (p.lineStop left (at_ + 2), true)
    | some '*' => some (p.blockStop left (at_ + 2), false)
    | _ => none

/-- Where the line ends with which a text may tell what runs it. -/
def openingStop (p : Page) : Nat :=
  if p.char? 0 = some '#' && p.char? 1 = some '!' then p.lineStop p.length 0 else 0

/-- The first place from some place on where something stands that is neither blank nor comment. -/
def skip (p : Page) : (fuel at_ : Nat) → Nat
  | 0, at_ => at_
  | fuel + 1, at_ =>
    match p.char? at_ with
    | none => at_
    | some c =>
      if Text.isSpace c || Text.isLineEnd c then p.skip fuel (at_ + 1)
      else match p.commentStop? at_ with
        | some (stop, _) => p.skip fuel stop
        | none => if at_ = 0 && p.openingStop ≠ 0 then p.skip fuel p.openingStop else at_

/-- Where what begins at a place really starts. -/
def startOf (p : Page) (at_ : Nat) : Nat := p.skip (p.length - at_ + 1) at_

/-- The comments from a place on. Those that trail what ends there stop with the line; those that lead what begins there
start after the line, except at the beginning of the text. -/
def remarksFrom (p : Page) (trails : Bool) : (fuel at_ : Nat) → (collects : Bool) → (pending : Option Remark) → List Remark
  | 0, _, _, pending => pending.toList
  | fuel + 1, at_, collects, pending =>
    match p.char? at_ with
    | none => pending.toList
    | some c =>
      if c = '\n' || c = '\r' then
        if trails then pending.toList
        else
          let width := if c = '\r' && p.char? (at_ + 1) = some '\n' then 2 else 1
          p.remarksFrom trails fuel (at_ + width) true (pending.map fun r => { r with endsLine := true })
      else if Text.isSpace c then p.remarksFrom trails fuel (at_ + 1) collects pending
      else if Text.isLineEnd c then
        p.remarksFrom trails fuel (at_ + 1) collects (pending.map fun r => { r with endsLine := true })
      else match p.commentStop? at_ with
        | none => pending.toList
        | some (stop, isLine) =>
          let remark : Remark := ⟨at_, stop, isLine, isLine && (p.char? stop).isSome⟩
          if collects then pending.toList ++ p.remarksFrom trails fuel stop collects (some remark)
          else p.remarksFrom trails fuel stop collects pending

/-- The comments that lead what begins at a place. -/
def leading (p : Page) (at_ : Nat) : List Remark :=
  p.remarksFrom false (p.length + 1 - at_) (if at_ = 0 then p.openingStop else at_) (at_ = 0) none

/-- The comments that trail what ends at a place. -/
def trailing (p : Page) (at_ : Nat) : List Remark :=
  p.remarksFrom true (p.length + 1 - at_) (if at_ = 0 then p.openingStop else at_) true none

/-- Whether a line starts right after a place. -/
def endsLineAt (p : Page) (at_ : Nat) : Bool :=
  match p.char? at_ with
  | some '\r' => p.char? (at_ + 1) ≠ some '\n'
  | some c => Text.isLineEnd c
  | none => false

/-- How many lines start after a place, up to some places later. -/
def linesFrom (p : Page) : (count at_ : Nat) → Nat
  | 0, _ => 0
  | count + 1, at_ => (if p.endsLineAt at_ then 1 else 0) + p.linesFrom count (at_ + 1)

/-- How many lines start between two places. -/
def linesBetween (p : Page) (a b : Nat) : Nat := p.linesFrom (b - a) a

/-- Whether a line starts after a place, up to some places later. -/
def breaksFrom (p : Page) : (count at_ : Nat) → Bool
  | 0, _ => false
  | count + 1, at_ => p.endsLineAt at_ || p.breaksFrom count (at_ + 1)

/-- Whether two places stand on one line. -/
def sameLine (p : Page) (a b : Nat) : Bool := !p.breaksFrom (max a b - min a b) (min a b)

/-- Where the line starts in which a place stands. -/
def lineStart (p : Page) : Nat → Nat
  | 0 => 0
  | at_ + 1 => if p.endsLineAt at_ then at_ + 1 else p.lineStart at_

/-- Where the next line starts after a place. Behind the last line, it is taken to start after the end. -/
def nextLine (p : Page) : (fuel at_ : Nat) → Nat
  | 0, at_ => at_ + 1
  | fuel + 1, at_ =>
    if p.length ≤ at_ then p.length + 1
    else if p.endsLineAt at_ then at_ + 1
    else p.nextLine fuel (at_ + 1)

/-- How far blanks reach between two places; a tab fills up to a multiple of four. -/
def blanks (p : Page) : (fuel at_ : Nat) → (width : Nat) → Nat
  | 0, _, width => width
  | fuel + 1, at_, width =>
    match p.char? at_ with
    | some '\t' => p.blanks fuel (at_ + 1) (width + 4 - width % 4)
    | some c => if Text.isSpace c then p.blanks fuel (at_ + 1) (width + 1) else width
    | none => width

end Page

end Distill.Concrete
