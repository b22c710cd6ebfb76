import Distill.Concrete.Page

/-!
Writing a text with the comments that go with its parts. Every comment belongs to one part: the outermost that begins or
ends where it stands. A part remembers where it stands while its own parts are written, so that they leave its comments to
it.
-/
namespace Distill.Concrete

/-- Where the part around stands, as far as comments there are left to it. -/
structure Surrounding where
  before : Option Nat := none
  stop : Option Nat := none
  /-- Where the variables around end. -/
  declaratorsStop : Option Nat := none
deriving DecidableEq, Repr

structure Emission where
  page : Page
  /-- What was written, the last first. -/
  pieces : List String := []
  /-- The last character that was written. -/
  last : Option Char := none
  indent : Nat := 0
  atLineStart : Bool := true
  afterComment : Bool := false
  surrounding : Surrounding := {}
  /-- Whether a comment was written among the last ones. -/
  hasWritten : Bool := false
  /-- Comments that were written ahead: where they stand, and where they end. -/
  detached : List (Nat × Nat) := []
  /-- Where the entry of a list begins that is written next. -/
  nextItem : Option Nat := none

abbrev Emit := StateM Emission

namespace Emit

/-- The end of a line that is written. -/
def lineEnd : String := "\r\n"

def page : Emit Page := return (← get).page

/-- Adds a text as it is. -/
def put (text : String) (isComment : Bool) : Emit Unit := modify fun e =>
  let last := text.toList.getLast?
  { e with
    pieces := text :: e.pieces
    last := last <|> e.last
    atLineStart := last.any Text.isLineEnd
    afterComment := isComment }

/-- Writes a text, indented if it is the first of its line. -/
def writeAs (isComment : Bool) (text : String) : Emit Unit := do
  if text ≠ "" then
    let e ← get
    let blanks := if e.atLineStart then String.ofList (List.replicate (4 * e.indent) ' ') else ""
    put (blanks ++ text) isComment

def write (text : String) : Emit Unit := writeAs false text

def space : Emit Unit := write " "

/-- Ends the line, unless nothing stands on it. -/
def line : Emit Unit := modify fun e =>
  if e.atLineStart then e
  else { e with pieces := lineEnd :: e.pieces, last := some '\n', atLineStart := true, afterComment := false }

def indented (p : Emit α) : Emit α := do
  modify fun e => { e with indent := e.indent + 1 }
  let a ← p
  modify fun e => { e with indent := e.indent - 1 }
  return a

/-- Goes to the next depth of nesting. -/
def indent : Emit Unit := modify fun e => { e with indent := e.indent + 1 }

/-- Goes back to the depth of nesting around. -/
def outdent : Emit Unit := modify fun e => { e with indent := e.indent - 1 }

/-- A text without the blanks around it. -/
def trimmed (cs : List Char) : List Char :=
  let isBlank (c : Char) : Bool := Text.isSpace c || Text.isLineEnd c
  ((cs.dropWhile isBlank).reverse.dropWhile isBlank).reverse

/-- Writes the lines of a comment from a place on, each as far to the right of the first as it was. -/
def remarkLines (r : Remark) (first : Nat) : (fuel at_ : Nat) → Emit Unit
  | 0, _ => return
  | fuel + 1, at_ => do
    if at_ < r.stop then
      let page ← page
      let next := page.nextLine (page.length + 1 - at_) at_
      if at_ ≠ r.start then
        let width := 4 * (← get).indent + page.blanks (next - at_) at_ 0 - first
        put (String.ofList (List.replicate width ' ')) false
      let stop := min r.stop (next - 1)
      let text := trimmed (page.between at_ stop)
      if text.isEmpty then put lineEnd false
      else
        writeAs true (String.ofList text)
        if stop ≠ r.stop then line
      remarkLines r first fuel next

/-- Writes a comment. -/
def remark (r : Remark) : Emit Unit := do
  let page ← page
  if r.isLine then writeAs true (String.ofList (page.between r.start r.stop))
  else
    let lineStart := page.lineStart r.start
    remarkLines r (page.blanks (r.start - lineStart) lineStart 0) (r.stop - r.start + 1) r.start

/-- Ends the line if the first comment stands on another line than the place where comments are looked for. -/
def lineBefore (at_ : Nat) (r : Remark) : Emit Unit := do
  if at_ ≠ r.start && !(← page).sameLine at_ r.start then line

/-- Writes comments that lead something, looked for from a place on. -/
def leadingRemarks (at_ : Nat) : List Remark → Emit Unit
  | [] => return
  | r :: rest => do
    if !(← get).hasWritten then
      lineBefore at_ r
      modify fun e => { e with hasWritten := true }
    remark r
    if r.endsLine then line else if !r.isLine then space
    leadingRemarks at_ rest

/-- Writes the comments that lead what begins at a place, unless they are left to the part around. -/
def leadingOf (at_ : Nat) : Emit Unit := do
  modify fun e => { e with hasWritten := false }
  let e ← get
  if e.surrounding.before ≠ some at_ then
    match e.detached with
    | (place, stop) :: rest =>
      if place = at_ then
        modify fun e => { e with detached := rest }
        leadingRemarks stop (e.page.leading stop)
      else leadingRemarks at_ (e.page.leading at_)
    | [] => leadingRemarks at_ (e.page.leading at_)

/-- How comments after something are set apart. -/
inductive Apart where
  /-- With a blank before each. -/
  | before
  /-- With a blank after each. -/
  | after
deriving DecidableEq, Repr

/-- Writes the comments that trail what ends at a place, unless they are left to the part around. -/
def trailingOf (at_ : Nat) (apart : Apart) : Emit Unit := do
  let e ← get
  if e.surrounding.stop ≠ some at_ && e.surrounding.declaratorsStop ≠ some at_ || e.surrounding.stop = none then
    (e.page.trailing at_).forM fun r => do
      if apart = .before && !(← get).atLineStart then space
      remark r
      if r.endsLine then line else if apart = .after then space

/-- Whether comments are looked for around a part. -/
def hasComments (x : Extent) : Bool := !x.isMade && (x.before ≠ 0 || x.stop ≠ 0) && x.before ≠ x.stop

/-- Takes back where the part around stands. -/
def restore (s : Surrounding) : Emit Unit := modify fun e => { e with surrounding := s }

/-- Writes a part with the comments around it. The comments before a part that is left out go with it. -/
def withRemarks (x : Extent) (isLeftOut isDeclarators : Bool) (body : Emit Unit) : Emit Unit := do
  modify fun e => { e with hasWritten := false }
  let around := (← get).surrounding
  if hasComments x then
    if !isLeftOut then leadingOf x.before
    modify fun e => { e with surrounding :=
      { before := some x.before, stop := some x.stop
        declaratorsStop := if isDeclarators then some x.stop else e.surrounding.declaratorsStop } }
    body
    restore around
    if !isLeftOut then trailingOf x.stop .before
  else body

/-- Writes a token of a part with the comments around it; gives back where it ends. -/
def tokenOf (parent : Extent) (text : String) (at_ : Nat) (indentsLeading : Bool := false) : Emit Nat := do
  if parent.isMade then
    write text
    return at_ + text.length
  let page ← page
  let start := page.startOf at_
  if parent.before ≠ at_ then
    if indentsLeading && !page.sameLine at_ start then indented (leadingOf at_) else leadingOf at_
  write text
  let stop := start + text.length
  if parent.stop ≠ stop then trailingOf stop .before
  return stop

end Emit

end Distill.Concrete
