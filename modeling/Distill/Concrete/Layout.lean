import Distill.Concrete.Writer

/-!
How lists are laid out: which of their entries stand on lines of their own, what stands between them, and where the
comments between them go.
-/
namespace Distill.Concrete

/-- How the entries of a list stand on lines. -/
inductive Lines where
  | single
  /-- Each entry on a line of its own. -/
  | multi
  /-- As they stand in the text. -/
  | kept
deriving DecidableEq, Repr

structure Layout where
  lines : Lines := .single
  hasCommas : Bool := false
  /-- Whether a comma after the last entry stays. -/
  keepsComma : Bool := false
  isIndented : Bool := false
  /-- Blanks inside of braces. -/
  spaceInside : Bool := false
  /-- No blank inside of braces with nothing else between them. -/
  closesEmpty : Bool := false
  spaceBetween : Bool := false
  spaceAfter : Bool := false
  brackets : Option (String × String) := none
  isOptional : Bool := false
  prefersLines : Bool := false
  /-- No new line after the last entry. -/
  endsOpen : Bool := false
  /-- Comments before an entry on the same line are its own. -/
  skipsComments : Bool := false
deriving DecidableEq, Repr

namespace Layout

def modifiers : Layout := { spaceBetween := true, spaceAfter := true, skipsComments := true }

def objectPattern : Layout :=
  { hasCommas := true, keepsComma := true, spaceInside := true, spaceBetween := true, closesEmpty := true }

def arrayPattern : Layout := { hasCommas := true, keepsComma := true, spaceBetween := true, closesEmpty := true }

def importOptions : Layout :=
  { lines := .kept, hasCommas := true, spaceBetween := true, spaceInside := true, isIndented := true
    brackets := some ("\x7b", "\x7d"), closesEmpty := true }

def objectMembers (isMultiLine : Bool) : Layout := { importOptions with keepsComma := true, prefersLines := isMultiLine }

def arrayItems (isMultiLine : Bool) : Layout :=
  { lines := .kept, hasCommas := true, spaceBetween := true, keepsComma := true, isIndented := true
    brackets := some ("[", "]"), prefersLines := isMultiLine }

def arguments : Layout := { hasCommas := true, spaceBetween := true, brackets := some ("(", ")") }

/-- A list of parameters without the parentheses. -/
def plainParameters : Layout := { hasCommas := true, spaceBetween := true }

def templateSpans : Layout := { skipsComments := true }

def openBlock : Layout := { spaceInside := true, spaceBetween := true }

def block : Layout := { lines := .multi, isIndented := true }

def statements : Layout := { lines := .multi }

def declarators : Layout := { hasCommas := true, spaceBetween := true }

def heritage : Layout := {}

def specifiers : Layout :=
  { hasCommas := true, spaceBetween := true, keepsComma := true, spaceInside := true, closesEmpty := true }

def clauseBody : Layout := { lines := .multi, isIndented := true, endsOpen := true, isOptional := true }

/-- The body of a clause on the line of the clause. -/
def clauseLine : Layout := { endsOpen := true, isOptional := true }

end Layout

/-- The extent whose comments go with a part. -/
def Tree.remarks (t : Tree) : Extent :=
  match t.node with
  | .parameter comments .. => comments
  | _ => t.extent

namespace Emit

/-- What the entries of a list belong to. -/
structure Owner where
  extent : Extent
  isChanged : Bool
deriving Inhabited

def Owner.of (t : Tree) : Owner := ⟨t.extent, t.isChanged⟩

/-- Whether a new line comes before the first entry of a list. -/
def startsLine (owner : Owner) (first : Option Tree) (layout : Layout) : Emit Bool := do
  let e ← get
  if layout.lines = .kept then
    if layout.prefersLines then return true
    match first with
    | none => return !e.page.sameLine (e.page.startOf owner.extent.before) owner.extent.stop
    | some t =>
      if !t.isMade && e.nextItem = some t.before then return false
      if !owner.extent.isMade && !t.isMade then
        return !e.page.sameLine (e.page.startOf owner.extent.before) (e.page.startOf t.before)
      return false
  return layout.lines = .multi

/-- Whether a new line comes between two entries of a list. -/
def dividesLine (previous next : Tree) (layout : Layout) : Emit Bool := do
  if layout.lines = .kept then
    if !previous.isMade && !next.isMade then
      let page ← page
      return !page.sameLine previous.stop (page.startOf next.before)
    return layout.prefersLines
  match next.node with
  | .store _ => return true
  | _ => return layout.lines = .multi

/-- Whether a new line comes after the last entry of a list. -/
def endsLine (owner : Owner) (last : Option Tree) (layout : Layout) : Emit Bool := do
  if layout.lines = .kept then
    if layout.prefersLines then return true
    let page ← page
    match last with
    | none => return !page.sameLine (page.startOf owner.extent.before) owner.extent.stop
    | some t =>
      if !owner.extent.isMade && !t.isMade && (t.isChanged || !owner.isChanged) then
        return !page.sameLine owner.extent.stop t.stop
      return false
  return layout.lines = .multi && !layout.endsOpen

/-- Writes the entries of a list after one of them. `mayRemark` tells whether comments before the next entry on the same
line are written before it. -/
def itemsOf (emit : Tree → Emit Unit) (owner : Owner) (layout : Layout) :
    (previous : Option Tree) → (mayRemark : Bool) → List Tree → Emit Unit
  | _, _, [] => return
  | previous, mayRemark, t :: rest => do
    let mut mayRemark := mayRemark
    let mut isSet := false
    if let some p := previous then
      if layout.hasCommas then
        if p.stop ≠ owner.extent.stop || p.isMade ≠ owner.extent.isMade then
          if !p.isMade then leadingOf p.stop
        write ","
      if ← dividesLine p t layout then
        if layout.lines = .single && !layout.isIndented then
          indent
          isSet := true
        line
        mayRemark := false
      else if layout.spaceBetween then space
    if mayRemark && !t.remarks.isMade then trailingOf t.remarks.before .after
    modify fun e => { e with nextItem := if t.isMade then none else some t.before }
    emit t
    if isSet then outdent
    itemsOf emit owner layout (some t) (!layout.skipsComments) rest

/-- Writes the entries of a list, of which there is at least one, with what stands around them. -/
def filledListOf (emit : Tree → Emit Unit) (owner : Owner) (list : Listing) (items : List Tree) (layout : Layout) :
    Emit Unit := do
  let starts ← startsLine owner items.head? layout
  if starts then line else if layout.spaceInside then space
  if layout.isIndented then indent
  itemsOf emit owner layout none (!layout.skipsComments && !starts) items
  let last := items.getLast?
  let hasComma := list.hasComma && layout.keepsComma && layout.hasCommas
  if let some t := last then
    if hasComma then discard (tokenOf t.extent "," t.stop)
    if owner.extent.stop ≠ t.stop && layout.hasCommas && !t.isMade then
      leadingOf (if hasComma && list.extent.stop ≠ 0 then list.extent.stop else t.stop)
  if layout.isIndented then outdent
  if ← endsLine owner last layout then line
  else if layout.spaceAfter || layout.spaceInside then space

/-- Writes a list. -/
def listOf (emit : Tree → Emit Unit) (owner : Owner) (list : Listing) (items : List Tree) (layout : Layout) :
    Emit Unit := do
  if items.isEmpty && layout.isOptional then return
  if let some (opening, _) := layout.brackets then
    write opening
    if items.isEmpty && !list.extent.isMade then trailingOf list.extent.before .before
  if items.isEmpty then
    if layout.lines = .multi then line
    else if layout.spaceInside && !layout.closesEmpty then space
  else filledListOf emit owner list items layout
  if let some (_, closing) := layout.brackets then
    if items.isEmpty && !list.extent.isMade then leadingOf list.extent.stop
    write closing

end Emit

end Distill.Concrete
