/-!
Listings of paths that grow in place. A listing lies in a row of slots with some room. Who extends a listing may work on
a row that was lent to it: as long as there is room the row itself is written, and whoever else looks at the row sees
that; without room the listing moves to a row of its own, twice as long.
-/
namespace Distill.Glob

structure Row where
  /-- The slots that were written so far. -/
  slots : List String
  room : Nat
deriving DecidableEq, Repr

/-- The row with one slot written. -/
def Row.put (r : Row) (i : Nat) (path : String) : Row :=
  { r with slots := r.slots.take i ++ path :: r.slots.drop (i + 1) }

/-- A listing that was started in a lent row. -/
structure Listing where
  lent : Row
  /-- The row of its own, once it has moved. -/
  own : Option Row
  /-- How many slots belong to the listing. -/
  count : Nat
deriving DecidableEq, Repr

namespace Listing

def empty : Listing := ⟨⟨[], 0⟩, none, 0⟩

/-- The row the listing lies in. -/
def row (l : Listing) : Row := l.own.getD l.lent

def paths (l : Listing) : List String := l.row.slots.take l.count

def setRow (l : Listing) (r : Row) : Listing :=
  match l.own with
  | none => { l with lent := r }
  | some _ => { l with own := some r }

/-- The listing with one more path. -/
def push (l : Listing) (path : String) : Listing :=
  if l.count < l.row.room then { l.setRow (l.row.put l.count path) with count := l.count + 1 }
  else { l with own := some ⟨l.paths ++ [path], max 1 (2 * l.row.room)⟩, count := l.count + 1 }

def pushAll (l : Listing) (paths : List String) : Listing := paths.foldl push l

/-- The listing as it is lent to someone who goes on with it. -/
def lend (l : Listing) : Listing := ⟨l.row, none, l.count⟩

/-- What became of the rows while someone worked on the listing as lent. -/
def reclaim (l worked : Listing) : Listing := l.setRow worked.lent

/-- The listing as someone went on with it. -/
def adopt (l worked : Listing) : Listing :=
  let l := l.reclaim worked
  { l with own := worked.own.orElse fun _ => l.own, count := worked.count }

/-- The path in a slot of a listing that was worked out from this one as lent. Unless it moved, its slots are those of
this listing's lent row as that now is. -/
def seen (l worked : Listing) (i : Nat) : String := ((worked.own.getD l.lent).slots.drop i).headD ""

/-- Puts a path before the first of some sorted paths that is not smaller. -/
def putBefore (path : String) : List String → List String
  | [] => [path]
  | p :: ps => if p < path then p :: putBefore path ps else path :: p :: ps

/-- Merges sorted paths into sorted paths: of two equal heads one goes, and a greater head changes places with the
other. When the first ones are used up the others stay as they are. The second list is what stands in the slots that
fall free, each of them filled with the path that was the last one then. -/
def merge : List String → List String → List String × List String
  | [], bs => (bs, [])
  | as, [] => (as, [])
  | a :: as, b :: bs =>
    if a < b then onFirst (a :: ·) (merge as (b :: bs))
    else if b < a then onFirst (b :: ·) (merge as (putBefore a bs))
    else
      let (merged, free) := merge as bs
      (a :: merged, free ++ [bs.getLastD b])
where
  onFirst (f : List String → List String) : List String × List String → List String × List String
    | (merged, free) => (f merged, free)

/-- Merges the slots from `middle` on into those from `first` to `middle`. -/
def mergeFrom (l : Listing) (first middle : Nat) : Listing :=
  let (merged, free) := merge ((l.paths.take middle).drop first) (l.paths.drop middle)
  let slots := l.paths.take first ++ merged ++ free ++ l.row.slots.drop l.count
  { l.setRow { l.row with slots } with count := first + merged.length }

end Listing

end Distill.Glob
