import Distill.FileTree

/-!
What has to be done to one tree to get another: first everything that has to go is removed, then the entries that are
new are put in place, each after the directory that holds it.
-/
namespace Distill

inductive Change where
  /-- Removes an entry with everything below it. -/
  | remove (l : Location)
  /-- Creates a directory, or writes a file. -/
  | put (l : Location) (e : Entry)
deriving DecidableEq, Repr

/-- Whether one entry can take the place of the other without removing it first. -/
def Entry.sameKind : Entry → Entry → Bool
  | .directory, .directory => true
  | .file _, .file _ => true
  | .link s, .link t => s = t
  | _, _ => false

namespace FileTree

/-- Whether an entry has to be removed on the way to a tree. -/
def lacks (after : FileTree) (x : Location × Entry) : Bool :=
  match after.get? x.1 with
  | some e => !e.sameKind x.2
  | none => true

/-- What has to go. What lies in a directory that goes is not named by itself. -/
def removals (before after : FileTree) : List Change :=
  (before.entries.filter fun x => after.lacks x && after.get? x.1.dropLast = some .directory).map (.remove ·.1)

/-- What is new or has a new content, in the order of the tree: a directory comes before what it holds. -/
def additions (before after : FileTree) : List Change :=
  (after.entries.filter fun x => before.get? x.1 ≠ some x.2).map fun x => .put x.1 x.2

/-- The way from one tree to another. -/
def changes (before after : FileTree) : List Change := removals before after ++ additions before after

end FileTree

end Distill
