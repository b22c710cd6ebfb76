import Distill.Disk

/-!
The workspace root: the nearest place at or above a path that holds a `.git` directory.
-/
namespace Distill.Workspace

/-- A path and the paths of all the places above it, nearest first. -/
def upward (path : String) : List String :=
  "/" :: Path.ancestors path |>.reverse

/-- A path made absolute and normal. -/
def absolute (d : Disk) (path : String) : String :=
  if Path.isAbsolute path then Path.clean path else Path.join [d.cwd, path]

/-- The nearest place at or above `start` that holds a `.git` directory; links to directories count. -/
def findRoot (d : Disk) (start : String) : Except Failure String :=
  match (upward (absolute d start)).find? fun dir => d.isDirectory (Path.join [dir, ".git"]) with
  | some dir => .ok dir
  | none => .error (.fault .noRoot)

end Distill.Workspace
