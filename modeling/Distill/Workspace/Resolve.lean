import Distill.Log
import Distill.Manifest
import Distill.Package
import Distill.Workspace.Expand

/-!
The packages of a workspace: the directories that the patterns of the manifest name, each one once.
-/
namespace Distill.Workspace

/-- Adds the directories that are not there yet, in order. -/
def addNew (found dirs : List String) : List String :=
  dirs.foldl (fun found dir => if found.contains dir then found else found ++ [dir]) found

/-- The directories that some patterns name, in the order of the patterns and then of the matches. -/
def expandAll (d : Disk) (root : String) (patterns : List String) : Except Failure (List String) :=
  patterns.foldlM (fun found pattern => do return addNew found (← expand d root pattern)) []

/-- The packages that a manifest names. -/
def packagesOf (d : Disk) (root : String) (m : Manifest) : Except Failure (List Package) := do
  return (← expandAll d root m.patterns).map fun dir => ⟨root, dir⟩

/-- What is logged before the patterns are expanded. -/
def skipRecords (m : Manifest) : List Log.Record :=
  let skipped := m.packages.length - m.patterns.length
  if skipped = 0 then [] else [⟨.debug, "skipping patterns listed in skip-ts", [("count", .count skipped)]⟩]

/-- What is logged in the end. -/
def doneRecord (root : String) (ps : List Package) : Log.Record :=
  ⟨.debug, "resolved workspace", [("root", .text root), ("packages", .count ps.length)]⟩

/-- The packages of the workspace at `root`, and what is logged on the way. An empty manifest name is the default. -/
def resolve (d : Disk) (root manifestName : String) : Except Failure (List Package) × List Log.Record :=
  let name := if manifestName = "" then Manifest.defaultName else manifestName
  match Manifest.load d (Path.join [root, name]) with
  | .error f => (.error f, [])
  | .ok m =>
    match packagesOf d root m with
    | .error f => (.error f, skipRecords m)
    | .ok ps => (.ok ps, skipRecords m ++ [doneRecord root ps])

end Distill.Workspace
