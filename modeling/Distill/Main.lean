import Std.Time.DateTime.Timestamp
import Distill.Calendar
import Distill.FileTree.Change
import Distill.Program
import Distill.RunId

/-!
The command line. The part of the disk that a build can reach is read into a file tree, the build runs on that tree one
step at a time with the time of the system, and the disk is then changed to what the build left.
-/
namespace Distill.Main

/-- The location of an absolute path. -/
def location (path : String) : Location := (Path.pieces (Path.clean path)).filter (· ≠ "")

def absolutePath (l : Location) : String := "/" ++ Path.ofPieces l

/-- Adds a directory, with the directories above it. Where something is already, it stays. -/
def addDirectory (t : FileTree) (path : String) : FileTree :=
  (Path.beginnings (location path)).foldl (fun t l => if (t.get? l).isSome then t else t.set l .directory) t

/-- Stands for the content of a file that no build reads; no output is a single null. -/
def unread : Text.Bytes := [0]

def bytesOf (path : String) : IO Text.Bytes := do
  return (← IO.FS.readBinFile path).toList

/-- Where a path leads when links are followed, if it leads anywhere. -/
def target? (path : String) : IO (Option String) := do
  try return some (← IO.FS.realPath path).toString catch _ => return none

/-- What was read of the disk. -/
structure Snapshot where
  tree : FileTree
  /-- What was read with everything below it. -/
  complete : List Location

/-- Adds what is at a path that leads through no link, with everything below it. Links point to where they lead, and that
is added too. Files are read if they are sources or if they are wanted under another name. -/
partial def addAll (s : Snapshot) (path : String) (wanted : Bool) : IO Snapshot := do
  let l := location path
  if s.complete.contains l then return s
  let real ← IO.FS.realPath path
  if ← real.isDir then
    let mut s : Snapshot := ⟨addDirectory s.tree path, l :: s.complete⟩
    for child in ← real.readDir do
      let path := child.path.toString
      let wanted := Build.isSourceName child.fileName
      match (← child.path.symlinkMetadata).type with
      | .symlink =>
        let target := (← target? path).getD (path ++ "/missing")
        s := { s with tree := s.tree.set (location path) (.link target) }
        if ← child.path.pathExists then
          s ← addAll { s with tree := addDirectory s.tree (Path.parent target) } target wanted
      | _ => s ← addAll s path wanted
    return s
  else if wanted then return ⟨s.tree.set l (.file (← bytesOf path)), l :: s.complete⟩
  else if (s.tree.get? l).isSome then return s
  else return { s with tree := s.tree.set l (.file unread) }

/-- Adds the directories that a path names one after the other, and a link where a name leads elsewhere. -/
def addWay (t : FileTree) (cwd path : String) : IO FileTree := do
  let mut t := t
  for part in Path.ancestors path do
    let part := if Path.isAbsolute part then part else Path.join [cwd, part]
    if let some target ← target? part then
      t := addDirectory t (Path.parent target)
      if target ≠ Path.clean part then
        t := (addDirectory t (Path.parent part)).set (location part) (.link target)
  return t

/-- Adds everything at and below a path, wherever it leads. -/
def addTarget (s : Snapshot) (cwd path : String) (wanted : Bool) : IO Snapshot := do
  let t ← addWay s.tree cwd path
  match ← target? (if Path.isAbsolute path then path else Path.join [cwd, path]) with
  | some target => addAll { s with tree := addDirectory t (Path.parent target) } target wanted
  | none => return { s with tree := t }

/-- The directories in which the root of the workspace is looked for, each with its `.git` directory. -/
def addRootMarks (t : FileTree) (cwd : String) : IO FileTree := do
  let mut t := addDirectory t cwd
  for dir in Workspace.upward cwd do
    let mark := Path.join [dir, ".git"]
    if (← target? mark).isSome then
      if ← (← IO.FS.realPath mark).isDir then t := addDirectory t mark
  return t

/-- What a build with these options can reach. -/
def readDisk (o : Options) : IO Disk := do
  let cwd := (← IO.currentDir).toString
  let t ← addRootMarks .empty cwd
  match Program.root o ⟨t, cwd⟩ with
  | .ok root =>
    let s ← addTarget ⟨addDirectory t cwd, []⟩ cwd (Path.join [root, o.manifest]) true
    let s ← addTarget s cwd root false
    return ⟨s.tree, cwd⟩
  | .error _ => return ⟨t, cwd⟩

def applyChange : Change → IO Unit
  | .remove l => do
    let path := absolutePath l
    try IO.FS.removeFile path catch _ => IO.FS.removeDirAll path
  | .put l .directory => IO.FS.createDir (absolutePath l)
  | .put l (.file content) => IO.FS.writeBinFile (absolutePath l) ⟨content.toArray⟩
  | .put _ (.link _) => pure ()

/-- A clock that shows the time of the system. -/
def systemClock : IO Clock := do
  return ⟨(← IO.monoNanosNow), 0⟩

/-- Makes the steps of a crew until none is left, each at its own time. -/
partial def work (c : Build.ModuleCompiler) (limit : Nat) (crew : Build.Crew) : IO Build.Crew := do
  match crew.next? limit with
  | none => return crew
  | some index =>
    let clock ← systemClock
    work c limit ({ crew with world := { crew.world with clock } }.step c limit index)

/-- Builds what was planned, and times it. -/
def build (p : Program.Plan) (limit : Nat) (w : Build.World) : IO (Except Failure Report × Build.World) := do
  let started ← systemClock
  let crew ← work p.compiler limit (.start p.packages w)
  let ended ← systemClock
  return crew.outcome.map (·.map (crew.world.report started.now ended.now)) id

/-- Milliseconds since the epoch. -/
def milliseconds : IO Nat := do
  return (← Std.Time.Timestamp.now).toMillisecondsSinceUnixEpoch.val.toNat

def newRunId : IO String := do
  return RunId.make (← milliseconds) ((← IO.getRandomBytes 10).toList.map (·.toNat))

def run (o : Options) : IO Outcome := do
  let runId ← newRunId
  let disk ← readDisk o
  let result ← match Program.plan o (Program.start ⟨disk, ← systemClock, runId⟩) with
    | (.ok p, w) => build p (Program.limit o) w
    | (.error f, w) => pure (.error f, w)
  let outcome := Program.conclude o runId result
  (disk.tree.changes outcome.disk.tree).forM applyChange
  return outcome

/-- Shows what a command leaves behind, and gives its exit code. -/
def present (o : Outcome) : IO UInt32 := do
  let now := Calendar.text (← milliseconds)
  for line in o.alerts do IO.eprintln line
  for line in o.logged do IO.eprintln ("time=" ++ now ++ " " ++ line)
  for line in o.remarks do IO.eprintln line
  IO.print o.printed
  if let some complaint := o.failure.bind Program.complaint then IO.eprintln complaint
  return o.exitCode.toNat.toUInt32

end Distill.Main

def main (args : List String) : IO UInt32 := do
  let outcome ← match Distill.Program.accept args ⟨.empty, "/"⟩ with
    | .error outcome => pure outcome
    | .ok o => Distill.Main.run o
  Distill.Main.present outcome
