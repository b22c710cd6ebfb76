import Distill.Build.Sources
import Distill.Log
import Distill.Package
import Distill.Timing

/-!
Building one package: its output directory is removed, its sources are listed, and each source in turn is compiled and
written. The building blocks are single calls on the disk, each an action on the world of a run.

A failure names the call that was refused: `stat`, `mkdir`, `read` or `write`. On a disk without permissions neither
removing an output directory nor listing the sources can be refused, so there is no failure with the name `remove` or
`scan`. Cancellation is noticed between files, and by the compiler within a file; a run has no deadline.
-/
namespace Distill.Build

/-- Compiles one file, given its path and what reading it gave. -/
structure ModuleCompiler where
  compile : String → Except Fault Text.Bytes → Except Failure Text.Bytes
  /-- Whether the run is canceled while this file is being compiled. -/
  cancels : String → Bool

/-- Everything that a run reads and changes. -/
structure World where
  disk : Disk
  /-- Times the files. -/
  clock : Clock
  /-- Times the whole run, if it has a clock of its own. -/
  wallClock : Option Clock
  canceled : Bool
  log : List Log.Record
  collector : Collector

/-- Something that may fail and that changes the world in any case. -/
abbrev Action (α : Type) := World → Except Failure α × World

def World.note (w : World) (r : Log.Record) : World := { w with log := w.log ++ [r] }

/-- Removes an old output directory. Only a directory is removed; anything else in its place is an error. -/
def clean (d : Disk) (dir : String) : Except Failure Disk :=
  match d.lookUp false dir with
  | .ok .directory => .ok (d.removeAll dir)
  | .ok _ => .error (.fault (.output dir "exists, but is not a directory"))
  | .error .noEntry => .ok d
  | .error e => .error (.within (.access "stat" dir) (.fault (.system "lstat" dir e)))

/-- The path of a source of a package. -/
def sourcePath (p : Package) (source : String) : String := Path.join [p.dir, source]

/-- The path of the output of a source. -/
def outputPath (p : Package) (source : String) : String := Path.join [p.outputDir, Package.outputName source]

def removeOutput (p : Package) : Action Unit := fun w =>
  match clean w.disk p.outputDir with
  | .ok disk => (.ok (), { w with disk })
  | .error f => (.error f, w)

def listSources (p : Package) : Action (List String) := fun w =>
  let found := sources w.disk p.dir
  (.ok found, w.note ⟨.debug, "compiling package", [("package", .text p.packageRoot), ("files", .count found.length)]⟩)

/-- Starts on a source, unless the run is canceled: opens its record and creates the directory of its output. -/
def prepare (p : Package) (source : String) : Action Stopwatch := fun w =>
  if w.canceled then (.error (.fault .canceled), w)
  else
    let (watch, clock) := Stopwatch.start w.clock (sourcePath p source)
    let dir := Path.parent (outputPath p source)
    match w.disk.makeDirectories dir with
    | .ok disk => (.ok watch, { w with disk, clock })
    | .error f => (.error (.within (.access "mkdir" dir) (.fault f)), { w with clock })

/-- Compiles a source. Errors of the module itself and cancellation are passed on as they are. -/
def compileSource (c : ModuleCompiler) (p : Package) (source : String) : Action Text.Bytes := fun w =>
  let path := sourcePath p source
  let w := { w with canceled := w.canceled || c.cancels path }
  match c.compile path (w.disk.contents path) with
  | .ok output => (.ok output, w)
  | .error f =>
    if f.isMalformed || f.isCanceled then (.error f, w) else (.error (.within (.access "read" path) f), w)

/-- Writes the output of a source and closes its record. -/
def store (p : Package) (source : String) (watch : Stopwatch) (output : Text.Bytes) : Action Timing := fun w =>
  let path := outputPath p source
  match w.disk.writeFile path output with
  | .ok disk =>
    let (timing, clock) := watch.stop w.clock
    (.ok timing, { w with disk, clock }.note ⟨.debug, "compiled file",
      [("package", .text p.packageRoot), ("file", .text source), ("elapsed", .time timing.elapsed)]⟩)
  | .error f => (.error (.within (.access "write" path) (.fault f)), w)

/-- Does one thing after another; the first failure ends it. -/
def Action.andThen {α β : Type} (a : Action α) (next : α → Action β) : Action β := fun w =>
  match a w with
  | (.ok x, w) => next x w
  | (.error f, w) => (.error f, w)

/-- Compiles one source from start to end. -/
def compileFile (c : ModuleCompiler) (p : Package) (source : String) : Action Timing :=
  (prepare p source).andThen fun watch =>
    (compileSource c p source).andThen fun output =>
      store p source watch output

/-- Compiles some sources in order. -/
def compileFiles (c : ModuleCompiler) (p : Package) : List String → Action (List Timing)
  | [] => fun w => (.ok [], w)
  | source :: rest =>
    (compileFile c p source).andThen fun timing =>
      (compileFiles c p rest).andThen fun timings w => (.ok (timing :: timings), w)

/-- Builds a package and gives one record for each of its sources, in order. -/
def buildPackage (c : ModuleCompiler) (p : Package) : Action (List Timing) :=
  (removeOutput p).andThen fun _ =>
    (listSources p).andThen fun found =>
      compileFiles c p found

end Distill.Build
