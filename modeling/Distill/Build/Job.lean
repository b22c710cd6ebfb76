import Distill.Build.Package

/-!
A package under construction, one atomic step at a time, for runs that build several packages at once.
-/
namespace Distill.Build

/-- What a job does next. -/
inductive Phase where
  | removing
  | listing
  /-- To start on the first of these sources. -/
  | preparing (todo : List String)
  | compiling (source : String) (watch : Stopwatch) (todo : List String)
  | storing (source : String) (watch : Stopwatch) (output : Text.Bytes) (todo : List String)
  | finished
  | failed (f : Failure)

structure Job where
  package : Package
  phase : Phase
  /-- The records of the sources compiled so far. -/
  timings : List Timing

namespace Job

def start (p : Package) : Job := ⟨p, .removing, []⟩

def isOver (j : Job) : Bool :=
  match j.phase with
  | .finished => true
  | .failed _ => true
  | _ => false

/-- Ends a job with a failure, which is logged. -/
def fail (j : Job) (f : Failure) (w : World) : Job × World :=
  ({ j with phase := .failed f },
    w.note ⟨.error, "package failed", [("package", .text j.package.packageRoot), ("error", .text f.message)]⟩)

/-- Ends a job that has compiled all its sources: its records go to the collector. -/
def succeed (j : Job) (w : World) : Job × World :=
  let total := Total.ofList j.timings
  ({ j with phase := .finished },
    { w with collector := w.collector.append j.timings }.note
      ⟨.info, "compiled package",
        [("package", .text j.package.packageRoot), ("files", .count j.timings.length), ("elapsed", .time total.elapsed)]⟩)

/-- Goes on with what an action gave, or fails with it. -/
def after {α : Type} (j : Job) (r : Except Failure α × World) (next : α → Job) : Job × World :=
  match r with
  | (.ok x, w) => (next x, w)
  | (.error f, w) => j.fail f w

/-- The next step of a job. A job that is over stays as it is. -/
def step (c : ModuleCompiler) (j : Job) (w : World) : Job × World :=
  match j.phase with
  | .removing => j.after (removeOutput j.package w) fun _ => { j with phase := .listing }
  | .listing => j.after (listSources j.package w) fun found => { j with phase := .preparing found }
  | .preparing [] => j.succeed w
  | .preparing (source :: todo) =>
    j.after (prepare j.package source w) fun watch => { j with phase := .compiling source watch todo }
  | .compiling source watch todo =>
    j.after (compileSource c j.package source w) fun output => { j with phase := .storing source watch output todo }
  | .storing source watch output todo =>
    j.after (store j.package source watch output w) fun timing =>
      { j with phase := .preparing todo, timings := j.timings ++ [timing] }
  | .finished => (j, w)
  | .failed _ => (j, w)

/-- How many steps are left at most, once the sources are listed. -/
def stepsLeft (j : Job) : Nat :=
  match j.phase with
  | .preparing todo => 3 * todo.length + 1
  | .compiling _ _ todo => 3 * todo.length + 3
  | .storing _ _ _ todo => 3 * todo.length + 2
  | _ => 0

/-- Makes a number of steps. -/
def steps (c : ModuleCompiler) : Nat → Job → World → Job × World
  | 0, j, w => (j, w)
  | n + 1, j, w =>
    let (j, w) := j.step c w
    steps c n j w

/-- Brings a job to its end. -/
def finish (c : ModuleCompiler) (j : Job) (w : World) : Job × World :=
  let (j, w) := steps c 2 j w
  steps c j.stepsLeft j w

end Job

end Distill.Build
