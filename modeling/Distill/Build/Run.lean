import Distill.Build.Job
import Distill.Report

/-!
Building a list of packages, in order or several at a time, and the report on it. In order, the first failure ends the
run. Several at a time, it cancels the others, and it is what the run reports.
-/
namespace Distill.Build

/-- Builds one package of a run: its records go to the collector only if all its sources compile. -/
def buildOne (c : ModuleCompiler) (p : Package) : Action PackageTimings := fun w =>
  match buildPackage c p w with
  | (.ok timings, w) => (.ok ⟨p, timings⟩, (Job.succeed ⟨p, .preparing [], timings⟩ w).2)
  | (.error f, w) => (.error f, (Job.fail (.start p) f w).2)

/-- Builds packages in order. -/
def inOrder (c : ModuleCompiler) : List Package → Action (List PackageTimings)
  | [] => fun w => (.ok [], w)
  | p :: ps =>
    (buildOne c p).andThen fun built =>
      (inOrder c ps).andThen fun rest w => (.ok (built :: rest), w)

/-- Several jobs on one world. The first failure is kept, and it cancels the rest. -/
structure Crew where
  jobs : List Job
  world : World
  failure : Option Failure

namespace Crew

def start (ps : List Package) (w : World) : Crew := ⟨ps.map Job.start, w, none⟩

/-- Whether a job may run: fewer than `limit` jobs before it are not over. -/
def mayRun (crew : Crew) (limit index : Nat) : Bool :=
  ((crew.jobs.take index).filter fun j => !j.isOver).length < limit

/-- Puts a job back after some of its steps. -/
def update (crew : Crew) (index : Nat) (r : Job × World) : Crew :=
  let jobs := crew.jobs.set index r.1
  match r.1.phase, crew.failure with
  | .failed f, none => ⟨jobs, { r.2 with canceled := true }, some f⟩
  | _, failure => ⟨jobs, r.2, failure⟩

/-- One step of the job at an index, if it may run. -/
def step (c : ModuleCompiler) (limit : Nat) (crew : Crew) (index : Nat) : Crew :=
  match crew.jobs[index]? with
  | some j => if crew.mayRun limit index then crew.update index (j.step c crew.world) else crew
  | none => crew

/-- Brings the job at an index to its end. -/
def finishJob (c : ModuleCompiler) (crew : Crew) (index : Nat) : Crew :=
  match crew.jobs[index]? with
  | some j => crew.update index (j.finish c crew.world)
  | none => crew

/-- Follows a schedule of job indices, then brings the jobs that are left to their end in order. -/
def follow (c : ModuleCompiler) (limit : Nat) (schedule : List Nat) (crew : Crew) : Crew :=
  let crew := schedule.foldl (step c limit) crew
  (List.range crew.jobs.length).foldl (finishJob c) crew

/-- The job whose turn it is when one package is built after another: the first that is not over. A failure ends a run
that does not build several packages at a time. -/
def next? (crew : Crew) (limit : Nat) : Option Nat :=
  if limit < 2 ∧ crew.failure.isSome then none else crew.jobs.findIdx? fun j => !j.isOver

/-- What a crew that is done gives. -/
def outcome (crew : Crew) : Except Failure (List PackageTimings) × World :=
  match crew.failure with
  | some f => (.error f, crew.world)
  | none => (.ok (crew.jobs.map fun j => ⟨j.package, j.timings⟩), crew.world)

end Crew

/-- Builds packages several at a time, their steps interleaved as the schedule says. -/
def together (c : ModuleCompiler) (limit : Nat) (schedule : List Nat) (ps : List Package) :
    Action (List PackageTimings) := fun w =>
  ((Crew.start ps w).follow c limit schedule).outcome

/-- Reads the clock of the whole run. -/
def World.readWall (w : World) : Instant × World :=
  match w.wallClock with
  | some clock =>
    let (now, clock) := clock.read
    (now, { w with wallClock := some clock })
  | none =>
    let (now, clock) := w.clock.read
    (now, { w with clock })

/-- The report on a run between two instants. -/
def World.report (w : World) (started ended : Instant) (packages : List PackageTimings) : Report :=
  ⟨Duration.between started ended, w.collector.total, packages⟩

/-- Times a run and reports on it. A failed run has no report. -/
def timed (work : Action (List PackageTimings)) : Action Report := fun w =>
  let (started, w) := w.readWall
  match work w with
  | (.ok packages, w) =>
    let (ended, w) := w.readWall
    (.ok (w.report started ended packages), w)
  | (.error f, w) => (.error f, w)

/-- Builds packages with at most `jobs` of them under construction at a time. -/
def run (c : ModuleCompiler) (jobs : Nat) (ps : List Package) : Action Report :=
  if jobs < 2 then timed (inOrder c ps) else timed (together c jobs [] ps)

end Distill.Build
