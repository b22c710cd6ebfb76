import Distill.Build.Run
import Distill.Completion
import Distill.Options
import Distill.Output
import Distill.Workspace.Resolve
import Distill.Workspace.Root

/-!
The command as a whole: from its arguments and the disk to what it prints, what it logs, and the disk that it leaves.
-/
namespace Distill

/-- What the command starts from besides its arguments. -/
structure Setting where
  disk : Disk
  clock : Clock
  runId : String

/-- What the command leaves behind. -/
structure Outcome where
  printed : String
  /-- The lines of the log. -/
  logged : List String
  failure : Option Failure
  disk : Disk
  /-- Lines for the error stream that are not part of the log. -/
  remarks : List String := []
  /-- Lines for the error stream of the process, which come first. -/
  alerts : List String := []

/-- The exit code of the process. -/
def Outcome.exitCode (o : Outcome) : Int := (o.failure.map Failure.exitCode).getD 0

namespace Program

/-- The compiler that the options ask for. -/
def moduleCompiler (o : Options) : Except Failure Build.ModuleCompiler := do
  let strip ← Stripper.named o.transpiler o.elide
  return ⟨Compiler.compileFile strip, fun _ => false⟩

def output (o : Options) (runId : String) : Output := ⟨.ofName o.format, o.verbose, runId⟩

/-- The records at or above the level that the options ask for, each with the run they belong to. -/
def logLines (o : Options) (runId : String) (rs : List Log.Record) : List String :=
  Log.lines (if o.verbose then .debug else .warn) [("run_id", .text runId)] rs

/-- The root that the options name or else the nearest one above the working directory. -/
def root (o : Options) (d : Disk) : Except Failure String :=
  if o.root = "" then Workspace.findRoot d d.cwd else .ok o.root

/-- The world in which the command starts. -/
def start (s : Setting) : Build.World :=
  { disk := s.disk, clock := s.clock, wallClock := none, canceled := false, log := [], collector := .empty }

/-- What there is to build, and the compiler to build it with. -/
structure Plan where
  compiler : Build.ModuleCompiler
  packages : List Package

/-- Finds the packages below a root. -/
def planAt (o : Options) (root : String) : Build.Action Plan := fun w =>
  let w := w.note ⟨.debug, "workspace root", [("root", .text root)]⟩
  let (packages, records) := Workspace.resolve w.disk root o.manifest
  let w := { w with log := w.log ++ records }
  match packages with
  | .error f => (.error f, w)
  | .ok ps =>
    let w := w.note ⟨.info, "resolved packages", [("count", .count ps.length)]⟩
    match moduleCompiler o with
    | .error f => (.error f, w)
    | .ok c => (.ok ⟨c, ps⟩, w)

/-- Finds the root and the packages below it. -/
def plan (o : Options) : Build.Action Plan := fun w =>
  match root o w.disk with
  | .ok r => planAt o r w
  | .error f => (.error f, w)

/-- How many packages are built at a time. -/
def limit (o : Options) : Nat := o.jobs.toNat

/-- What the command leaves behind after a run: the report or the failure is printed. -/
def conclude (o : Options) (runId : String) (result : Except Failure Report × Build.World) : Outcome :=
  let out := output o runId
  let logged := logLines o runId result.2.log
  match result.1 with
  | .ok report =>
    { printed := out.result report.text report.json, logged, failure := none, disk := result.2.disk }
  | .error f =>
    { printed := (out.runFailure f).1, logged, failure := some (out.runFailure f).2, disk := result.2.disk }

/-- The command with options that were accepted. -/
def runWith (o : Options) (s : Setting) : Outcome :=
  conclude o s.runId <|
    (plan o).andThen (fun p => Build.run p.compiler (limit o) p.packages) (start s)

/-- The outcome of a command that only prints something. -/
def saying (text : String) (d : Disk) : Outcome := { printed := text, logged := [], failure := none, disk := d }

/-- The outcome of a command with arguments that are refused. -/
def refusing (p : OptionProblem) (d : Disk) : Outcome :=
  { printed := "", logged := [], failure := some (.fault (.other p.message)), disk := d }

/-- The outcome of a command that completes a word. -/
def completing (r : Completion.Request) (d : Disk) : Outcome :=
  match r.answer with
  | .error p => refusing p d
  | .ok c =>
    { saying (c.text r.isDescribed) d with
      remarks := [c.remark]
      alerts := c.problem.toList.map fun p => "[Debug] [Error] " ++ p.message }

/-- The options of a command that is to build. Arguments that are refused, requests for help and requests for completion
end it at once and touch nothing. -/
def accept (args : List String) (d : Disk) : Except Outcome Options :=
  match Completion.request? args with
  | some r => .error (completing r d)
  | none =>
    match Options.ofArguments args with
    | .error p => .error (refusing p d)
    | .ok o => if o.help then .error (saying Options.helpText d) else .ok o

/-- The command. -/
def run (args : List String) (s : Setting) : Outcome :=
  match accept args s.disk with
  | .error outcome => outcome
  | .ok o => runWith o s

/-- The line that the process itself adds about a failure that was not printed yet. -/
def complaint (f : Failure) : Option String :=
  if f.exitCode?.isSome then none else some ("Error: " ++ f.message)

end Program

end Distill
